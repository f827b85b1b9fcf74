import ServiceContainer.Proofs.Confinement
import ServiceContainer.Proofs.Dependents
import ServiceContainer.Proofs.Emptiness
import ServiceContainer.Proofs.Execution.Refinement

/-! What a resolution leaves alone. Main statement: if the user code of a resolution keeps to the
scopes that it is handed, no scope is changed but the one it is for and its root, and the root gets
only what is made for singletons, or on behalf of them. -/
namespace ServiceContainer

theorem Frame.history_append (cell : Frame) (events journal : List Event) :
    (cell.history journal).timely <:+ (cell.history (events ++ journal)).timely ∧
      (cell.history journal).late <:+ (cell.history (events ++ journal)).late := by
  induction events with
  | nil => exact ⟨List.suffix_rfl, List.suffix_rfl⟩
  | cons event rest ih =>
    refine ⟨ih.1.trans ?_, ih.2.trans ?_⟩ <;> rw [List.cons_append, history_cons] <;>
      cases event <;> simp only [History.add, History.finish] <;>
      (repeat' split) <;> first | exact List.suffix_rfl | exact List.suffix_cons ..

namespace World
variable {world later last : World} {part : Part} {scope root : ScopeId}

def Works (world : World) (scope : ScopeId) : Part → Prop
  | .code => world.handed? = some scope
  | .graph other => other = scope
  | .making _ _ owner => owner = scope ∧ world.handed? = some scope

theorem Works.mono (works : world.Works scope part) (stack : later.stack = world.stack) :
    later.Works scope part := by
  cases part <;> simpa [Works, handed?, stack] using works

theorem Housed.rootOf_rootOf (housed : world.Housed) (scope : ScopeId) :
    world.rootOf (world.rootOf scope) = world.rootOf scope := by
  obtain same | ⟨engine, listed⟩ := (world.serves_ownerFor .root scope).1
  · exact congrArg world.rootOf same
  · have top := (housed.rooted scope engine _ listed).root_eq_none
    change (world.scope (world.ownerFor .root scope)).root.getD _ = _
    rw [top]
    rfl

theorem scope_reserve (world : World) (site : Site) (owner other : ScopeId) :
    (world.reserve site owner).scope other = world.scope other ∨
      other = owner ∧ (world.reserve site owner).scope other =
        { world.scope other with cache := (world.scope other).cache.insert site.key none } := by
  unfold reserve
  split
  · exact .inl rfl
  · rw [scope_updateScope]
    split
    · rename_i mine
      dsimp only
      split
      · exact .inl rfl
      · exact .inr ⟨mine.1, rfl⟩
    · exact .inl rfl

theorem scope_keep (world : World) (site : Site) (owner : ScopeId) (value : Value)
    (other : ScopeId) : (world.keep site owner value).scope other = world.scope other ∨
      other = owner ∧ (world.scope other).cache.contains site.key = true ∧
        (world.keep site owner value).scope other =
          { world.scope other with
            cache := (world.scope other).cache.insert site.key (some value) } := by
  unfold keep
  split
  · exact .inl rfl
  · rw [scope_updateScope]
    split
    · rename_i mine
      dsimp only
      split
      · rename_i known
        exact .inr ⟨mine.1, known, rfl⟩
      · exact .inl rfl
    · exact .inl rfl

/-- Nothing is changed but the scope and its root, and no scope begins or ends. -/
structure Isolated (world later : World) (scope root : ScopeId) : Prop where
  shapes : later.shapes = world.shapes
  others : ∀ other, other ≠ scope → other ≠ root → later.scope other = world.scope other
  states : ∀ other, (later.scope other).state = (world.scope other).state

namespace Isolated

theorem of_scopes (same : later.scopes = world.scopes) : world.Isolated later scope root where
  shapes := by rw [World.shapes, World.shapes, same]
  others other _ _ := scope_of_scopes same other
  states other := congrArg Scope.state (scope_of_scopes same other)

theorem trans (first : world.Isolated later scope root) (second : later.Isolated last scope root) :
    world.Isolated last scope root where
  shapes := second.shapes.trans first.shapes
  others other apart below := (second.others other apart below).trans (first.others other apart below)
  states other := (second.states other).trans (first.states other)

theorem of_update {owner : ScopeId} (change : Scope → Scope) (mine : owner = scope ∨ owner = root)
    (shape : ∀ found, (change found).shape = found.shape)
    (state : ∀ found, (change found).state = found.state)
    (same : later.scopes = (world.updateScope owner change).scopes) :
    world.Isolated later scope root where
  shapes := by
    rw [World.shapes, same]
    exact shapes_updateScope world owner shape
  others other apart below := by
    rw [scope_of_scopes same]
    refine scope_updateScope_of_ne world change fun here => ?_
    obtain rfl | rfl := mine
    · exact apart here
    · exact below here
  states other := by
    rw [scope_of_scopes same]
    exact world.read_updateScope Scope.state state

theorem reserve {owner : ScopeId} (mine : owner = scope ∨ owner = root) (site : Site) :
    world.Isolated (world.reserve site owner) scope root := by
  unfold World.reserve
  split
  · exact of_scopes rfl
  · refine of_update _ mine (fun found => ?_) (fun found => ?_) rfl <;> split <;> rfl

theorem keep {owner : ScopeId} (mine : owner = scope ∨ owner = root) (site : Site)
    (value : Value) : world.Isolated (world.keep site owner value) scope root := by
  unfold World.keep
  split
  · exact of_scopes rfl
  · refine of_update _ mine (fun found => ?_) (fun found => ?_) rfl <;> split <;> rfl

theorem entrust {owner : ScopeId} (mine : owner = scope ∨ owner = root) (site : Site)
    (disposable : Disposable) (value : Value) :
    world.Isolated (world.entrust site owner disposable value) scope root := by
  simp only [World.entrust]
  split
  · exact of_update (fun found => { found with bag := found.bag ++ [⟨world.nextTicket, disposable⟩] })
      mine (fun _ => rfl) (fun _ => rfl) rfl
  · exact of_scopes rfl

end Isolated

theorem Tick.isolated (tick : Tick true part world later) (works : world.Works scope part)
    (root : ScopeId) : world.Isolated later scope root := by
  cases tick with
  | note _ | keepBooks _ _ _ => exact .of_scopes rfl
  | ask id _ => exact .of_scopes (scopes_withEngine id _)
  | spawn free _ => cases free
  | @complete _ id site owner value =>
    have noted : world.Isolated (world.record (.completed id site.key owner value)) scope root :=
      .of_scopes rfl
    exact noted.trans (.keep (.inl works.1) _ value)
  | entrust disposable value => exact .entrust (.inl works.1) _ disposable value

theorem handed?_enter (id : EngineId) (site : Site) (owner : ScopeId) :
    ((world.enter id site owner).reserve site owner).handed? = some owner := by
  rw [handed?, stack_reserve, stack_enter, List.getLast?_concat]
  rfl

/-- Confined code changes the scope that it works for, and its root. -/
theorem Course.isolated (course : Course true part world later) (works : world.Works scope part)
    (rooted : ∀ other, world.rootOf (world.rootOf other) = world.rootOf other) :
    world.Isolated later scope (world.rootOf scope) := by
  induction course generalizing scope with
  | rest => exact .of_scopes rfl
  | @next _ world later last first _ one two =>
    have before := one works rooted
    have same := rootOf_of_shapes before.shapes
    have after := two (works.mono first.stack) fun other => by rw [same, same, rooted]
    exact before.trans (same scope ▸ after)
  | tick tick => exact tick.isolated works _
  | @observe _ world later id _ callSite ending _ _ _ ih =>
    have begun : world.Isolated (notify id world (.resolving callSite.site.service)) scope
        (world.rootOf scope) := .of_scopes (scopes_notify ..)
    have same := rootOf_of_shapes begun.shapes
    have inner := ih (works.mono (stack_notify ..)) fun other => by rw [same, same, rooted]
    rw [same] at inner
    exact (begun.trans inner).trans (.of_scopes (scopes_notify ..))
  | invoke _ own _ ih =>
    cases (own rfl).symm.trans works
    exact ih rfl rooted
  | children _ ih =>
    obtain ⟨rfl, _⟩ := works
    exact ih rfl rooted
  | body _ ih => exact ih works.2 rooted
  | @construct world later place owner id site owned _ inner ih =>
    cases works
    have mine : owner = place ∨ owner = world.rootOf place := by
      rw [← owned]
      cases site.location
      · exact .inr rfl
      · exact .inl rfl
      · exact .inl rfl
    have above : world.rootOf owner = world.rootOf place := by
      obtain rfl | rfl := mine
      · rfl
      · exact rooted place
    have entered : world.Isolated (world.enter id site owner) place (world.rootOf place) :=
      .of_scopes rfl
    have begun := entered.trans (.reserve mine site)
    have same := rootOf_of_shapes begun.shapes
    have inner := ih ⟨rfl, handed?_enter id site owner⟩ fun other => by rw [same, same, rooted]
    rw [same, above] at inner
    have within : ((world.enter id site owner).reserve site owner).Isolated later place
        (world.rootOf place) := by
      refine ⟨inner.shapes, fun other apart below => inner.others other ?_ below, inner.states⟩
      rintro rfl
      exact mine.elim apart below
    exact (begun.trans within).trans (.of_scopes rfl)
  | dispose free _ _ _ => cases free

/-- An instance of a singleton is being made for the root at the end of the journal, and that has
begun since the given time. -/
def Beneath (root : ScopeId) (since : Nat) (journal : List Event) : Prop :=
  ∃ id key earlier, (⟨⟨id, key, root⟩, earlier.length⟩ : Construction) ∈ underway journal ∧
    since ≤ earlier.length ∧ .entered id key .root root :: earlier <:+ journal

def Within (root : ScopeId) (since : Nat) (journal : List Event) (event : Event) : Prop :=
  ∃ earlier, event :: earlier <:+ journal ∧ Beneath root since (event :: earlier)

section Within
variable {since : Nat} {journal longer : List Event} {event : Event}

theorem Beneath.mono (beneath : Beneath root since journal) (spans : Spans journal longer) :
    Beneath root since longer := by
  obtain ⟨id, key, earlier, making, recent, entered⟩ := beneath
  exact ⟨id, key, earlier, spans.same ▸ making, recent, entered.trans spans.suffix⟩

/-- While a construction is underway, so is all that was underway when it began. -/
theorem Beneath.enter (beneath : Beneath root since journal) (id : EngineId) (key : CacheKey)
    (location : CacheLocation) (owner : ScopeId) :
    Beneath root since (.entered id key location owner :: journal) := by
  obtain ⟨other, outer, earlier, making, recent, entered⟩ := beneath
  exact ⟨other, outer, earlier, List.mem_append_left _ making, recent,
    entered.trans (List.suffix_cons ..)⟩

theorem Beneath.within (beneath : Beneath root since journal) (still : event.moves = false) :
    Within root since (event :: journal) event := by
  refine ⟨journal, List.suffix_rfl, beneath.mono (.of_still [event] rfl fun other member => ?_)⟩
  rw [List.mem_singleton.1 member, still]

theorem Within.mono (within : Within root since journal event) (suffix : journal <:+ longer) :
    Within root since longer event := by
  obtain ⟨earlier, happened, beneath⟩ := within
  exact ⟨earlier, happened.trans suffix, beneath⟩

end Within

/-- What the root has got since the given time was made for singletons, or while one was made. -/
structure Gains (world later : World) (root : ScopeId) (since : Nat) : Prop where
  entries : ∀ key, (later.scope root).cache.contains key = true →
    (world.scope root).cache.contains key = true ∨ ∃ id other location, (other == key) = true ∧
      Within root since later.journal (.entered id other location root)
  values : ∀ key value, (later.scope root).cache.lookup key = some (some value) →
    (world.scope root).cache.lookup key = some (some value) ∨ ∃ id other, (other == key) = true ∧
      Within root since later.journal (.completed id other root value)
  bag : ∃ added, (later.scope root).bag = (world.scope root).bag ++ added ∧
    ∀ tracked ∈ added, ∃ maker value, maker.owner = root ∧
      Within root since later.journal (.entrusted maker tracked value true)

namespace Gains
variable {since : Nat}

theorem of_same (same : later.scope root = world.scope root) : world.Gains later root since where
  entries key found := .inl (same ▸ found)
  values key value found := .inl (same ▸ found)
  bag := ⟨[], by rw [same, List.append_nil], by simp⟩

theorem of_scopes (same : later.scopes = world.scopes) : world.Gains later root since :=
  of_same (scope_of_scopes same root)

theorem trans (first : world.Gains later root since) (second : later.Gains last root since)
    (grown : later.journal <:+ last.journal) : world.Gains last root since where
  entries key found := by
    obtain old | new := second.entries key found
    · refine (first.entries key old).imp_right fun ⟨id, other, location, same, within⟩ => ?_
      exact ⟨id, other, location, same, within.mono grown⟩
    · exact .inr new
  values key value found := by
    obtain old | new := second.values key value found
    · refine (first.values key value old).imp_right fun ⟨id, other, same, within⟩ => ?_
      exact ⟨id, other, same, within.mono grown⟩
    · exact .inr new
  bag := by
    obtain ⟨added, bag, reasons⟩ := first.bag
    obtain ⟨more, longer, others⟩ := second.bag
    refine ⟨added ++ more, by rw [longer, bag, List.append_assoc], fun tracked member => ?_⟩
    obtain old | new := List.mem_append.1 member
    · obtain ⟨maker, value, mine, within⟩ := reasons tracked old
      exact ⟨maker, value, mine, within.mono grown⟩
    · exact others tracked new

theorem enter {owner : ScopeId} (id : EngineId) (site : Site)
    (beneath : owner = root →
      Beneath root since (.entered id site.key site.location owner :: world.journal)) :
    world.Gains ((world.enter id site owner).reserve site owner) root since := by
  have entered : (world.enter id site owner).scope root = world.scope root := rfl
  obtain same | ⟨rfl, changed⟩ := scope_reserve (world.enter id site owner) site owner root
  · exact of_same (same.trans entered)
  · have begun : Within root since ((world.enter id site root).reserve site root).journal
        (.entered id site.key site.location root) := ⟨world.journal, by simp, beneath rfl⟩
    rw [entered] at changed
    refine ⟨fun key found => ?_, fun key value found => ?_, ⟨[], ?_, by simp⟩⟩
    · rw [changed, Table.contains, Table.lookup_insert] at found
      split at found
      · rename_i same
        exact .inr ⟨id, site.key, site.location, same, begun⟩
      · exact .inl found
    · rw [changed, Table.lookup_insert] at found
      split at found
      · cases found
      · exact .inl found
    · rw [changed, List.append_nil]

theorem complete {owner : ScopeId} (id : EngineId) (site : Site) (value : Value)
    (beneath : owner = root → Beneath root since world.journal) :
    world.Gains (world.complete id site owner value) root since := by
  obtain same | ⟨rfl, known, changed⟩ :=
    scope_keep (world.record (.completed id site.key owner value)) site owner value root
  · exact of_same same
  · have made : Within root since (world.complete id site root value).journal
        (.completed id site.key root value) := by
      rw [journal_complete]
      exact (beneath rfl).within rfl
    refine ⟨fun key found => .inl ?_, fun key other found => ?_, ⟨[], ?_, by simp⟩⟩
    · rw [World.complete, changed, Table.contains, Table.lookup_insert] at found
      split at found
      · rename_i same
        rwa [Table.contains, ← Table.lookup_congr _ same]
      · exact found
    · rw [World.complete, changed, Table.lookup_insert] at found
      split at found
      · rename_i same
        cases found
        exact .inr ⟨id, site.key, same, made⟩
      · exact .inl found
    · rw [World.complete, changed, List.append_nil]
      rfl

theorem entrust {owner : ScopeId} (site : Site) (disposable : Disposable) (value : Value)
    (beneath : owner = root → Beneath root since world.journal) :
    world.Gains (world.entrust site owner disposable value) root since := by
  have cache : ((world.entrust site owner disposable value).scope root).cache =
      (world.scope root).cache := by
    simp only [World.entrust]
    split
    · exact read_updateScope _ Scope.cache fun _ => rfl
    · rfl
  refine ⟨fun key found => .inl (cache ▸ found), fun key other found => .inl (cache ▸ found), ?_⟩
  have bag := world.bag_entrust site owner root disposable value
  split at bag
  · rename_i taken
    obtain ⟨rfl, opened⟩ := taken
    refine ⟨_, bag, fun tracked member => ?_⟩
    rw [List.mem_singleton.1 member]
    refine ⟨world.frame site root, value, rfl, ?_⟩
    rw [journal_entrust, opened]
    exact (beneath rfl).within rfl
  · exact ⟨[], by rw [bag, List.append_nil], by simp⟩

end Gains

theorem Tick.gains {since : Nat} (tick : Tick true part world later)
    (works : world.Works scope part) (beneath : scope = root → Beneath root since world.journal) :
    world.Gains later root since := by
  cases tick with
  | note _ | keepBooks _ _ _ => exact .of_scopes rfl
  | ask id _ => exact .of_scopes (scopes_withEngine id _)
  | spawn free _ => cases free
  | complete value => exact .complete _ _ value fun here => beneath (works.1.symm.trans here)
  | entrust disposable value =>
    exact .entrust _ disposable value fun here => beneath (works.1.symm.trans here)

/-- Confined code gives the root of its scope only what is made for singletons, or while one is made,
unless it works for the root itself. -/
theorem Course.gains {since : Nat} (course : Course true part world later)
    (works : world.Works scope part)
    (rooted : ∀ other, world.rootOf (world.rootOf other) = world.rootOf other)
    (home : world.rootOf scope = root) (recent : since ≤ world.journal.length)
    (beneath : scope = root → Beneath root since world.journal) : world.Gains later root since := by
  induction course generalizing scope with
  | rest => exact .of_scopes rfl
  | @next _ world later last first second one two =>
    have same := rootOf_of_shapes (first.isolated works rooted).shapes
    refine (one works rooted home recent beneath).trans ?_ second.journal
    exact two (works.mono first.stack) (fun other => by rw [same, same, rooted])
      ((same scope).trans home) (recent.trans first.journal.length_le)
      fun here => (beneath here).mono first.spans
  | tick tick => exact tick.gains works beneath
  | @observe _ world later id _ callSite ending _ inner _ ih =>
    have begun := spans_notify id world (.resolving callSite.site.service)
    have ended := spans_notify id later ending
    have same := rootOf_of_shapes (shapes_notify id world (.resolving callSite.site.service))
    have gains := ih (works.mono (stack_notify ..)) (fun other => by rw [same, same, rooted])
      ((same scope).trans home) (recent.trans begun.suffix.length_le)
      fun here => (beneath here).mono begun
    exact (Gains.trans (.of_scopes (scopes_notify ..)) gains inner.journal).trans
      (.of_scopes (scopes_notify ..)) ended.suffix
  | invoke _ own _ ih =>
    cases (own rfl).symm.trans works
    exact ih rfl rooted home recent beneath
  | children _ ih =>
    obtain ⟨rfl, _⟩ := works
    exact ih rfl rooted home recent beneath
  | body _ ih => exact ih works.2 rooted home recent beneath
  | @construct world later place owner id site owned _ inner ih =>
    cases works
    have serves := world.serves_ownerFor site.location place
    rw [owned] at serves
    have begun : ((world.enter id site owner).reserve site owner).journal =
        .entered id site.key site.location owner :: world.journal := by simp
    have within : owner = root →
        Beneath root since (.entered id site.key site.location owner :: world.journal) := by
      intro here
      by_cases top : site.location = .root
      · rw [here, top]
        exact ⟨id, site.key, world.journal, List.mem_append_right _ (List.mem_singleton_self _),
          recent, List.suffix_rfl⟩
      · exact (beneath ((serves.2 top).symm.trans here)).enter ..
    have above : world.rootOf owner = root := by
      rw [← home, ← owned]
      cases site.location with
      | root => exact rooted place
      | scope | nowhere => rfl
    have same := rootOf_of_shapes
      (show ((world.enter id site owner).reserve site owner).shapes = world.shapes by simp)
    have gains := ih ⟨rfl, handed?_enter id site owner⟩ (fun other => by rw [same, same, rooted])
      ((same owner).trans above) (begun ▸ Nat.le_succ_of_le recent) (begun ▸ within)
    exact ((Gains.enter id site within).trans gains inner.journal).trans (.of_scopes rfl)
      (List.suffix_cons ..)
  | dispose free _ _ _ => cases free

section Lasting
variable {cell : Frame}

theorem Regular.cached_lasts (regular : world.Regular) (filed : world.Filed)
    (steps : world.Steps last) {value : Value}
    (lasting : .closed cell.owner ∈ last.journal → .closed cell.owner ∈ world.journal)
    (held : world.cached cell = some (some value)) : last.cached cell = some (some value) := by
  have later := regular.steps steps
  obtain ⟨events, journal⟩ := (Steps.extends steps).journal
  obtain ⟨engine, key, location, owner, entered, here, kept⟩ := filed cell (by simp [held])
  obtain ⟨rfl, keys, rfl⟩ := Frame.beq_iff.1 here
  have entered : .entered cell.engine key location cell.owner ∈ last.journal :=
    journal ▸ List.mem_append_right _ entered
  obtain ⟨position, descriptor, service, callSite, rfl, registered, unowned, planned, rfl⟩ :=
    later.registered_of_entered entered
  have constructs := planned.constructs registered unowned
  rw [← planned.location constructs registered] at kept
  have keeps : last.Keeps cell := later.keeps planned constructs kept cell.owner (BEq.symm keys)
  have before := regular.once cell (keeps.of_suffix ⟨events, journal⟩)
  have after := later.once cell keeps
  have made := (before.agrees.holds value).1 held
  obtain ⟨timely, late⟩ := cell.history_append events world.journal
  rw [journal] at timely late
  have gone : (cell.history last.journal).gone = (cell.history world.journal).gone := by
    rw [Bool.eq_iff_iff, cell.gone_iff, cell.gone_iff]
    exact ⟨lasting, fun closed => journal ▸ List.mem_append_right _ closed⟩
  refine (after.agrees.holds value).2 ?_
  unfold History.current at made ⊢
  rw [gone]
  split at made
  · rename_i closed
    rw [if_pos closed]
    exact eq_singleton_of_mem (late.subset (by simp [made])) after.agrees.few.2
  · rename_i lasts
    rw [if_neg lasts]
    exact eq_singleton_of_mem (timely.subset (by simp [made])) after.agrees.few.1

end Lasting

section Sample

def hoarding : Blueprint where
  registry := ⟨[
    { relaying kept user with lifetime := .singleton },
    ⟨.plain user, .transient, .produced user.name fun _ => pure (.ok (tidy user))⟩]⟩

/-- The singleton is resolved in a child scope by confined code, and the root holds what was made. -/
def hoards (world : World) : Bool :=
  match Container.respond (Container.confine 2) (.resolve 1 (.plain kept)) world with
  | some (.ok (some _), last) =>
    decide (1 ≠ world.rootOf 1) && !(last.scope 0).cache.entries.isEmpty &&
      !(last.scope 0).bag.isEmpty
  | _ => false

end Sample

/-- At any time of any run, if the user code of a resolution in a scope keeps to the scopes that it is
handed, then whether the resolution succeeds or fails, no scope begins or ends and only the scope and
its root are changed; unless the scope is the root itself, the root keeps what its cache held, and
whatever it gets is made for a singleton that is begun meanwhile, or within the making of one. -/
theorem Reachable.resolution_isolated {before : World} (reached : before.Reachable)
    (steps : before.Steps world) {fuel : Nat} {request : Request} {reply : request.Reply}
    (asks : request.asksIn scope = true)
    (answered : Container.respond (Container.confine fuel) request world = some (reply, last)) :
    Container.perform (fuel + 1) request world = some (reply, last) ∧
    last.shapes = world.shapes ∧
    (∀ other, (last.scope other).state = (world.scope other).state) ∧
    (∀ other, other ≠ scope → other ≠ world.rootOf scope →
      last.scope other = world.scope other) ∧
    (scope ≠ world.rootOf scope →
      (∀ key value,
        (world.scope (world.rootOf scope)).cache.lookup key = some (some value) →
        (last.scope (world.rootOf scope)).cache.lookup key = some (some value)) ∧
      world.Gains last (world.rootOf scope) world.journal.length) := by
  have regular := reached.regular.steps steps
  have performed : Container.perform (fuel + 1) request world = some (reply, last) :=
    Container.refines_respond (Container.refines_confine fuel) request world _ answered
  have onward : world.Steps last :=
    (Container.leads_perform (fuel + 1) request world regular.formed _ _ performed).steps
  have course := Container.unfolds_answer (Container.unfolds_confine fuel) asks regular.formed.sound
    _ _ answered
  have rooted := regular.formed.rootOf_rootOf
  have isolated := course.isolated rfl rooted
  refine ⟨performed, isolated.shapes, isolated.states, isolated.others, fun apart => ⟨?_, ?_⟩⟩
  · intro key value held
    have same : (last.scope (world.rootOf scope)).engine =
        (world.scope (world.rootOf scope)).engine :=
      congrArg Prod.fst (shape_of_shapes isolated.shapes _)
    have lasts : last.cached ⟨(world.scope (world.rootOf scope)).engine, key, world.rootOf scope⟩ =
        some (some value) := by
      refine regular.cached_lasts (reached.filed.steps steps) onward (fun closed => ?_) ?_
      · have closes := steps.closes reached.closes
        have ended := ((onward.closes closes).closed _).1 (mem_closings.2 closed)
        rw [isolated.shapes, isolated.states] at ended
        exact mem_closings.1 ((closes.closed _).2 ended)
      · rwa [World.cached, if_pos rfl]
    rwa [World.cached, if_pos same] at lasts
  · exact course.gains rfl rooted rfl Nat.le.refl fun here => absurd here apart

/-- A singleton and what its factory resolves are made for the root when a child scope asks for it. -/
theorem resolution_isolated_hoarding :
    ∃ world last value, Container.serve 2 hoarding {} [] (resolving []) {} =
        .ok (some ((), world)) ∧
      Container.perform 3 (.resolve 1 (.plain kept)) world = some (.ok (some value), last) ∧
      (last.scope 0).cache.entries ≠ [] ∧ (last.scope 0).bag ≠ [] ∧
      world.Gains last (world.rootOf 1) world.journal.length := by
  obtain ⟨world, served, shown⟩ := exists_of_served
    (Container.serve 2 hoarding {} [] (resolving []) {}) hoards (by decide +kernel)
  have reached := Container.reachable_of_serve (.start []) served
  unfold hoards at shown
  split at shown
  · rename_i value last answered
    obtain ⟨shown, bag⟩ := Bool.and_eq_true_iff.1 shown
    obtain ⟨apart, cache⟩ := Bool.and_eq_true_iff.1 shown
    have asks : (Request.resolve 1 (.plain kept)).asksIn 1 = true := rfl
    obtain ⟨performed, _, _, _, root⟩ := reached.resolution_isolated .refl asks answered
    obtain ⟨_, gains⟩ := root (of_decide_eq_true apart)
    exact ⟨world, last, value, served, performed, by simpa using cache, by simpa using bag, gains⟩
  · cases shown

end World
end ServiceContainer
