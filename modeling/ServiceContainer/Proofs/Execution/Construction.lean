import ServiceContainer.Proofs.Execution.Steps

/-! Constructions as moves of the world. Main statement: to interpret a graph for a scope takes the
world through moves; every construction begins only after the checks that its step names, and what
it hands out was made or kept by its owner. -/
namespace ServiceContainer

namespace World
variable {world later : World} {scope owner : ScopeId} {callSite : CallSite}

def Had (world : World) (site : Site) (owner : ScopeId) (value : Value) : Prop :=
  value ∈ world.made (· == world.frame site owner) ∨
    world.cached (world.frame site owner) = some (some value)

theorem Hosts.engine_eq (hosted : world.Hosts scope (world.scope scope).engine)
    (grown : world.Extends later) : (later.scope scope).engine = (world.scope scope).engine :=
  (grown.hosts hosted).listed.2

theorem Offers.hosts (offered : world.Offers scope callSite) :
    world.Hosts scope (world.scope scope).engine := by
  obtain ⟨engine, hosted, _⟩ := offered
  rwa [hosted.listed.2]

theorem Offers.holds (offered : world.Offers scope callSite) :
    (world.engine (world.scope scope).engine).memo.Holds callSite := by
  obtain ⟨engine, hosted, held, _⟩ := offered
  rwa [hosted.listed.2]

theorem Offers.clear (offered : world.Offers scope callSite) :
    world.Clear (world.scope scope).engine scope callSite := by
  obtain ⟨engine, hosted, _, clear⟩ := offered
  rwa [hosted.listed.2]

/-- A scope that can have a graph can have all that the graph needs. -/
theorem Offers.child (offered : world.Offers scope callSite) (formed : world.WellFormed) :
    ∀ child ∈ callSite.children, world.Offers scope child := by
  intro child member
  refine ⟨_, offered.hosts, offered.holds.child (formed.engine_sound _).memo child member, ?_⟩
  intro checked lawful
  obtain ⟨sheltered, unexposed⟩ := offered.clear checked lawful
  exact ⟨sheltered.child member, fun root => sheltered.not_exposed_child (unexposed root) member⟩

theorem Housed.isRootOf_rootOf (housed : world.Housed)
    (hosted : world.Hosts scope (world.scope scope).engine) :
    world.IsRootOf (world.rootOf scope) (world.scope scope).engine := by
  have shaped : world.shapes[scope]? =
      some ((world.scope scope).engine, (world.scope scope).root) := by
    rw [shapes_getElem?, hosted.listed.1]
    rfl
  unfold rootOf
  cases above : (world.scope scope).root with
  | none =>
    rw [above] at shaped
    exact shaped
  | some root =>
    rw [above] at shaped
    exact housed.rooted scope _ root shaped

/-- The owner of a site's instance can have the site too; the owner of a singleton is the root. -/
theorem Offers.ownerFor (offered : world.Offers scope callSite) (formed : world.WellFormed) :
    let owner := world.ownerFor callSite.site.location scope
    world.Offers owner callSite ∧
      (world.scope owner).engine = (world.scope scope).engine ∧
      (callSite.site.location = .root → world.IsRootOf owner (world.scope scope).engine) := by
  intro owner
  have owned : owner = world.ownerFor callSite.site.location scope := rfl
  cases kept : callSite.site.location with
  | scope | nowhere =>
    rw [kept] at owned
    exact ⟨owned ▸ offered, owned ▸ rfl, by simp⟩
  | root =>
    rw [kept] at owned
    have top : world.IsRootOf (world.rootOf scope) (world.scope scope).engine :=
      formed.isRootOf_rootOf offered.hosts
    have clear : world.Clear (world.scope scope).engine (world.rootOf scope) callSite :=
      fun checked lawful => ⟨(offered.clear checked lawful).1,
        fun _ => CallSite.not_exposed_of_root kept⟩
    rw [owned]
    exact ⟨⟨_, top.hosts, offered.holds, clear⟩, top.hosts.listed.2, fun _ => top⟩

section Begun
variable {site : Site} {made : World}

/-- After all that runs during a construction, it is again the innermost one. -/
theorem making_of_begin (begins : world.Step (world.begin site owner))
    (hosted : world.Hosts owner (world.scope owner).engine)
    (reached : (world.begin site owner).Reaches made) : made.Making site owner := by
  have grown : world.Extends made := begins.extends.trans reached.extends
  have engine := hosted.engine_eq grown
  refine ⟨⟨world.stack, ?_⟩, ?_, ?_⟩
  · rw [reached.stack, stack_begin, World.frame, World.frame, engine]
  · rw [engine]
    exact grown.hosts hosted
  · refine reached.extends.journal.subset ?_
    rw [journal_begin, engine]
    exact List.mem_cons_self

/-- The innermost construction has succeeded, and nothing else has happened to what is in
progress. -/
structure Finishes (made : World) (site : Site) (owner : ScopeId) (value : Value)
    (last : World) : Prop where
  move : made.Move last
  engines : last.engines = made.engines
  stack : last.stack = made.stack.dropLast
  disposing : ∀ scope, (made.scope scope).state = .disposing →
    (last.scope scope).state = .disposing
  pending : ∀ scope ticket, made.Pending scope ticket → last.Pending scope ticket
  completed : value ∈ last.made (· == made.frame site owner)

theorem blueprints_begin (world : World) (site : Site) (owner : ScopeId) :
    (world.begin site owner).blueprints = world.blueprints := by
  simp [blueprints]

theorem move_begin (begins : world.Step (world.begin site owner)) :
    world.Move (world.begin site owner) :=
  begins.unbookedMove (.begin world site owner) (by simp)

theorem finishes_finish (making : made.Making site owner) (value : Value) :
    made.Finishes site owner value (made.finish site owner value) where
  move := (Step.complete making).unbookedMove (.finish made site owner value) (by simp)
  engines := by simp
  stack := by simp
  disposing scope state := by simpa using state
  pending _ _ pending := (Unbooked.finish made site owner value).pending pending
  completed := by simp [World.made, World.frame, Event.made?]

theorem finishes_settle (making : made.Making site owner)
    (opened : (made.scope owner).state = .open) (disposable : Disposable) (value : Value) :
    made.Finishes site owner value
      ((made.entrust site owner disposable value).finish site owner value) where
  move := .settle making opened
  engines := by simp
  stack := by simp
  disposing scope state := by simpa using state
  pending scope ticket pending := by
    refine (Unbooked.finish _ site owner value).pending
      (pending.keep (by simpa using pending.disposing) (by simp) fun disposed => ?_)
    rw [journal_entrust] at disposed
    exact (List.mem_cons.1 disposed).resolve_left (by simp)
  completed := by
    rw [World.made, journal_finish, making.engine_entrust]
    simp [World.frame, Event.made?]

/-- A construction whose user code is done succeeds, and its instance is made. -/
theorem reaches_finished (begins : world.Step (world.begin site owner))
    (hosted : world.Hosts owner (world.scope owner).engine)
    (reached : (world.begin site owner).Reaches made) {value : Value} {last : World}
    (finishes : made.Finishes site owner value last) :
    world.Reaches last ∧ last.Had site owner value := by
  have grown : world.Extends made := begins.extends.trans reached.extends
  refine ⟨⟨?_, ?_, ?_, ?_, ?_⟩, .inl ?_⟩
  · exact ((Relation.ReflTransGen.single (move_begin begins)).trans reached.moves).tail
      finishes.move
  · rw [blueprints, finishes.engines]
    exact reached.blueprints.trans (world.blueprints_begin site owner)
  · rw [finishes.stack, reached.stack, stack_begin, List.dropLast_concat]
  · exact fun scope state => finishes.disposing scope
      (reached.disposing scope ((world.state_begin site owner scope).trans state))
  · exact fun other ticket pending _ => finishes.pending other ticket
      (reached.keeps ((Unbooked.begin world site owner).pending pending))
  · have same : last.frame site owner = made.frame site owner := by
      have hosted := grown.hosts hosted
      rw [← hosted.listed.2] at hosted
      rw [World.frame, World.frame, hosted.engine_eq (Moves.extends (.single finishes.move))]
    exact same ▸ finishes.completed

theorem reaches_left (begins : world.Step (world.begin site owner))
    (reached : (world.begin site owner).Reaches made) :
    world.Reaches (made.leave (world.scope owner).engine site.key) := by
  have innermost : made.stack = world.stack ++ [world.frame site owner] :=
    reached.stack.trans (world.stack_begin site owner)
  have leaves : made.Move (made.leave (world.scope owner).engine site.key) :=
    (Step.leave innermost).unbookedMove (.leave made _ _) List.prefix_rfl
  refine ⟨?_, ?_, ?_, fun scope state => ?_, fun other ticket pending _ => ?_⟩
  · exact ((Relation.ReflTransGen.single (move_begin begins)).trans reached.moves).tail leaves
  · exact reached.blueprints.trans (world.blueprints_begin site owner)
  · simp [innermost]
  · exact reached.disposing scope ((world.state_begin site owner scope).trans state)
  · have waits := reached.keeps ((Unbooked.begin world site owner).pending pending)
    exact (Unbooked.leave made _ _).pending waits

end Begun

end World

namespace Run
variable {handler : Handler} {world : World} {callSite : CallSite} {owner : ScopeId}

theorem cycle?_eq_none {stack : List Frame} {engine : EngineId} {key : CacheKey}
    (free : cycle? stack engine key = none) : ∀ frame ∈ stack, frame.makes engine key = false := by
  unfold cycle? at free
  split at free
  · rename_i empty
    simpa using List.dropWhile_eq_nil_iff.1 empty
  · cases free

theorem run_guarded (engine : EngineId) (site : Site) (owner : ScopeId) (construction : Run Value)
    (world : World) :
    (guarded engine site owner construction).run world =
      match cycle? world.stack engine site.key with
      | some path => some (.error (.circular path), world)
      | none =>
        (construction.run (world.enter engine site owner)).map
          fun ended => (ended.1, ended.2.leave engine site.key) := by
  unfold guarded
  change (match cycle? world.stack engine site.key with
    | some path => throw (.circular path)
    | none => _ : Run Value).run world = _
  cases cycle? world.stack engine site.key with
  | some path => rfl
  | none =>
    change ((construction.run (world.enter engine site owner)).bind _) = _
    cases construction.run (world.enter engine site owner) <;> rfl

theorem run_making (site : Site) (owner : ScopeId) (produce : Run Produced) (world : World) :
    (making handler site owner produce).run world =
      (produce >>= capture handler site owner).run (world.reserve site owner) := rfl

def producer (handler : Handler) : CallSite → ScopeId → Run Produced
  | .constant _ value, _ | .fallback _ value, _ => pure { value }
  | .factory _ factory, owner => body handler (factory owner)
  | .construct site activate cast parameters, owner => do
    construct handler site activate cast (← interpretAll handler parameters owner)
  | .collect _ items, owner => do pure { value := .list (← interpretAll handler items owner) }
  | .own _ service, owner => ownService service owner

/-- To interpret a graph is to deliver what it produces for its owner. -/
theorem interpret_eq (handler : Handler) (callSite : CallSite) (scope : ScopeId) :
    interpret handler callSite scope =
      deliver handler callSite.kind callSite.site scope (producer handler callSite) := by
  cases callSite <;> rw [interpret] <;> rfl

def Bare (produce : Run Produced) : Prop :=
  ∀ before produced after, produce.run before = some (.ok produced, after) →
    produced.disposable = none

theorem Bare.pure (value : Value) : Bare (Pure.pure { value }) := by
  rintro _ _ _ ⟨⟩
  rfl

theorem Bare.bind {first : Run α} {next : α → Run Produced} (bare : ∀ result, Bare (next result)) :
    Bare (first >>= next) := by
  intro before produced after h
  obtain ⟨result, between, _, ran⟩ | ⟨failure, _, failed⟩ := bind_eq_some h
  · exact bare result between produced after ran
  · cases failed

theorem Bare.ownService (service : OwnService) (scope : ScopeId) :
    Bare (ownService service scope) := by
  refine .bind fun world => ?_
  cases service <;> exact .pure _

theorem bare_producer (quiet : callSite.kind.constructs = false) (owner : ScopeId) :
    Bare (producer handler callSite owner) := by
  cases callSite with
  | constant site value | fallback site value => exact .pure value
  | factory _ _ | construct _ _ _ _ => cases quiet
  | collect site items => exact .bind fun values => .pure _
  | own site service => exact .ownService service owner

/-- Values of the kind are produced in steps, and to be disposed only if user code makes them. -/
structure Produces (world : World) (kind : SiteKind) (produce : Run Produced) : Prop where
  leads : ∀ later : World, later.WellFormed → world.Extends later → LeadsFrom later produce.run
  bare : kind.constructs = false → Bare produce

section Handled
variable (answers : ∀ request, Leads (handler request))
include answers

theorem reaches_guarded (formed : world.WellFormed) (offered : world.Offers owner callSite)
    (constructs : callSite.kind.constructs = true)
    (missing : callSite.site.location ≠ .nowhere →
      ∀ value, world.cached (world.frame callSite.site owner) ≠ some (some value))
    (rooted : callSite.site.location = .root →
      world.IsRootOf owner (world.scope owner).engine ∧ (world.scope owner).state = .open)
    {produce : Run Produced} (produces : Produces world callSite.kind produce)
    {result : Except Failure Value} {last : World}
    (h : (guarded (world.scope owner).engine callSite.site owner (do
      let value ← making handler callSite.site owner produce
      modify (·.complete (world.scope owner).engine callSite.site owner value)
      pure value)).run world = some (result, last)) :
    world.Reaches last ∧ ∀ value, result = .ok value → last.Had callSite.site owner value := by
  rw [run_guarded] at h
  cases free : cycle? world.stack (world.scope owner).engine callSite.site.key with
  | some path =>
    rw [free] at h
    cases h
    exact ⟨.refl world, by rintro _ ⟨⟩⟩
  | none =>
    rw [free] at h
    obtain ⟨⟨outcome, later⟩, ran, ended⟩ := Option.map_eq_some_iff.1 h
    cases ended
    have begins : world.Step (world.begin callSite.site owner) :=
      .enter offered constructs (cycle?_eq_none free) missing rooted
    have within := begins.wellFormed formed
    have engine : ∀ {made : World}, (world.begin callSite.site owner).Reaches made →
        (made.scope owner).engine = (world.scope owner).engine := fun reached =>
      offered.hosts.engine_eq (begins.extends.trans reached.extends)
    -- What is made is captured where the construction is innermost again.
    have ends : ∀ {result : Except Failure Value} {made : World},
        (making handler callSite.site owner produce).run
          (world.enter (world.scope owner).engine callSite.site owner) = some (result, made) →
        (world.begin callSite.site owner).Reaches made ∨
          ∃ before disposable value, (world.begin callSite.site owner).Reaches before ∧
            (before.scope owner).state = .open ∧ result = .ok value ∧
            made = before.entrust callSite.site owner disposable value := by
      intro result made h
      rw [run_making] at h
      obtain ⟨produced, before, ran, captured⟩ | ⟨failure, failed, _⟩ := bind_eq_some h
      · have reached := produces.leads _ within begins.extends _ _ ran
        obtain further | ⟨disposable, _, opened, value, same⟩ :=
          reaches_capture answers (reached.wellFormed within)
            (fun _ => World.making_of_begin begins offered.hosts reached) captured
        · exact .inl (reached.trans further)
        · exact .inr ⟨before, disposable, _, reached, opened, value, same⟩
      · exact .inl (produces.leads _ within begins.extends _ _ failed)
    obtain ⟨value, made, produced, rest⟩ | ⟨failure, failed, rfl⟩ := bind_eq_some ran
    · cases rest
      obtain reached | ⟨before, disposable, _, reached, opened, ⟨⟩, rfl⟩ := ends produced
      · have making := World.making_of_begin begins offered.hosts reached
        obtain ⟨reached, had⟩ := World.reaches_finished begins offered.hosts reached
          (World.finishes_finish making value)
        rw [World.finish, engine ‹_›] at reached had
        refine ⟨reached, ?_⟩
        rintro _ ⟨⟩
        exact had
      · have making := World.making_of_begin begins offered.hosts reached
        obtain ⟨settled, had⟩ := World.reaches_finished begins offered.hosts reached
          (World.finishes_settle making opened disposable value)
        rw [World.finish, making.engine_entrust, engine reached] at settled had
        refine ⟨settled, ?_⟩
        rintro _ ⟨⟩
        exact had
    · obtain reached | ⟨_, _, _, _, _, ⟨⟩, _⟩ := ends failed
      exact ⟨World.reaches_left begins reached, by rintro _ ⟨⟩⟩

/-- What is made without user code is kept nowhere; all else is a construction. -/
theorem reaches_made (formed : world.WellFormed) (offered : world.Offers owner callSite)
    (missing : callSite.site.location ≠ .nowhere →
      ∀ value, world.cached (world.frame callSite.site owner) ≠ some (some value))
    (rooted : callSite.site.location = .root →
      world.IsRootOf owner (world.scope owner).engine ∧ (world.scope owner).state = .open)
    {produce : Run Produced} (produces : Produces world callSite.kind produce)
    {result : Except Failure Value} {last : World}
    (h : (made handler (world.scope owner).engine callSite.kind callSite.site owner produce).run
      world = some (result, last)) :
    world.Reaches last ∧ (callSite.kind.constructs = true →
      ∀ value, result = .ok value → last.Had callSite.site owner value) := by
  cases constructs : callSite.kind.constructs with
  | true =>
    rw [made, constructs, if_pos rfl] at h
    have reached := reaches_guarded answers formed offered constructs missing rooted produces h
    exact ⟨reached.1, fun _ => reached.2⟩
  | false =>
    rw [made, constructs, if_neg Bool.false_ne_true] at h
    have unkept := offered.holds.unkept (formed.engine_sound _).memo constructs
    have ends : ∀ {result : Except Failure Value} {later : World},
        (making handler callSite.site owner produce).run world = some (result, later) →
        world.Reaches later := by
      intro result later h
      rw [run_making, World.reserve, if_pos unkept] at h
      obtain ⟨produced, between, ran, captured⟩ | ⟨failure, failed, _⟩ := bind_eq_some h
      · have reached := produces.leads world formed (.refl world) _ _ ran
        have bare := produces.bare constructs _ _ _ ran
        obtain further | ⟨disposable, comes, _⟩ :=
          reaches_capture answers (reached.wellFormed formed)
            (fun disposable => absurd bare disposable) captured
        · exact reached.trans further
        · cases bare.symm.trans comes
      · exact produces.leads world formed (.refl world) _ _ failed
    refine ⟨?_, by rintro ⟨⟩⟩
    obtain ⟨value, later, ran, rest⟩ | ⟨failure, ran, rfl⟩ := bind_eq_some h
    · have unchanged : later.keep callSite.site owner value = later := if_pos unkept
      have same : some (Except.ok value, later.keep callSite.site owner value) =
        some (result, last) := rest
      rw [unchanged] at same
      cases same
      exact ends ran
    · exact ends ran

theorem reaches_cached (formed : world.WellFormed) (offered : world.Offers owner callSite)
    (rooted : callSite.site.location = .root →
      world.IsRootOf owner (world.scope owner).engine ∧ (world.scope owner).state = .open)
    {produce : Run Produced} (produces : Produces world callSite.kind produce)
    {result : Except Failure Value} {last : World}
    (h : (cached handler (world.scope owner).engine callSite.kind callSite.site owner produce).run
      world = some (result, last)) :
    world.Reaches last ∧ (callSite.kind.constructs = true →
      ∀ value, result = .ok value → last.Had callSite.site owner value) := by
  have entry := world.cached_frame callSite.site owner
  by_cases kept : ∃ value, world.cached (world.frame callSite.site owner) = some (some value)
  · obtain ⟨value, kept⟩ := kept
    have found : (cached handler (world.scope owner).engine callSite.kind callSite.site owner
        produce).run world = some (.ok value, world) := by
      rw [cached, run_look, ← entry, kept]
      rfl
    rw [found] at h
    cases h
    refine ⟨.refl world, ?_⟩
    rintro _ _ ⟨⟩
    exact .inr kept
  · have missing : ∀ value, world.cached (world.frame callSite.site owner) ≠ some (some value) :=
      fun value found => kept ⟨value, found⟩
    have fresh : (cached handler (world.scope owner).engine callSite.kind callSite.site owner
        produce).run world = (made handler (world.scope owner).engine callSite.kind callSite.site
          owner produce).run world := by
      rw [cached, run_look, ← entry]
      split
      · rename_i value found
        exact absurd found (missing value)
      · rfl
    rw [fresh] at h
    exact reaches_made answers formed offered (fun _ => missing) rooted produces h

theorem reaches_provide (formed : world.WellFormed) (offered : world.Offers owner callSite)
    (top : callSite.site.location = .root → world.IsRootOf owner (world.scope owner).engine)
    {produce : Run Produced} (produces : Produces world callSite.kind produce)
    {result : Except Failure Value} {last : World}
    (h : (provide handler (world.scope owner).engine callSite.kind callSite.site owner produce).run
      world = some (result, last)) :
    world.Reaches last ∧ (callSite.kind.constructs = true →
      ∀ value, result = .ok value → last.Had callSite.site owner value) := by
  unfold provide at h
  cases place : callSite.site.location with
  | nowhere =>
    rw [place] at h
    exact reaches_made answers formed offered (by simp [place]) (by simp [place]) produces h
  | scope =>
    rw [place] at h
    exact reaches_cached answers formed offered (by simp [place]) produces h
  | root =>
    rw [place] at h
    obtain ⟨_, later, checked, rest⟩ | ⟨failure, checked, rfl⟩ := bind_eq_some h
    · obtain ⟨rfl, opened⟩ := ensureOpen_eq_some checked
      exact reaches_cached answers formed offered (fun _ => ⟨top place, opened⟩) produces rest
    · refine ⟨leads_ensureOpen owner world formed _ last checked, ?_⟩
      rintro _ _ ⟨⟩

/-- The value of a graph for a scope comes from the entry of its owner, and is recorded. -/
theorem reaches_deliver (formed : world.WellFormed) {scope : ScopeId}
    (offered : world.Offers scope callSite) {produce : ScopeId → Run Produced}
    (leads : ∀ owner later, later.WellFormed → later.Offers owner callSite →
      LeadsFrom later (produce owner).run)
    (bare : callSite.kind.constructs = false → ∀ owner, Bare (produce owner)) :
    LeadsFrom world (deliver handler callSite.kind callSite.site scope produce).run := by
  intro result last h
  obtain ⟨mine, engine, top⟩ := offered.ownerFor formed
  generalize owned : world.ownerFor callSite.site.location scope = owner at mine engine top
  have delivered : (do
      let value ← provide handler (world.scope owner).engine callSite.kind callSite.site owner
        (produce owner)
      if callSite.kind.constructs then
        record (.obtained (world.scope owner).engine callSite.site.key owner value)
      pure value : Run Value).run world = some (result, last) := by
    rw [engine, ← owned]
    exact h
  have provides : ∀ {result : Except Failure Value} {later : World},
      (provide handler (world.scope owner).engine callSite.kind callSite.site owner
        (produce owner)).run world = some (result, later) →
      world.Reaches later ∧ (callSite.kind.constructs = true →
        ∀ value, result = .ok value → later.Had callSite.site owner value) := by
    intro result later h
    refine reaches_provide answers formed mine (fun place => engine ▸ top place) ⟨?_, ?_⟩ h
    · exact fun later within grown => leads owner later within (grown.offers formed.toHoused mine)
    · exact fun quiet => bare quiet owner
  obtain ⟨value, later, provided, rest⟩ | ⟨failure, failed, rfl⟩ := bind_eq_some delivered
  · obtain ⟨reached, had⟩ := provides provided
    cases constructs : callSite.kind.constructs with
    | false =>
      simp only [constructs, Bool.false_eq_true, if_false] at rest
      cases rest
      exact reached
    | true =>
      simp only [constructs, if_true] at rest
      cases rest
      have obtained := World.Step.obtain (had constructs value rfl)
      rw [mine.hosts.engine_eq reached.extends] at obtained
      exact reached.trans (.of_unbooked obtained (.record later rfl) rfl rfl)
  · exact (provides failed).1

theorem leads_construct (site : Site) (activate : Arguments → Body) (cast : Option InterfaceCast)
    (values : List Value) : Leads (construct handler site activate cast values).run := by
  intro world formed
  refine .andThen (leads_body answers _ world formed) fun produced later _ => ?_
  cases cast with
  | none => exact .done _
  | some cast => exact .andThen (.pure _) fun value later _ => .done _

omit answers in
theorem leads_ownService (service : OwnService) (scope : ScopeId) :
    Leads (ownService service scope).run := by
  intro world formed
  refine .look ?_
  cases service <;> exact .done _

end Handled

mutual
theorem leads_producer (answers : ∀ request, Leads (handler request)) :
    ∀ (callSite : CallSite) (owner : ScopeId) (world : World), world.WellFormed →
      world.Offers owner callSite → LeadsFrom world (producer handler callSite owner).run
  | .constant _ _, _, _, _, _ | .fallback _ _, _, _, _, _ => .done _
  | .factory _ factory, owner, world, formed, _ => leads_body answers (factory owner) world formed
  | .construct site activate cast parameters, owner, world, formed, offered => by
    refine .andThen ?_ fun values last reached => ?_
    · exact reaches_interpretAll answers parameters owner world formed (offered.child formed)
    · exact leads_construct answers site activate cast values last (reached.wellFormed formed)
  | .collect _ items, owner, world, formed, offered =>
    .andThen (reaches_interpretAll answers items owner world formed (offered.child formed))
      fun _ _ _ => .done _
  | .own _ service, owner, world, formed, _ => leads_ownService service owner world formed
theorem reaches_interpretAll (answers : ∀ request, Leads (handler request)) :
    ∀ (callSites : List CallSite) (scope : ScopeId) (world : World), world.WellFormed →
      (∀ callSite ∈ callSites, world.Offers scope callSite) →
      LeadsFrom world (interpretAll handler callSites scope).run
  | [], _, world, formed, _ => by
    rw [interpretAll]
    exact .done _
  | callSite :: rest, scope, world, formed, offered => by
    rw [interpretAll, interpret_eq]
    refine .andThen ?_ fun value later reached => ?_
    · refine reaches_deliver answers formed (offered callSite List.mem_cons_self) ?_ bare_producer
      exact fun owner later formed mine => leads_producer answers callSite owner later formed mine
    · refine .andThen ?_ fun others last _ => .done _
      exact reaches_interpretAll answers rest scope later (reached.wellFormed formed)
        fun other member =>
          reached.extends.offers formed.toHoused (offered other (List.mem_cons_of_mem _ member))
end

theorem reaches_interpret (answers : ∀ request, Leads (handler request)) (callSite : CallSite)
    (scope : ScopeId) (world : World) (formed : world.WellFormed)
    (offered : world.Offers scope callSite) :
    LeadsFrom world (interpret handler callSite scope).run := by
  rw [interpret_eq]
  exact reaches_deliver answers formed offered (leads_producer answers callSite) bare_producer

end Run
end ServiceContainer
