import ServiceContainer.Proofs.Uniqueness

/-! Disposables over whole runs. Main statement: at any time of any run, what was made to be
disposed is held by its owner alone, waits in its owner's only pass, or was disposed once. -/
namespace ServiceContainer
namespace World

inductive Fate where
  | held
  | pending
  | disposed

/-- What it is for the owner's disposable to meet a fate: the owner is open and alone in holding it,
the owner's only pass has yet to come to it, or its disposal began once. -/
def Meets (world : World) (owner : ScopeId) (tracked : Tracked) : Fate → Prop
  | .held =>
    (world.scope owner).state = .open ∧ tracked ∈ (world.scope owner).bag ∧
      ∀ scope, ((world.scope scope).bag.map (·.ticket)).count tracked.ticket =
        if scope = owner then 1 else 0
  | .pending =>
    (world.scope owner).state = .disposing ∧ .disposed tracked.ticket ∉ world.journal ∧
      ∃ tickets, world.passes owner = [tickets] ∧ tickets.count tracked.ticket = 1
  | .disposed => world.disposals.count tracked.ticket = 1

def Registered (world : World) (maker : Frame) : Prop :=
  ∃ position descriptor service callSite,
    .entered maker.engine maker.key descriptor.lifetime.location maker.owner ∈ world.journal ∧
    callSite.site.key = maker.key ∧ world.Plans maker.engine position service callSite ∧
    (world.engine maker.engine).blueprint.registry.descriptors[position]? = some descriptor ∧
    ∀ name value, descriptor.implementation ≠ .fixed name value

/-- The owner has no instance of the site, none is being made, and one may be made. -/
structure Lacks (world : World) (site : Site) (owner : ScopeId) : Prop where
  free : Run.cycle? world.stack (world.scope owner).engine site.key = none
  missing : site.location ≠ .nowhere →
    ∀ value, world.cached (world.frame site owner) ≠ some (some value)
  opened : site.location = .root → (world.scope owner).state = .open

structure Accounted (world : World) : Prop where
  fated : ∀ maker tracked value accepted,
    .entrusted maker tracked value accepted ∈ world.journal → tracked.disposable.mode = .sync →
      ∃! fate, world.Meets maker.owner tracked fate
  once : world.disposals.Nodup
  /-- A scope that began to be disposed is not opened again. -/
  left : ∀ scope tickets, .drained scope tickets ∈ world.journal →
    (world.scope scope).state ≠ .open
  emptied : ∀ scope, (world.scope scope).state ≠ .open → (world.scope scope).bag = []
  issued : ∀ ticket, .disposed ticket ∈ world.journal → ∃ maker tracked value accepted,
    .entrusted maker tracked value accepted ∈ world.journal ∧ tracked.ticket = ticket
  registered : ∀ maker tracked value accepted,
    .entrusted maker tracked value accepted ∈ world.journal → world.Registered maker

section Fates
variable {world : World} (ledger : world.Ledger) {maker : Frame} {tracked : Tracked}
  {value : Value} {accepted : Bool} {owner : ScopeId}
include ledger

theorem Ledger.meets_held (entrusted : .entrusted maker tracked value true ∈ world.journal)
    (opened : (world.scope maker.owner).state = .open) :
    world.Meets maker.owner tracked .held := by
  have held : tracked ∈ (world.scope maker.owner).bag :=
    ledger.mem_bag.2 ⟨opened, maker, value, entrusted, rfl⟩
  refine ⟨opened, held, fun scope => ?_⟩
  by_cases here : scope = maker.owner
  · subst here
    rw [if_pos rfl]
    exact List.count_eq_one_of_mem ledger.nodup_bag (List.mem_map_of_mem held)
  · rw [if_neg here, List.count_eq_zero]
    intro member
    obtain ⟨item, listed, same⟩ := List.mem_map.1 member
    obtain ⟨_, another, other, again, rfl⟩ := ledger.mem_bag.1 listed
    cases ledger.unique again entrusted same
    exact here rfl

theorem Ledger.meets_pending (entrusted : .entrusted maker tracked value true ∈ world.journal)
    (disposing : (world.scope maker.owner).state = .disposing)
    (remaining : .disposed tracked.ticket ∉ world.journal) :
    world.Meets maker.owner tracked .pending := by
  have inside := ledger.owner_lt entrusted
  have taken : tracked ∈ world.taken maker.owner := mem_taken.2 ⟨maker, value, entrusted, rfl⟩
  refine ⟨disposing, remaining, _, ledger.left maker.owner inside (by simp [disposing]), ?_⟩
  exact List.count_eq_one_of_mem ledger.nodup_taken (List.mem_map_of_mem taken)

theorem Ledger.meets_disposed (disposed : .disposed tracked.ticket ∈ world.journal) :
    world.Meets owner tracked .disposed :=
  List.count_eq_one_of_mem ledger.once (mem_disposals.2 disposed)

theorem Ledger.exists_meets (entrusted : .entrusted maker tracked value accepted ∈ world.journal)
    (sync : tracked.disposable.mode = .sync) : ∃ fate, world.Meets maker.owner tracked fate := by
  by_cases disposed : .disposed tracked.ticket ∈ world.journal
  · exact ⟨.disposed, ledger.meets_disposed disposed⟩
  · cases accepted with
    | false => exact absurd (ledger.refused maker tracked value entrusted sync) disposed
    | true =>
      cases state : (world.scope maker.owner).state with
      | «open» => exact ⟨.held, ledger.meets_held entrusted state⟩
      | disposing => exact ⟨.pending, ledger.meets_pending entrusted state disposed⟩
      | disposed => exact absurd (ledger.ended maker tracked value entrusted sync state) disposed

theorem Ledger.eq_disposed (disposed : world.Meets owner tracked .disposed) {fate : Fate}
    (meets : world.Meets owner tracked fate) : fate = .disposed := by
  have begun : .disposed tracked.ticket ∈ world.journal :=
    mem_disposals.1 (List.count_pos_iff.1 (Nat.lt_of_lt_of_eq Nat.one_pos disposed.symm))
  cases fate with
  | held => exact absurd begun (ledger.remaining meets.2.1)
  | pending => exact absurd begun meets.2.1
  | disposed => rfl

theorem Ledger.meets_unique {one other : Fate} (first : world.Meets owner tracked one)
    (second : world.Meets owner tracked other) : one = other := by
  cases one with
  | disposed => exact (ledger.eq_disposed first second).symm
  | held =>
    cases other with
    | held => rfl
    | pending => cases first.1.symm.trans second.1
    | disposed => exact ledger.eq_disposed second first
  | pending =>
    cases other with
    | held => cases first.1.symm.trans second.1
    | pending => rfl
    | disposed => exact ledger.eq_disposed second first

end Fates

theorem Regular.accounted {world : World} (regular : world.Regular) : world.Accounted where
  fated maker tracked value accepted entrusted sync := by
    obtain ⟨fate, meets⟩ := regular.formed.ledger.exists_meets entrusted sync
    exact ⟨fate, meets, fun other also => regular.formed.ledger.meets_unique also meets⟩
  once := regular.formed.ledger.once
  left scope tickets drained opened := by
    have passed := mem_passes.2 drained
    rw [regular.formed.ledger.opened scope opened] at passed
    cases passed
  emptied scope closed := by rw [regular.formed.ledger.bags, if_neg closed]
  issued ticket disposed := by
    obtain ⟨maker, tracked, value, accepted, entrusted, same, _⟩ :=
      regular.formed.ledger.due ticket disposed
    exact ⟨maker, tracked, value, accepted, entrusted, same⟩
  registered maker tracked value accepted entrusted := by
    obtain ⟨location, entered⟩ := regular.entrusted maker tracked value accepted entrusted
    obtain ⟨position, descriptor, service, callSite, keyed, registered, unowned, planned, rfl⟩ :=
      regular.registered_of_entered entered
    exact ⟨position, descriptor, service, callSite, entered, keyed, planned, registered, unowned⟩

end World

namespace Run
variable {handler : Handler} {world last : World}

/-- What is made without user code, and kept nowhere, leaves the world alone. -/
theorem run_deliver_constant {site : Site} (unkept : site.location = .nowhere) (scope : ScopeId)
    (value : Value) :
    (deliver handler .constant site scope fun _ => pure { value }).run world =
      some (.ok value, world) := by
  obtain ⟨_, _, _, _⟩ := site
  cases unkept
  rfl

/-- Values of registrations that own them, and of parameters by default, are not made. -/
theorem interpret_given (formed : world.WellFormed) {scope : ScopeId} {callSite : CallSite}
    {site : Site} {value : Value} (offered : world.Offers scope callSite)
    (given : callSite = .constant site value ∨ callSite = .fallback site value) :
    (interpret handler callSite scope).run world = some (.ok value, world) := by
  have memo := (formed.engine_sound (world.scope scope).engine).memo
  obtain rfl | rfl := given
  · rw [interpret]
    exact run_deliver_constant (offered.holds.unkept memo rfl) scope value
  · rw [interpret]
    exact run_deliver_constant (offered.holds.unkept memo rfl) scope value

/-- An instance factory's value is what its constructor yields, and nothing happens after that. -/
theorem made_of_create (answers : ∀ request, Leads (handler request)) (formed : world.WellFormed)
    {factory : FactoryId} {scope : ScopeId} {arguments : List Argument} {value : Value}
    (h : (create handler factory scope arguments).run world = some (.ok value, last)) :
    ∃ plan values between produced, world.factories[factory]? = some plan ∧
      world.Steps between ∧
      (body handler (plan.activate { implementation := plan.implementation.name, values })).run
        between = some (.ok produced, last) ∧
      produced.value.as plan.implementation = .ok value := by
  rw [create, run_look] at h
  cases listed : world.factories[factory]? with
  | none =>
    rw [listed] at h
    cases h
  | some plan =>
    rw [listed] at h
    obtain ⟨_, later, mine, guarded⟩ | ⟨_, _, failed⟩ := bind_eq_some h
    · obtain ⟨rfl, mine⟩ := checkEngine_eq_some mine
      obtain ⟨_, later, checked, supplied⟩ | ⟨_, _, failed⟩ := bind_eq_some guarded
      · obtain ⟨rfl, opened⟩ := ensureOpen_eq_some checked
        have hosted : later.Hosts scope plan.engine := mine ▸ .of_state (by simp [opened])
        dsimp only at supplied
        split at supplied
        · obtain ⟨values, between, gathered, made⟩ | ⟨_, _, failed⟩ := bind_eq_some supplied
          · have reached := reaches_gather answers arguments plan.sources formed hosted _ _ gathered
            obtain ⟨produced, after, ran, ended⟩ | ⟨_, _, failed⟩ := bind_eq_some made
            · have same : some (produced.value.as plan.implementation, after) =
                some (.ok value, last) := ended
              obtain ⟨cast, rfl⟩ := Prod.mk.inj (Option.some.inj same)
              exact ⟨plan, values, between, produced, rfl, reached.steps, ran, cast⟩
            · cases failed
          · cases failed
        · cases supplied
      · cases failed
    · cases failed

section Fresh
variable {site : Site} {owner scope : ScopeId} {produced : Produced} {between : World}

theorem run_provide (missing : site.location ≠ .nowhere →
      ∀ value, world.cached (world.frame site owner) ≠ some (some value))
    (opened : site.location = .root → (world.scope owner).state = .open) (kind : SiteKind)
    (produce : Run Produced) :
    (provide handler (world.scope owner).engine kind site owner produce).run world =
      (made handler (world.scope owner).engine kind site owner produce).run world := by
  have uncached : site.location ≠ .nowhere →
      (cached handler (world.scope owner).engine kind site owner produce).run world =
        (made handler (world.scope owner).engine kind site owner produce).run world := by
    intro kept
    rw [cached, run_look, ← world.cached_frame site owner]
    split
    · rename_i value found
      exact absurd found (missing kept value)
    · rfl
  unfold provide
  cases place : site.location with
  | nowhere => rfl
  | scope => exact uncached (by simp [place])
  | root =>
    refine Eq.trans ?_ (uncached (by simp [place]))
    exact run_bind_ok (by rw [run_ensureOpen, if_pos (opened place)])

theorem captured_of_provide (lacks : world.Lacks site owner) {kind : SiteKind}
    (constructs : kind.constructs = true) {produce : Run Produced}
    (returned : produce.run (world.begin site owner) = some (.ok produced, between))
    {result : Except Failure Value}
    (h : (provide handler (world.scope owner).engine kind site owner produce).run world =
      some (result, last)) :
    ∃ captured later, (capture handler site owner produced).run between = some (captured, later) ∧
      later.journal <:+ last.journal := by
  rw [run_provide lacks.missing lacks.opened, made, constructs, if_pos rfl, run_guarded, lacks.free] at h
  obtain ⟨⟨outcome, inner⟩, ran, ended⟩ := Option.map_eq_some_iff.1 h
  cases ended
  -- What is produced a second time from the same world is the same.
  have captures : ∀ {captured : Except Failure Value} {later : World},
      (making handler site owner produce).run
        (world.enter (world.scope owner).engine site owner) = some (captured, later) →
      (capture handler site owner produced).run between = some (captured, later) := by
    intro captured later making
    rw [run_making] at making
    obtain ⟨_, _, again, captures⟩ | ⟨_, failed, _⟩ := bind_eq_some making
    · cases returned.symm.trans again
      exact captures
    · cases returned.symm.trans failed
  obtain ⟨value, later, making, rest⟩ | ⟨failure, making, rfl⟩ := bind_eq_some ran
  · cases rest
    refine ⟨_, later, captures making, ?_⟩
    rw [World.journal_leave, World.journal_complete]
    exact (List.suffix_cons ..).trans (List.suffix_cons ..)
  · exact ⟨_, inner, captures making, List.suffix_cons ..⟩

/-- To interpret a graph that user code takes part in is to provide its value, and to record that. -/
theorem provided_of_interpret {callSite : CallSite} (constructs : callSite.kind.constructs = true)
    (owned : world.ownerFor callSite.site.location scope = owner)
    (engine : (world.scope owner).engine = (world.scope scope).engine)
    {result : Except Failure Value}
    (h : (interpret handler callSite scope).run world = some (result, last)) :
    ∃ later, (provide handler (world.scope owner).engine callSite.kind callSite.site owner
        (producer handler callSite owner)).run world = some (result, later) ∧
      later.journal <:+ last.journal ∧ ∀ value, result = .ok value →
        last = later.record (.obtained (world.scope owner).engine callSite.site.key owner value) := by
  have delivered : (do
      let value ← provide handler (world.scope owner).engine callSite.kind callSite.site owner
        (producer handler callSite owner)
      if callSite.kind.constructs then
        record (.obtained (world.scope owner).engine callSite.site.key owner value)
      pure value : Run Value).run world = some (result, last) := by
    rw [engine, ← owned]
    rw [interpret_eq] at h
    exact h
  obtain ⟨value, later, provided, rest⟩ | ⟨failure, failed, rfl⟩ := bind_eq_some delivered
  · simp only [constructs, if_true] at rest
    cases rest
    exact ⟨later, provided, List.suffix_cons .., by rintro _ ⟨⟩; rfl⟩
  · exact ⟨last, failed, List.suffix_rfl, by rintro _ ⟨⟩⟩

/-- A construction that is due begins, for an owner that can have its graph. -/
theorem begins_of_lacks (formed : world.WellFormed) {callSite : CallSite}
    (offered : world.Offers scope callSite) (constructs : callSite.kind.constructs = true)
    (owned : world.ownerFor callSite.site.location scope = owner)
    (lacks : world.Lacks callSite.site owner) :
    world.Offers owner callSite ∧ (world.scope owner).engine = (world.scope scope).engine ∧
      world.Step (world.begin callSite.site owner) := by
  obtain ⟨mine, engine, top⟩ := offered.ownerFor formed
  rw [owned] at mine engine top
  exact ⟨mine, engine, .enter mine constructs (cycle?_eq_none lacks.free) lacks.missing
    fun place => ⟨engine ▸ top place, lacks.opened place⟩⟩

/-- Whenever user code that is run for a graph returns something to be disposed, the next step is to
entrust the owner with it. -/
theorem entrusted_of_interpret (answers : ∀ request, Leads (handler request))
    (formed : world.WellFormed) {callSite : CallSite} (offered : world.Offers scope callSite)
    (owned : world.ownerFor callSite.site.location scope = owner)
    (lacks : world.Lacks callSite.site owner)
    (returned : (producer handler callSite owner).run (world.begin callSite.site owner) =
      some (.ok produced, between))
    {disposable : Disposable} (comes : produced.disposable = some disposable)
    {result : Except Failure Value}
    (h : (interpret handler callSite scope).run world = some (result, last)) :
    world.Steps between ∧ ∃ taken, between.Step taken ∧ taken.journal <:+ last.journal ∧
      .entrusted (between.frame callSite.site owner) ⟨between.nextTicket, disposable⟩ produced.value
        (decide ((between.scope owner).state = .open)) ∈ taken.journal := by
  have constructs : callSite.kind.constructs = true := by
    by_contra quiet
    have bare := bare_producer (Bool.eq_false_iff.2 quiet) owner _ _ _ returned
    cases comes.symm.trans bare
  obtain ⟨mine, engine, begins⟩ := begins_of_lacks formed offered constructs owned lacks
  have within := begins.wellFormed formed
  have reached := leads_producer answers callSite owner _ within
    (begins.extends.offers formed.toHoused mine) _ _ returned
  obtain ⟨later, provided, grown, _⟩ := provided_of_interpret constructs owned engine h
  obtain ⟨_, inner, captured, inside⟩ := captured_of_provide lacks constructs returned provided
  obtain ⟨taken, step, rest, entrusted, _⟩ :=
    takes_capture answers (reached.wellFormed within) comes
      (World.making_of_begin begins mine.hosts reached) captured
  exact ⟨(Relation.ReflTransGen.single begins).trans reached.steps, taken, step,
    rest.extends.journal.trans (inside.trans grown), entrusted⟩

end Fresh

end Run

namespace World

/-- At any time of any run, what was made to be disposed synchronously is held by its open owner
alone, waits in its owner's only pass, or was disposed once; nothing is disposed twice, and scopes
that are not open hold nothing. All that is ever disposed was made by constructions of registered
services, whose owners are entrusted with it as soon as user code has returned it. To deliver a
registered value or a parameter's default changes nothing, and what an instance factory makes is
handed out in the world in which its constructor returned it. -/
theorem Reachable.disposed_once {before world : World} (reached : before.Reachable)
    (steps : before.Steps world) :
    world.Accounted ∧
    (∀ fuel callSite plan scope owner produced disposable between result last,
      world.Offers scope callSite → plan.Follows callSite →
      world.ownerFor callSite.site.location scope = owner → world.Lacks callSite.site owner →
      (Run.producer (Container.perform fuel) callSite owner).run (world.begin callSite.site owner) =
        some (.ok produced, between) →
      produced.disposable = some disposable →
      (Run.follow (Container.perform fuel) scope plan).run world = some (result, last) →
      ∃ taken, before.Steps taken ∧ taken.journal <:+ last.journal ∧ between.Step taken ∧
        .entrusted (between.frame callSite.site owner) ⟨between.nextTicket, disposable⟩
          produced.value (decide ((between.scope owner).state = .open)) ∈ taken.journal) ∧
    (∀ fuel callSite plan scope site value,
      world.Offers scope callSite → plan.Follows callSite →
      callSite = .constant site value ∨ callSite = .fallback site value →
      (Run.follow (Container.perform fuel) scope plan).run world = some (.ok value, world)) ∧
    ∀ fuel factory scope arguments value last,
      (Run.create (Container.perform fuel) factory scope arguments).run world =
        some (.ok value, last) →
      ∃ plan values between produced, world.factories[factory]? = some plan ∧
        before.Steps between ∧
        (Run.body (Container.perform fuel)
          (plan.activate { implementation := plan.implementation.name, values })).run between =
            some (.ok produced, last) ∧
        produced.value.as plan.implementation = .ok value := by
  have regular := reached.regular.steps steps
  have follows : ∀ {callSite : CallSite} {plan : Plan} {scope : ScopeId} (handler : Handler),
      world.Offers scope callSite → plan.Follows callSite →
      Run.follow handler scope plan = Run.interpret handler callSite scope :=
    fun handler offered follows =>
      Run.follow_eq (regular.formed.engine_sound _).memo offered.holds follows handler _
  refine ⟨regular.accounted, ?_, ?_, ?_⟩
  · intro fuel callSite plan scope owner produced disposable between result last offered same owned
      lacks returned comes followed
    rw [follows _ offered same] at followed
    obtain ⟨ran, taken, step, grown, entrusted⟩ := Run.entrusted_of_interpret
      (Container.leads_perform fuel) regular.formed offered owned lacks returned comes followed
    exact ⟨taken, (steps.trans ran).tail step, grown, step, entrusted⟩
  · intro fuel callSite plan scope site value offered same given
    rw [follows _ offered same]
    exact Run.interpret_given regular.formed offered given
  · intro fuel factory scope arguments value last created
    obtain ⟨plan, values, between, produced, listed, gathered, made, cast⟩ :=
      Run.made_of_create (Container.leads_perform fuel) regular.formed created
    exact ⟨plan, values, between, produced, listed, steps.trans gathered, made, cast⟩

section Sample

def tidying : Blueprint where
  registry := ⟨(disposing .scoped).registry.descriptors.set 0
    ⟨.plain kept, .scoped, .produced kept.name fun _ => do
      let serial ← Program.request .serial
      pure (.ok {
        value := .object ⟨kept, some serial, kept.name⟩
        disposable := some ⟨kept.name, .sync, pure ()⟩ })⟩⟩
  catalog := (disposing .scoped).catalog

/-- The first child scope was disposed with the one instance that it held, and did not take over a
second one. -/
def tidied (world : World) : Bool :=
  world.disposals == [1, 0] && decide ((world.scope 1).state = .disposed) &&
    (world.taken 1).map (·.ticket) == [0] &&
    (world.taken 1).all fun tracked => decide (tracked.disposable.mode = .sync)

end Sample

/-- A scope is disposed while it makes the user's parameters. The first is disposed with it; what is
made for the third is disposed at once. -/
theorem disposed_once_midway :
    ∃ world maker tracked value,
      Container.serve 2 tidying {} [] (resolving [user]) {} = .ok (some ((), world)) ∧
      .entrusted maker tracked value true ∈ world.journal ∧ maker.owner = 1 ∧
      tracked.disposable.mode = .sync ∧ world.disposals = [1, tracked.ticket] ∧
      world.Meets 1 tracked .disposed ∧ (world.scope 1).bag = [] := by
  obtain ⟨world, served, shown⟩ := exists_of_served
    (Container.serve 2 tidying {} [] (resolving [user]) {}) tidied (by decide +kernel)
  obtain ⟨shown, sync⟩ := Bool.and_eq_true_iff.1 shown
  obtain ⟨shown, taken⟩ := Bool.and_eq_true_iff.1 shown
  obtain ⟨disposals, state⟩ := Bool.and_eq_true_iff.1 shown
  have gone := of_decide_eq_true state
  obtain ⟨tracked, listed, ticket⟩ : ∃ tracked, tracked ∈ world.taken 1 ∧ tracked.ticket = 0 := by
    have member : 0 ∈ (world.taken 1).map (·.ticket) := by simp [eq_of_beq taken]
    simpa using member
  obtain ⟨maker, value, entrusted, owned⟩ := mem_taken.1 listed
  have eager := of_decide_eq_true (List.all_eq_true.1 sync tracked listed)
  have reached := Container.reachable_of_serve (.start []) served
  obtain ⟨accounted, _⟩ := reached.disposed_once .refl
  obtain ⟨fate, meets, _⟩ := accounted.fated maker tracked value true entrusted eager
  rw [owned] at meets
  refine ⟨world, maker, tracked, value, served, entrusted, owned, eager, ?_, ?_, ?_⟩
  · rw [ticket]
    exact eq_of_beq disposals
  · cases fate with
    | held => cases gone.symm.trans meets.1
    | pending => cases gone.symm.trans meets.1
    | disposed => exact meets
  · exact accounted.emptied 1 (by simp [gone])

end World
end ServiceContainer
