import ServiceContainer.Proofs.Engine.Arguments
import ServiceContainer.Proofs.Typing.Runs

/-! Answers in typed worlds. Main statement: the container answers every proper request as expected, and
all requests that are nested in it, too. -/
namespace ServiceContainer
variable [Interfaces]

namespace Run
variable {handler other : Handler} {world : World} {service : ServiceType}

theorem delivers_onEngine {good : Engine → α → Prop} (typed : world.Typed) (id : EngineId)
    {action : EngineAction α} (gives : Engine.Gives good (world.engine id) action) :
    Delivers (fun later => Honestly fun value => world.known.provides id →
        ∃ engine, good engine value ∧ (later.engine id).realizations = engine.realizations)
      (onEngine id action).run (onEngine id action).run world := by
  intro result later h
  have ran := h
  rw [run_onEngine] at ran
  cases ended : action.run (world.engine id) with
  | mk outcome engine =>
    obtain ⟨⟨sound, grown⟩, holds⟩ := gives outcome engine ended
    rw [ended] at ran
    cases ran
    refine ⟨h, typed.withEngine sound grown, holds.mono fun value good there => ⟨engine, good, ?_⟩⟩
    have listed : world.engines[id]? ≠ none := by
      rw [List.getElem?_eq_getElem there]
      exact Option.some_ne_none _
    rw [World.engine_withEngine, if_pos ⟨rfl, listed⟩]

theorem delivers_realize (typed : world.Typed) (id : EngineId) (service : ServiceType) :
    Delivers (fun later => Honestly fun found => world.known.provides id →
        ∀ number ∈ found, later.known.activates ⟨id, number⟩ service)
      (onEngine id (Engine.realize service)).run (onEngine id (Engine.realize service)).run world := by
  have gives := Engine.gives_realize (typed.engine_sound id) service
  refine (delivers_onEngine typed id gives).weaken fun later result _ holds => ?_
  refine holds.mono fun found given there number listed => ?_
  obtain ⟨engine, serves, same⟩ := given there
  obtain ⟨callSite, realized, services⟩ := serves number listed
  exact ⟨callSite, same ▸ realized, services⟩

section Invocations
variable (serves : handler.Serves other) {engine : EngineId} {realization : Nat} {callSite : CallSite}
include serves

theorem delivers_execution (typed : world.Typed)
    (graph : world.graph? engine realization = some callSite) (scope : ScopeId) :
    Delivers (fun _ => Honestly (·.Fits callSite.site.service))
      (execution handler engine realization scope).run
      (execution other engine realization scope).run world := by
  intro result last h
  have sound := typed.engine_sound engine
  obtain ⟨⟨kept, grown⟩, follows⟩ := sound.nextPlan realization
  have planned := typed.withEngine kept grown
  rw [run_execution] at h ⊢
  dsimp only at h ⊢
  cases chosen : ((Engine.nextPlan realization).run (world.engine engine)).1 with
  | none =>
    rw [chosen] at h
    cases h
    exact ⟨rfl, planned, Failure.honest_scopeDisposed⟩
  | some plan =>
    rw [chosen] at h
    obtain ⟨realized, listed, following⟩ := follows plan chosen
    have member := List.mem_of_getElem? listed
    have held := sound.holds member
    obtain rfl : realized.callSite = callSite := by
      unfold World.graph? at graph
      rw [listed] at graph
      exact Option.some.inj graph
    dsimp only at h ⊢
    rw [follow_eq sound.memo held following] at h ⊢
    have well := (sound.typed (typed.blueprint engine) member).mono planned.2
    obtain ⟨same, developed, holds⟩ :=
      delivers_interpret serves realized.callSite scope _ planned.1 well result last h
    exact ⟨same, planned.trans developed, holds⟩

omit serves in
theorem delivers_observed {run again : Run Value} (typed : world.Typed) (engine : EngineId)
    (service : ServiceType) {good : Value → Prop}
    (delivers : ∀ later, world.Develops later →
      Delivers (fun _ => Honestly good) run.run again.run later) :
    Delivers (fun _ => Honestly good) (observed engine service run).run
      (observed engine service again).run world := by
  have told : ∀ (later : World) (notice : Notice), later.Typed →
      Delivers (fun _ _ => True) (notify engine notice) (notify engine notice) later :=
    fun later notice typed => .change (typed.notify engine notice) trivial
  refine .bind (told world _ typed) fun _ begun developed _ => ?_
  refine .bind (delivers begun developed) fun result later further holds => ?_
  cases result with
  | ok value => exact .bind (told later _ further.1) fun _ last ended _ => .pure ended.1 holds
  | error failure => exact .bind (told later _ further.1) fun _ last ended _ => .pure ended.1 holds

theorem delivers_invoke (typed : world.Typed) (engine : EngineId) (realization : Nat)
    (scope : ScopeId) :
    Delivers (fun later => Honestly fun value => ∀ service,
        later.known.activates ⟨engine, realization⟩ service → value.Fits service)
      (invoke handler engine realization scope).run (invoke other engine realization scope).run
      world := by
  refine .whenOpen typed fun _ => .look ?_
  cases graph : world.graph? engine realization with
  | none => exact .fail typed Failure.honest_scopeDisposed
  | some callSite =>
    have knows : world.known.activates ⟨engine, realization⟩ callSite.site.service :=
      ⟨callSite, graph, BEq.rfl⟩
    -- Whatever else it is known to activate, that is the same service.
    have settled : ∀ (later : World) (value : Value), world.Develops later →
        value.Fits callSite.site.service → ∀ service,
          later.known.activates ⟨engine, realization⟩ service → value.Fits service :=
      fun later value developed fits service activates =>
        (Value.fits_of_beq (developed.activates_same knows activates)).1 fits
    have validates : Engine.Gives (fun _ _ => True) (world.engine engine)
        (Engine.validateResolution callSite (world.isRoot scope)) := by
      intro result later h
      obtain ⟨realized, listed, rfl⟩ := Option.map_eq_some_iff.1 graph
      have sound := typed.engine_sound engine
      refine ⟨(sound.validateResolution (sound.holds (List.mem_of_getElem? listed)) h).1, ?_⟩
      cases result with
      | ok _ => trivial
      | error failure => exact Engine.candid_validateResolution _ _ _ failure later h
    refine .andThen (delivers_onEngine typed engine validates) fun _ later developed _ => ?_
    have executes : ∀ last, later.Develops last →
        Delivers (fun _ => Honestly (·.Fits callSite.site.service))
          (execution handler engine realization scope).run
          (execution other engine realization scope).run last := by
      intro last further
      obtain ⟨another, listed, same⟩ := (developed.trans further).2.activates _ _ knows
      refine (delivers_execution serves further.1 listed scope).weaken fun _ _ _ holds => ?_
      exact holds.mono fun _ fits => (Value.fits_of_beq same).1 fits
    have ends : ∀ {run again : Run Value}, Delivers (fun _ => Honestly (·.Fits callSite.site.service))
        run.run again.run later → Delivers (fun later => Honestly fun value => ∀ service,
          later.known.activates ⟨engine, realization⟩ service → value.Fits service) run.run again.run
            later := fun delivers => delivers.weaken fun last result further holds =>
      holds.mono fun value fits => settled last value (developed.trans further) fits
    split
    · exact ends (executes later developed.1.develops)
    · exact ends (delivers_observed developed.1 engine _ executes)

theorem delivers_resolve (typed : world.Typed) (scope : ScopeId) (service : ServiceType) :
    Delivers (fun _ => Honestly fun found => ∀ value ∈ found, value.Fits service)
      (resolve handler scope service).run (resolve other scope service).run world := by
  refine .whenOpen typed fun opened => .look ?_
  refine .andThen (delivers_realize typed (world.scope scope).engine service)
    fun found later developed activates => ?_
  cases found with
  | none => exact .done developed.1 (by simp)
  | some realization =>
    have activates := activates (typed.provides_of_open opened) realization rfl
    have mapped : Delivers (fun _ => Honestly fun found : Option Value => ∀ value ∈ found,
          value.Fits service)
        (invoke handler (world.scope scope).engine realization scope >>= fun value =>
          pure (some value)).run
        (invoke other (world.scope scope).engine realization scope >>= fun value =>
          pure (some value)).run later := by
      refine .andThen (delivers_invoke serves developed.1 _ realization scope)
        fun value last further fits => .done further.1 ?_
      rintro _ ⟨⟩
      exact fits service (further.2.activates _ _ activates)
    rwa [bind_pure_comp, bind_pure_comp] at mapped

theorem delivers_activate (typed : world.Typed) (activator : Activator) (scope : ScopeId) :
    Delivers (fun later => Honestly fun value => ∀ service,
        later.known.activates activator service → value.Fits service)
      (activate handler activator scope).run (activate other activator scope).run world :=
  .look (.whenMine typed (delivers_invoke serves typed activator.engine activator.realization scope))

omit [Interfaces] serves in
theorem exists_of_getElem? {firsts seconds : List ServiceType} (same : (firsts == seconds) = true)
    {place : Nat} {second : ServiceType} (there : seconds[place]? = some second) :
    ∃ first, firsts[place]? = some first ∧ (first == second) = true := by
  induction firsts generalizing seconds place with
  | nil =>
    cases seconds with
    | nil => cases there
    | cons _ _ => cases same
  | cons first firsts ih =>
    cases seconds with
    | nil => cases there
    | cons _ seconds =>
      obtain ⟨heads, tails⟩ := Bool.and_eq_true_iff.1 same
      cases place with
      | zero =>
        cases there
        exact ⟨first, rfl, heads⟩
      | succ place => exact ih tails there

omit [Interfaces] serves in
theorem beq_of_getElem? {firsts seconds : List ServiceType} (same : (firsts == seconds) = true)
    {place : Nat} {first second : ServiceType} (here : firsts[place]? = some first)
    (there : seconds[place]? = some second) : (first == second) = true := by
  obtain ⟨_, listed, equal⟩ := exists_of_getElem? same there
  cases listed.symm.trans here
  exact equal

/-- The arguments drawn from an instance factory's sources are what its constructor declares. -/
theorem delivers_gather (typed : world.Typed) (engine : EngineId) (scope : ScopeId)
    {arguments : List Argument} {supplied services : List ServiceType}
    {sources : List ArgumentSource}
    (given : (arguments.map (·.service) == supplied) = true)
    (fit : ∀ argument ∈ arguments, argument.value.Fits argument.service)
    (furnish : ArgumentSource.Furnish (fun realization => world.known.activates ⟨engine, realization⟩)
      supplied sources services) :
    Delivers (fun _ => Honestly fun values => List.Forall₂ Value.Fits values services)
      (gather handler engine scope arguments sources).run
      (gather other engine scope arguments sources).run world := by
  induction sources generalizing services world with
  | nil =>
    cases furnish
    exact .done typed .nil
  | cons source rest ih =>
    cases furnish with
    | @cons _ service _ services suits furnish =>
      have drawn : Delivers (fun _ => Honestly (·.Fits service))
          (draw handler engine scope arguments source).run
          (draw other engine scope arguments source).run world := by
        cases suits with
        | @supplied position wanted listed same =>
          rw [draw, draw]
          cases there : arguments[position]? with
          | none => exact .fail typed Failure.honest_scopeDisposed
          | some argument =>
            have supplied_as : (arguments.map (·.service))[position]? = some argument.service := by
              rw [List.getElem?_map, there]
              rfl
            have services := beq_of_getElem? given supplied_as listed
            refine .done typed ((Value.fits_of_beq (BEq.trans services same)).1 ?_)
            exact fit argument (List.mem_of_getElem? there)
        | @service realization activates =>
          refine (delivers_invoke serves typed engine realization scope).weaken
            fun later _ developed holds => ?_
          exact holds.mono fun value fits => fits service (developed.2.activates _ _ activates)
        | fallback fits => exact .done typed fits
      rw [gather, gather]
      refine .andThen drawn fun value later developed fits => ?_
      have later_on := ArgumentSource.Furnish.mono furnish fun _ _ => developed.2.activates _ _
      refine .andThen (ih developed.1 later_on) fun values last further others => ?_
      exact .done further.1 (.cons fits others)

theorem delivers_create (typed : world.Typed) (factory : FactoryId) (scope : ScopeId)
    {arguments : List Argument} (fit : ∀ argument ∈ arguments, argument.value.Fits argument.service) :
    Delivers (fun later => Honestly fun value => ∀ type,
        later.known.makes factory type → value.typeId = some type.id)
      (create handler factory scope arguments).run (create other factory scope arguments).run
      world := by
  refine .look ?_
  cases listed : world.factories[factory]? with
  | none => exact .fail typed Failure.honest_scopeDisposed
  | some found =>
    obtain ⟨services, takes, furnish⟩ := typed.factories found (List.mem_of_getElem? listed)
    refine .whenMine typed (.whenOpen typed fun _ => ?_)
    dsimp only
    split
    · rename_i given
      refine .andThen (delivers_gather serves typed found.engine scope given fit furnish)
        fun values later developed fits => ?_
      have makes : (found.activate { implementation := found.implementation.name, values }).Makes
          (fun value => value.typeId = some found.implementation.id) later.known :=
        (takes.mono developed.2).makes fits
      refine .andThen (delivers_body serves developed.1 makes) fun produced last further well => ?_
      have accepted : produced.value.as found.implementation = .ok produced.value := by
        rw [Value.as, well.value, if_pos BEq.rfl]
      rw [accepted]
      refine .done further.1 fun type known => ?_
      have knows : world.known.makes factory found.implementation := ⟨found, listed, rfl⟩
      rw [well.value, (developed.trans further).makes_same knows known]
    · refine .fail typed (Failure.honest_activation 'e' ?_ (by decide))
      rw [String.toList_append, String.toList_append, String.toList_append]
      rfl

end Invocations

theorem delivers_createScope (typed : world.Typed) (scope : ScopeId) :
    Delivers (fun _ _ => True) (createScope scope) (createScope scope) world := by
  intro result later h
  refine ⟨h, ?_, trivial⟩
  rw [run_createScope] at h
  cases listed : world.scopes[scope]? with
  | none =>
    rw [listed] at h
    cases h
    exact typed.develops
  | some parent =>
    rw [listed] at h
    have same : later = (world.addScope parent.engine (some (parent.root.getD scope))).2 :=
      congrArg Prod.snd (Option.some.inj h).symm
    have there := typed.placed parent.shape (List.mem_map_of_mem (List.mem_of_getElem? listed))
    exact same ▸ typed.addScope there _

theorem delivers_activator (typed : world.Typed) {engine : EngineId} (service : ServiceType)
    (there : world.known.provides engine) :
    Delivers (fun later => Honestly fun found => ∀ activator ∈ found,
        later.known.activates activator service)
      (activator engine service).run (activator engine service).run world := by
  refine .andThen (delivers_realize typed engine service) fun found later developed activates => ?_
  refine .done developed.1 fun activator listed => ?_
  obtain ⟨realization, rfl, rfl⟩ := Option.map_eq_some_iff.1 listed
  exact activates there realization rfl

theorem delivers_prepare (typed : world.Typed) {engine : EngineId} (implementation : TypeInfo)
    (supplied : List ServiceType) (there : world.known.provides engine) :
    Delivers (fun later => Honestly fun factory => later.known.makes factory implementation)
      (prepare engine implementation supplied).run (prepare engine implementation supplied).run
      world := by
  have gives := Engine.gives_prepare supplied (typed.engine_sound engine) (typed.blueprint engine)
    implementation
  refine .andThen (delivers_onEngine typed engine gives) fun prepared later developed holds => ?_
  obtain ⟨last, ⟨listed, furnish⟩, same⟩ := holds there
  obtain ⟨_, constructor⟩ := (typed.blueprint engine).catalog.constructor listed
  have well : InstanceFactory.Typed later.known
      { engine, implementation, supplied, activate := prepared.1.activate
        sources := prepared.2 } := by
    refine ⟨_, constructor.takes.mono developed.2, furnish.mono fun realization service served => ?_⟩
    exact served.mono (same ▸ List.prefix_rfl)
  refine .lift (.change (developed.1.addFactory well) ?_)
  exact ⟨_, List.getElem?_concat_length, rfl⟩

end Run
namespace Container
variable {handler other : Handler} {world : World}

/-- Most replies are nothing to learn from. -/
theorem delivers_unlearned {request : Request} {act again : Act request.Reply}
    (delivers : Delivers (fun later reply => request.Expects later.known reply) act again world)
    (nothing : ∀ reply, world.known.learn request reply = world.known) :
    Delivers (fun later reply => request.Expects later.known reply ∧
      world.known.learn request reply ≤ later.known) act again world :=
  delivers.weaken fun _ reply developed expected => ⟨expected, (nothing reply).symm ▸ developed.2⟩

theorem provides_of_view (typed : world.Typed) {scope : ScopeId} {view : ScopeView}
    (seen : world.view? scope = some view) : world.known.provides view.engine := by
  obtain ⟨found, listed, rfl⟩ := Option.map_eq_some_iff.1 seen
  exact typed.placed found.shape (List.mem_map_of_mem (List.mem_of_getElem? listed))

theorem serves_respond (serves : handler.Serves other) :
    (respond handler).Serves (respond other) := by
  intro request world typed proper
  cases request with
  | resolve scope service =>
    exact delivers_unlearned (Run.delivers_resolve serves typed scope service) fun _ => rfl
  | createScope scope =>
    exact delivers_unlearned (Run.delivers_createScope typed scope) fun _ => rfl
  | dispose scope mode =>
    exact delivers_unlearned (Run.delivers_dispose serves scope mode typed) fun _ => rfl
  | inspect scope =>
    rintro _ _ ⟨⟩
    refine ⟨rfl, typed.develops, trivial, ?_⟩
    cases seen : world.view? scope with
    | none => exact Known.le_refl _
    | some view =>
      refine ⟨fun engine known => known.elim id ?_, fun _ _ knows => knows, fun _ _ knows => knows⟩
      rintro rfl
      exact provides_of_view typed seen
  | activator engine service =>
    refine (Run.delivers_activator typed service proper).weaken fun later reply developed holds => ?_
    refine ⟨holds.mono fun _ _ => trivial, ?_⟩
    cases reply with
    | error failure => exact developed.2
    | ok found =>
      cases found with
      | none => exact developed.2
      | some made =>
        refine ⟨developed.2.provides, fun activator other known => ?_, developed.2.makes⟩
        obtain old | ⟨rfl, rfl⟩ := known
        · exact developed.2.activates _ _ old
        · exact holds activator rfl
  | activate activator scope =>
    exact delivers_unlearned (Run.delivers_activate serves typed activator scope) fun _ => rfl
  | prepare engine implementation supplied =>
    refine (Run.delivers_prepare typed implementation supplied proper).weaken
      fun later reply developed holds => ?_
    refine ⟨holds.mono fun _ _ => trivial, ?_⟩
    cases reply with
    | error failure => exact developed.2
    | ok made =>
      refine ⟨developed.2.provides, developed.2.activates, fun factory type known => ?_⟩
      obtain old | ⟨rfl, rfl⟩ := known
      · exact developed.2.makes _ _ old
      · exact holds
  | create factory scope arguments =>
    exact delivers_unlearned (Run.delivers_create serves typed factory scope proper) fun _ => rfl
  | serial =>
    exact delivers_unlearned (.change (typed.keepBooks _ world.tallies) trivial) fun _ => rfl
  | tally counter =>
    exact delivers_unlearned (.change (typed.keepBooks world.nextSerial _) trivial) fun _ => rfl
  | say line => exact delivers_unlearned (.change (typed.record trivial) trivial) fun _ => rfl

open Classical in
/-- Answers as the container does, but only proper requests, and only if the reply is as expected. -/
noncomputable def strict : (fuel : Nat) → Handler
  | 0 => fun _ _ => none
  | fuel + 1 => fun request world =>
    (respond (strict fuel) request world).filter fun ended =>
      request.Proper world.known ∧ request.Expects world.known ended.1

theorem serves_perform (fuel : Nat) : (perform fuel).Serves (strict fuel) := by
  induction fuel with
  | zero =>
    rintro request world _ _ _ _ ⟨⟩
  | succ fuel ih =>
    intro request world typed proper reply later h
    obtain ⟨same, developed, expected, learned⟩ :=
      serves_respond ih request world typed proper reply later h
    refine ⟨?_, developed, expected, learned⟩
    rw [strict]
    refine Option.filter_eq_some_iff.2 ⟨same, ?_⟩
    simp only [decide_eq_true_eq]
    exact ⟨proper, expected.anti developed.2⟩

/-- A typed program runs as if no other than the expected replies were possible. -/
theorem run_typed {fuel : Nat} {program : Program α} {good : Known → α → Prop}
    (typed : world.Typed) (lasting : Lasting good) (well : program.Typed good world.known) :
    Delivers (fun later => good later.known) (run fuel program) (program.exec (strict fuel)) world :=
  Run.delivers_exec (serves_perform fuel) lasting typed well

end Container
end ServiceContainer
