import ServiceContainer.Proofs.Typing.Worlds

/-! Runs in typed worlds. Main statement: the container answers proper requests as expected, and would
do so too if it answered none in any other way, however deeply they are nested. -/
namespace ServiceContainer
variable [Interfaces]

/-- Whenever the act ends, the other one ends in the same way, the world has developed, and the result
is good. -/
def Delivers (good : World → α → Prop) (act other : Act α) (world : World) : Prop :=
  ∀ result later, act world = some (result, later) →
    other world = some (result, later) ∧ world.Develops later ∧ good later result

namespace World

theorem Develops.trans {world later last : World} (first : world.Develops later)
    (second : later.Develops last) : world.Develops last :=
  ⟨second.1, Known.le_trans first.2 second.2⟩

theorem Typed.develops {world : World} (typed : world.Typed) : world.Develops world :=
  ⟨typed, Known.le_refl _⟩

end World

namespace Delivers
variable {good : World → α → Prop} {fine : World → β → Prop} {world : World}

theorem pure (typed : world.Typed) {value : α} (holds : good world value) :
    Delivers good (Pure.pure value) (Pure.pure value) world := by
  rintro _ _ ⟨⟩
  exact ⟨rfl, typed.develops, holds⟩

theorem bind {first other : Act α} {next rest : α → Act β} (here : Delivers good first other world)
    (after : ∀ value later, world.Develops later → good later value →
      Delivers fine (next value) (rest value) later) :
    Delivers fine (first >>= next) (other >>= rest) world := by
  intro result last h
  obtain ⟨value, later, ran, ended⟩ := Act.bind_eq_some.1 h
  obtain ⟨same, developed, holds⟩ := here value later ran
  obtain ⟨again, further, ends⟩ := after value later developed holds result last ended
  exact ⟨Act.bind_eq_some.2 ⟨value, later, same, again⟩, developed.trans further, ends⟩

theorem weaken {act other : Act α} {weak : World → α → Prop} (here : Delivers good act other world)
    (weaker : ∀ later result, world.Develops later → good later result → weak later result) :
    Delivers weak act other world := by
  intro result later h
  obtain ⟨same, developed, holds⟩ := here result later h
  exact ⟨same, developed, weaker later result developed holds⟩

theorem andThen {first other : Run α} {next rest : α → Run β}
    (here : Delivers (fun later => Honestly (good later)) first.run other.run world)
    (after : ∀ value later, world.Develops later → good later value →
      Delivers (fun later => Honestly (fine later)) (next value).run (rest value).run later) :
    Delivers (fun later => Honestly (fine later)) (first >>= next).run (other >>= rest).run world :=
  bind here fun result later developed holds => match result with
    | .ok value => after value later developed holds
    | .error _ => pure developed.1 holds

theorem done (typed : world.Typed) {value : α} (holds : good world value) :
    Delivers (fun later => Honestly (good later)) (Pure.pure value : Run α).run
      (Pure.pure value : Run α).run world :=
  pure typed holds

theorem fail (typed : world.Typed) {failure : Failure} (honest : failure.Honest) :
    Delivers (fun later => Honestly (good later)) (throw failure : Run α).run
      (throw failure : Run α).run world :=
  pure typed honest

theorem look {whole : World → Except Failure β → Prop} {next rest : World → Run β}
    (here : Delivers whole (next world).run (rest world).run world) :
    Delivers whole ((get : Run World) >>= next).run ((get : Run World) >>= rest).run world := here

theorem lift {act other : Act α} (here : Delivers good act other world) :
    Delivers (fun later => Honestly (good later)) (ExceptT.lift act : Run α).run
      (ExceptT.lift other : Run α).run world := by
  have spelled : ∀ act : Act α, (ExceptT.lift act : Run α).run =
      act >>= fun value => Pure.pure (.ok value) := fun act => map_eq_pure_bind _ act
  rw [spelled, spelled]
  exact bind here fun value later developed holds => pure developed.1 holds

theorem change {step : World → α × World} (developed : world.Develops (step world).2)
    (holds : good (step world).2 (step world).1) :
    Delivers good (fun world => some (step world)) (fun world => some (step world)) world := by
  intro result later h
  have ended : step world = (result, later) := Option.some.inj h
  rw [ended] at developed holds
  exact ⟨h, developed, holds⟩

theorem step {step : World → World} (developed : world.Develops (step world)) :
    Delivers (fun _ => Honestly fun _ => True) (modify step : Run Unit).run
      (modify step : Run Unit).run world := by
  rintro _ _ ⟨⟩
  exact ⟨rfl, developed, trivial⟩

theorem whenOpen (typed : world.Typed) {scope : ScopeId} {next rest : Unit → Run β}
    (after : (world.scope scope).state = .open →
      Delivers (fun later => Honestly (fine later)) (next ()).run (rest ()).run world) :
    Delivers (fun later => Honestly (fine later)) (Run.ensureOpen scope >>= next).run
      (Run.ensureOpen scope >>= rest).run world := by
  have checks : Delivers (fun later => Honestly fun _ => later = world ∧
        (world.scope scope).state = .open) (Run.ensureOpen scope).run (Run.ensureOpen scope).run
      world := by
    intro result later h
    cases result with
    | ok _ =>
      obtain ⟨rfl, opened⟩ := Run.ensureOpen_eq_some h
      exact ⟨h, typed.develops, rfl, opened⟩
    | error failure =>
      have again := h
      rw [Run.run_ensureOpen] at again
      split at again <;> cases again
      exact ⟨h, typed.develops, Failure.honest_scopeDisposed⟩
  refine andThen checks fun _ later _ passed => ?_
  obtain ⟨rfl, opened⟩ := passed
  exact after opened

theorem whenMine (typed : world.Typed) {engine : EngineId} {scope : ScopeId} {name : String}
    {next rest : Unit → Run β}
    (after : Delivers (fun later => Honestly (fine later)) (next ()).run (rest ()).run world) :
    Delivers (fun later => Honestly (fine later)) (Run.checkEngine engine scope name >>= next).run
      (Run.checkEngine engine scope name >>= rest).run world := by
  have checks : Delivers (fun later => Honestly fun _ => later = world)
      (Run.checkEngine engine scope name).run (Run.checkEngine engine scope name).run world := by
    intro result later h
    have again := h
    rw [Run.run_checkEngine] at again
    split at again <;> cases again
    · exact ⟨h, typed.develops, rfl⟩
    · exact ⟨h, typed.develops, Failure.honest_activation 's' rfl (by decide)⟩
  refine andThen checks fun _ later _ same => ?_
  cases same
  exact after

end Delivers

/-- In typed worlds, the handler answers proper requests as expected, and the other one gives all these
answers, too. -/
def Handler.Serves (handler other : Handler) : Prop :=
  ∀ (request : Request) (world : World), world.Typed → request.Proper world.known →
    Delivers (fun later reply => request.Expects later.known reply ∧
      world.known.learn request reply ≤ later.known) (handler request) (other request) world

namespace Run
variable {handler other : Handler} {world : World}

section Handled
variable (serves : handler.Serves other)
include serves

theorem delivers_exec {good : Known → α → Prop} (lasting : Lasting good) {program : Program α}
    (typed : world.Typed) (well : program.Typed good world.known) :
    Delivers (fun later => good later.known) (program.exec handler) (program.exec other) world := by
  induction program generalizing world with
  | done result =>
    cases well with
    | done fine => exact .pure typed fine
  | ask request next ih =>
    cases well with
    | ask proper rest =>
      refine .bind (serves request world typed proper) fun reply later developed answered => ?_
      obtain ⟨expected, learned⟩ := answered
      exact ih reply developed.1 ((rest reply (expected.anti developed.2)).mono lasting learned)

theorem delivers_body {good : Value → Prop} {program : Body} (typed : world.Typed)
    (makes : program.Makes good world.known) :
    Delivers (fun later => Honestly (Produced.Typed good later.known)) (body handler program).run
      (body other program).run world :=
  delivers_exec serves (Produced.typed_lasting good).honestly typed makes

theorem delivers_cleanUp {tracked : Tracked} (typed : world.Typed)
    (well : tracked.disposable.cleanup.Typed (fun _ _ => True) world.known) :
    Delivers (fun _ _ => True) (cleanUp handler tracked) (cleanUp other tracked) world := by
  have noted : Delivers (fun _ _ => True) (record (.disposed tracked.ticket))
      (record (.disposed tracked.ticket)) world := .change (typed.record trivial) trivial
  refine .bind noted fun _ later developed _ => ?_
  exact delivers_exec serves lasting_true developed.1 (well.mono lasting_true developed.2)

theorem delivers_cleanUpAll (mode : DisposalMode) {items : List Tracked} (typed : world.Typed)
    (well : ∀ tracked ∈ items, tracked.disposable.cleanup.Typed (fun _ _ => True) world.known) :
    Delivers (fun _ _ => True) (cleanUpAll handler mode items) (cleanUpAll other mode items)
      world := by
  induction items generalizing world with
  | nil => exact .pure typed trivial
  | cons tracked rest ih =>
    have others := fun other member => well other (List.mem_cons_of_mem tracked member)
    rw [cleanUpAll, cleanUpAll]
    split
    · exact .bind (ih typed others) fun _ _ developed _ => .pure developed.1 trivial
    · refine .bind (delivers_cleanUp serves typed (well tracked List.mem_cons_self))
        fun _ later developed _ => ?_
      refine .bind (ih developed.1 fun other member =>
        (others other member).mono lasting_true developed.2) fun _ _ further _ => ?_
      exact .pure further.1 trivial

theorem delivers_dispose (scope : ScopeId) (mode : DisposalMode) (typed : world.Typed) :
    Delivers (fun _ => Honestly fun _ => True) (dispose handler scope mode).run
      (dispose other scope mode).run world := by
  refine .look ?_
  split
  · have drained : Delivers (fun later items => ∀ tracked ∈ items,
        (tracked : Tracked).disposable.cleanup.Typed (fun _ _ => True) later.known)
        (drain scope) (drain scope) world := by
      refine .change (typed.drain scope) fun tracked listed => ?_
      exact ((typed.scopes scope).bag tracked (List.mem_reverse.1 listed)).mono lasting_true
        (typed.drain scope).2
    refine .andThen (.lift drained) fun items later developed well => ?_
    refine .andThen (.lift (delivers_cleanUpAll serves mode developed.1 well))
      fun ended last further _ => ?_
    have closed : Delivers (fun _ _ => True) (close scope ended.1) (close scope ended.1) last := by
      refine .change ?_ trivial
      exact (further.1.close scope).trans ((further.1.close scope).1.notify ..)
    refine .andThen (.lift closed) fun _ last further _ => ?_
    split
    · exact .fail further.1 (Failure.honest_of_flatten rfl (by simp) (by simp))
    · exact .done further.1 trivial
  · exact .done typed trivial

theorem delivers_capture {site : Site} (agrees : site.Agrees) (owner : ScopeId)
    {produced : Produced} (typed : world.Typed)
    (well : produced.Typed (·.Fits site.service) world.known) :
    Delivers (fun _ => Honestly (·.Fits site.service)) (capture handler site owner produced).run
      (capture other site owner produced).run world := by
  unfold capture
  cases comes : produced.disposable with
  | none => exact .done typed well.value
  | some disposable =>
    have cleanup := well.cleanup disposable comes
    have fits : produced.value.Fits site.key.service := (Value.fits_congr agrees).2 well.value
    have developed := typed.entrust fits cleanup owner
    have entrusted : Delivers (fun later (taken : Tracked × Bool) =>
        taken.1.disposable.cleanup.Typed (fun _ _ => True) later.known)
        (entrust site owner disposable produced.value)
        (entrust site owner disposable produced.value) world :=
      .change developed (cleanup.mono lasting_true developed.2)
    refine .andThen (.lift entrusted) fun taken later developed cleanup => ?_
    dsimp only
    split
    · exact .done developed.1 well.value
    · have refused : ∀ later : World, later.Typed → Delivers (fun _ => Honestly (·.Fits site.service))
          (throw .scopeDisposed : Run Value).run (throw .scopeDisposed : Run Value).run later :=
        fun later typed => .fail typed Failure.honest_scopeDisposed
      split
      · exact .andThen (.lift (delivers_cleanUp serves developed.1 cleanup))
          fun _ later developed _ => refused later developed.1
      · exact refused later developed.1

section Produced
variable {site : Site} (agrees : site.Agrees) {engine : EngineId} {kind : SiteKind} (owner : ScopeId)
  {produce again : Run Produced} (typed : world.Typed)
  (produces : ∀ later, world.Develops later →
    Delivers (fun last => Honestly (Produced.Typed (·.Fits site.service) last.known)) produce.run
      again.run later)
include agrees typed produces

theorem delivers_making :
    Delivers (fun _ => Honestly (·.Fits site.service)) (making handler site owner produce).run
      (making other site owner again).run world := by
  refine .andThen (.step (typed.reserve site owner)) fun _ later developed _ => ?_
  refine .andThen (produces later developed) fun produced last further well => ?_
  exact delivers_capture serves agrees owner further.1 well

theorem delivers_made :
    Delivers (fun _ => Honestly (·.Fits site.service))
      (made handler engine kind site owner produce).run (made other engine kind site owner again).run
      world := by
  unfold made
  split
  · refine .look ?_
    split
    · exact .fail typed (Failure.honest_of_flatten rfl (by simp) (by simp))
    · refine .andThen (.step (typed.enter engine site owner)) fun _ begun developed _ => ?_
      have makes := delivers_making serves agrees owner developed.1
        fun later further => produces later (developed.trans further)
      have completed : Delivers (fun _ => Honestly (·.Fits site.service))
          (do
            let value ← making handler site owner produce
            modify (·.complete engine site owner value)
            pure value : Run Value).run
          (do
            let value ← making other site owner again
            modify (·.complete engine site owner value)
            pure value : Run Value).run begun := by
        refine .andThen makes fun value later developed fits => ?_
        have fits_key : value.Fits site.key.service := (Value.fits_congr agrees).2 fits
        have recorded : later.Develops (later.record (.completed engine site.key owner value)) :=
          developed.1.record fits_key
        refine .andThen (.step (recorded.trans (recorded.1.keep fits_key owner)))
          fun _ last further _ => ?_
        exact .done further.1 fits
      refine .bind completed fun result later developed holds => ?_
      have left : Delivers (fun _ _ => True) (modify (·.leave engine site.key) : Act Unit)
          (modify (·.leave engine site.key)) later :=
        .change (developed.1.leave engine site.key) trivial
      exact .bind left fun _ last further _ => .pure further.1 holds
  · refine .andThen (delivers_making serves agrees owner typed produces)
      fun value later developed fits => ?_
    refine .andThen (.step (developed.1.keep ((Value.fits_congr agrees).2 fits) owner))
      fun _ last further _ => ?_
    exact .done further.1 fits

theorem delivers_cached :
    Delivers (fun _ => Honestly (·.Fits site.service))
      (cached handler engine kind site owner produce).run
      (cached other engine kind site owner again).run world := by
  refine .look ?_
  split
  · rename_i value found
    exact .done typed ((Value.fits_congr agrees).1 ((typed.scopes owner).cached _ value found))
  · exact delivers_made serves agrees owner typed produces

end Produced

theorem delivers_provide {site : Site} (agrees : site.Agrees) (engine : EngineId) (kind : SiteKind)
    (owner : ScopeId) {produce again : Run Produced} (typed : world.Typed)
    (produces : ∀ later, world.Develops later →
      Delivers (fun last => Honestly (Produced.Typed (·.Fits site.service) last.known)) produce.run
        again.run later) :
    Delivers (fun _ => Honestly (·.Fits site.service))
      (provide handler engine kind site owner produce).run
      (provide other engine kind site owner again).run world := by
  unfold provide
  cases site.location with
  | nowhere => exact delivers_made serves agrees owner typed produces
  | scope => exact delivers_cached serves agrees owner typed produces
  | root => exact .whenOpen typed fun _ => delivers_cached serves agrees owner typed produces

theorem delivers_deliver {site : Site} (agrees : site.Agrees) (kind : SiteKind) (scope : ScopeId)
    {produce again : ScopeId → Run Produced} (typed : world.Typed)
    (produces : ∀ owner later, world.Develops later →
      Delivers (fun last => Honestly (Produced.Typed (·.Fits site.service) last.known))
        (produce owner).run (again owner).run later) :
    Delivers (fun _ => Honestly (·.Fits site.service)) (deliver handler kind site scope produce).run
      (deliver other kind site scope again).run world := by
  refine .look ?_
  generalize world.ownerFor site.location scope = owner
  refine .andThen (delivers_provide serves agrees _ kind owner typed (produces owner))
    fun value later developed fits => ?_
  split
  · have noted : Delivers (fun _ _ => True)
        (record (.obtained (world.scope scope).engine site.key owner value))
        (record (.obtained (world.scope scope).engine site.key owner value)) later :=
      .change (developed.1.record ((Value.fits_congr agrees).2 fits)) trivial
    exact .andThen (.lift noted) fun _ last further _ => .done further.1 fits
  · exact .done developed.1 fits

end Handled

def Answer (values : List Value) (callSites : List CallSite) : Prop :=
  List.Forall₂ (fun value (callSite : CallSite) => value.Fits callSite.site.service) values callSites

theorem Answer.fit {values : List Value} {callSites : List CallSite} {services : List ServiceType}
    (answer : Answer values callSites)
    (bound : List.Forall₂ (fun (child : CallSite) service => (child.site.service == service) = true)
      callSites services) : List.Forall₂ Value.Fits values services := by
  induction answer generalizing services with
  | nil =>
    cases bound
    exact .nil
  | cons fits _ ih =>
    cases bound with
    | cons same bound => exact .cons ((Value.fits_of_beq same).1 fits) (ih bound)

theorem Answer.members {values : List Value} {callSites : List CallSite} {element : ServiceType}
    (answer : Answer values callSites)
    (members : ∀ callSite ∈ callSites, (callSite.site.service == element) = true) :
    ∀ value ∈ values, value.Fits element := by
  induction answer with
  | nil => simp
  | cons fits _ ih =>
    intro value listed
    obtain rfl | listed := List.mem_cons.1 listed
    · exact (Value.fits_of_beq (members _ List.mem_cons_self)).1 fits
    · exact ih (fun callSite member => members callSite (List.mem_cons_of_mem _ member)) value listed

theorem fits_own {service : ServiceType} {own : OwnService} (provides : service.own? = some own)
    {value : Value} (isA : value.typeId = some own.id) : value.Fits service := by
  have named : ∀ {id : TypeId}, OwnService.ofId? id = some own → own.id = id := by
    intro id found
    unfold OwnService.ofId? at found
    have same := List.find?_some found
    exact eq_of_beq same
  have fits : ∀ {type : TypeInfo}, OwnService.ofId? type.id = some own → value.IsA type.id := by
    intro type found
    refine (Value.isA_own own (named found).symm).2 ?_
    rw [isA, named found]
  cases service with
  | plain info => exact fits provides
  | generic closed _ _ => exact fits provides
  | collection element => cases provides

section Graphs
variable {service : ServiceType}

theorem delivers_value {value : Value} (typed : world.Typed) (fits : value.Fits service) :
    Delivers (fun later => Honestly (Produced.Typed (·.Fits service) later.known))
      (pure { value } : Run Produced).run (pure { value } : Run Produced).run world :=
  .done typed ⟨fits, by rintro _ ⟨⟩⟩

/-- A constructor body is given what it declares, and what it makes is exposed as what it is registered
as. -/
theorem delivers_construct (serves : handler.Serves other) {site : Site}
    {activate : Arguments → Body} {cast : Option InterfaceCast} {type : TypeId}
    {services : List ServiceType} {values : List Value} (typed : world.Typed)
    (takes : Takes (fun value => value.typeId = some type) world.known services activate)
    (bare : cast = none → ∀ value : Value, value.typeId = some type → value.Fits site.service)
    (exposed : ∀ means ∈ cast, means.concrete.id = type ∧
      ∀ value, (Value.view means.interface value).Fits site.service)
    (fit : List.Forall₂ Value.Fits values services) :
    Delivers (fun later => Honestly (Produced.Typed (·.Fits site.service) later.known))
      (construct handler site activate cast values).run (construct other site activate cast values).run
      world := by
  have makes : (activate { implementation := site.implementation, values }).Makes
      (fun value => value.typeId = some type) world.known := takes.makes fit
  refine .andThen (delivers_body serves typed makes) fun produced later developed well => ?_
  cases cast with
  | none => exact .done developed.1 ⟨bare rfl produced.value well.value, well.cleanup⟩
  | some means =>
    obtain ⟨rfl, fits⟩ := exposed means rfl
    have applied : means.apply produced.value = .ok (.view means.interface produced.value) := by
      rw [InterfaceCast.apply, Value.as, well.value, if_pos BEq.rfl]
      rfl
    dsimp only
    rw [applied]
    exact .done developed.1 ⟨fits produced.value, well.cleanup⟩

end Graphs

mutual
theorem delivers_interpret (serves : handler.Serves other) : ∀ (callSite : CallSite)
    (scope : ScopeId) (world : World), world.Typed → callSite.Typed world.known →
      Delivers (fun _ => Honestly (·.Fits callSite.site.service))
        (interpret handler callSite scope).run (interpret other callSite scope).run world
  | .constant site value, scope, world, typed, well => by
    cases well with
    | constant agrees fits =>
      rw [interpret, interpret]
      exact delivers_deliver serves agrees _ scope typed
        fun owner later developed => delivers_value developed.1 fits
  | .fallback site value, scope, world, typed, well => by
    cases well with
    | fallback agrees fits =>
      rw [interpret, interpret]
      exact delivers_deliver serves agrees _ scope typed
        fun owner later developed => delivers_value developed.1 fits
  | .factory site factory, scope, world, typed, well => by
    cases well with
    | factory agrees makes =>
      rw [interpret, interpret]
      exact delivers_deliver serves agrees _ scope typed fun owner later developed =>
        delivers_body serves developed.1 ((makes owner).mono developed.2)
  | .construct site activate cast parameters, scope, world, typed, well => by
    cases well with
    | construct agrees takes bound bare exposed children =>
      rw [interpret, interpret]
      refine delivers_deliver serves agrees _ scope typed fun owner later developed => ?_
      refine .andThen (delivers_interpretAll serves parameters owner later developed.1
        fun child member => (children child member).mono developed.2)
        fun values last further answer => ?_
      exact delivers_construct serves further.1 (takes.mono (Known.le_trans developed.2 further.2))
        bare exposed (answer.fit bound)
  | .collect site items, scope, world, typed, well => by
    cases well with
    | collect agrees collection members children =>
      rw [interpret, interpret]
      refine delivers_deliver serves agrees _ scope typed fun owner later developed => ?_
      refine .andThen (delivers_interpretAll serves items owner later developed.1
        fun child member => (children child member).mono developed.2)
        fun values last further answer => ?_
      refine delivers_value further.1 ?_
      rw [collection]
      exact ⟨values, rfl, answer.members members⟩
  | .own site service, scope, world, typed, well => by
    cases well with
    | own agrees provides =>
      rw [interpret, interpret]
      refine delivers_deliver serves agrees _ scope typed fun owner later developed => .look ?_
      cases service <;> exact delivers_value developed.1 (fits_own provides rfl)
theorem delivers_interpretAll (serves : handler.Serves other) : ∀ (callSites : List CallSite)
    (scope : ScopeId) (world : World), world.Typed →
      (∀ callSite ∈ callSites, callSite.Typed world.known) →
        Delivers (fun _ => Honestly (Answer · callSites)) (interpretAll handler callSites scope).run
          (interpretAll other callSites scope).run world
  | [], _, world, typed, _ => by
    rw [interpretAll, interpretAll]
    exact .done typed .nil
  | callSite :: rest, scope, world, typed, well => by
    rw [interpretAll, interpretAll]
    refine .andThen (delivers_interpret serves callSite scope world typed
      (well callSite List.mem_cons_self)) fun value later developed fits => ?_
    refine .andThen (delivers_interpretAll serves rest scope later developed.1 fun child member =>
      (well child (List.mem_cons_of_mem _ member)).mono developed.2) fun values last further answer => ?_
    exact .done further.1 (.cons fits answer)
end

end Run
end ServiceContainer
