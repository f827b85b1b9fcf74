import ServiceContainer.Proofs.Execution.Consulting
import ServiceContainer.Proofs.World

/-! Two runs in lockstep, of which one is in a disguised world: one whose engines look different,
and where other notices were sent. Main statement: if the engines are asked in lockstep, so is every
request answered, whatever user code it runs. -/
namespace ServiceContainer

def Event.isNotice : Event → Bool
  | .notified _ _ => true
  | _ => false

/-- Another look at engines, at what happened, and at the metrics. -/
structure Look where
  engines : List Engine → List Engine
  journal : List Event → List Event
  metrics : List Metrics → List Metrics

def World.under (world : World) (look : Look) : World :=
  { world with
    engines := look.engines world.engines
    journal := look.journal world.journal
    metrics := look.metrics world.metrics }

/-- A look that does not hide graphs, nor what happens apart from notices; taken at worlds whose
engines are sound in some sense. -/
structure Disguise extends Look where
  sound : World → Prop
  sound_of_engines : ∀ {world later : World}, later.engines = world.engines →
    sound world → sound later
  records : ∀ {event : Event}, event.isNotice = false →
    ∀ events, journal (event :: events) = event :: journal events
  notifies : ∀ (id : EngineId) (world : World) (notice : Notice),
    World.notify id (world.under toLook) notice = (World.notify id world notice).under toLook
  graphs : ∀ (world : World) (id : EngineId) (realization : Nat),
    (world.under toLook).graph? id realization = world.graph? id realization

namespace Disguise

structure Spares (disguise : Disguise) (change : World → World) : Prop where
  same : ∀ world : World,
    change (world.under disguise.toLook) = (change world).under disguise.toLook
  engines : ∀ world : World, (change world).engines = world.engines

namespace Spares
variable {disguise : Disguise}

theorem comp {first next : World → World} (here : disguise.Spares first)
    (after : disguise.Spares next) : disguise.Spares fun world => next (first world) where
  same world := by rw [here.same, after.same]
  engines world := by rw [after.engines, here.engines]

theorem under_record {event : Event} (quiet : event.isNotice = false) (world : World) :
    (world.record event).under disguise.toLook = (world.under disguise.toLook).record event := by
  simp only [World.record, World.under, disguise.records quiet]

theorem record {event : Event} (quiet : event.isNotice = false) :
    disguise.Spares (·.record event) where
  same world := (under_record quiet world).symm
  engines _ := rfl

theorem notify (id : EngineId) (notice : Notice) :
    disguise.Spares fun world => World.notify id world notice where
  same world := disguise.notifies id world notice
  engines world := world.engines_notify id notice

theorem reserve (site : Site) (owner : ScopeId) : disguise.Spares (·.reserve site owner) where
  same world := by
    simp only [World.reserve]
    split <;> rfl
  engines world := by
    simp only [World.reserve]
    split <;> rfl

theorem keep (site : Site) (owner : ScopeId) (value : Value) :
    disguise.Spares (·.keep site owner value) where
  same world := by
    simp only [World.keep]
    split <;> rfl
  engines world := by
    simp only [World.keep]
    split <;> rfl

theorem complete (engine : EngineId) (site : Site) (owner : ScopeId) (value : Value) :
    disguise.Spares (·.complete engine site owner value) :=
  (record rfl).comp (keep site owner value)

theorem enter (engine : EngineId) (site : Site) (owner : ScopeId) :
    disguise.Spares (·.enter engine site owner) where
  same world := by
    rw [World.enter, World.enter, under_record rfl]
    rfl
  engines _ := rfl

theorem leave (engine : EngineId) (key : CacheKey) : disguise.Spares (·.leave engine key) where
  same world := by
    rw [World.leave, World.leave, under_record rfl]
    rfl
  engines _ := rfl

theorem entrust (site : Site) (owner : ScopeId) (disposable : Disposable) (value : Value) :
    disguise.Spares (·.entrust site owner disposable value) where
  same world := by
    have state : ((world.under disguise.toLook).scope owner).state =
        (world.scope owner).state := rfl
    simp only [World.entrust, state]
    split
    · rw [under_record rfl]
      rfl
    · rw [under_record rfl]
      rfl
  engines world := by
    simp only [World.entrust]
    split <;> rfl

theorem drain (scope : ScopeId) : disguise.Spares (·.drain scope) where
  same world := by
    rw [World.drain, World.drain, under_record rfl]
    rfl
  engines _ := rfl

theorem close (scope : ScopeId) : disguise.Spares (·.close scope) where
  same world := by
    rw [World.close, World.close, under_record rfl]
    rfl
  engines _ := rfl

end Spares
end Disguise

variable {disguise : Disguise} {halts : Prop}

/-- From this world, the other act does in disguise what the act does, unless the act halts where it
may; and soundness is kept. -/
def MirrorsIn (disguise : Disguise) (halts : Prop) (world : World) (act other : Act α) : Prop :=
  (other (world.under disguise.toLook) =
      (act world).map (fun ended => (ended.1, ended.2.under disguise.toLook)) ∨
    halts ∧ act world = none) ∧
  ∀ ended, act world = some ended → disguise.sound ended.2

def Mirrors (disguise : Disguise) (halts : Prop) (act other : Act α) : Prop :=
  ∀ world, disguise.sound world → MirrorsIn disguise halts world act other

theorem MirrorsIn.bind {world : World} {first other : Act α} {next rest : α → Act β}
    (here : MirrorsIn disguise halts world first other)
    (after : ∀ value, Mirrors disguise halts (next value) (rest value)) :
    MirrorsIn disguise halts world (first >>= next) (other >>= rest) := by
  change ((other (world.under disguise.toLook)).bind (fun ended => rest ended.1 ended.2) =
        ((first world).bind fun ended => next ended.1 ended.2).map _ ∨
      halts ∧ ((first world).bind fun ended => next ended.1 ended.2) = none) ∧
    ∀ ended, ((first world).bind fun ended => next ended.1 ended.2) = some ended → _
  obtain ⟨same | ⟨may, none⟩, kept⟩ := here
  · rw [same]
    cases ran : first world with
    | none => exact ⟨.inl rfl, by rintro _ ⟨⟩⟩
    | some ended => exact after ended.1 ended.2 (kept ended ran)
  · rw [none]
    exact ⟨.inr ⟨may, rfl⟩, by rintro _ ⟨⟩⟩

theorem MirrorsIn.andThen {world : World} {first other : Run α} {next rest : α → Run β}
    (here : MirrorsIn disguise halts world first.run other.run)
    (after : ∀ value, Mirrors disguise halts (next value).run (rest value).run) :
    MirrorsIn disguise halts world (first >>= next).run (other >>= rest).run := by
  refine .bind here fun result => ?_
  cases result with
  | ok value => exact after value
  | error failure =>
    refine fun world sound => ⟨.inl rfl, ?_⟩
    rintro _ ⟨⟩
    exact sound

theorem MirrorsIn.look {world : World} {next rest : World → Run α}
    (here : MirrorsIn disguise halts world (next world).run
      (rest (world.under disguise.toLook)).run) :
    MirrorsIn disguise halts world ((get : Run World) >>= next).run
      ((get : Run World) >>= rest).run := here

namespace Mirrors

theorem pure (value : α) :
    Mirrors disguise halts (Pure.pure value : Act α) (Pure.pure value) := by
  refine fun world sound => ⟨.inl rfl, ?_⟩
  rintro _ ⟨⟩
  exact sound

theorem bind {first other : Act α} {next rest : α → Act β}
    (here : Mirrors disguise halts first other)
    (after : ∀ value, Mirrors disguise halts (next value) (rest value)) :
    Mirrors disguise halts (first >>= next) (other >>= rest) :=
  fun world sound => (here world sound).bind after

theorem step {change : World → α × World}
    (same : ∀ world : World, change (world.under disguise.toLook) =
      ((change world).1, (change world).2.under disguise.toLook))
    (engines : ∀ world : World, (change world).2.engines = world.engines) :
    Mirrors disguise halts (fun world => some (change world)) fun world => some (change world) := by
  refine fun world sound => ⟨.inl (congrArg some (same world)), ?_⟩
  rintro _ ⟨⟩
  exact disguise.sound_of_engines (engines world) sound

theorem change {change : World → World} (spares : disguise.Spares change) :
    Mirrors disguise halts (modify change : Act Unit) (modify change) :=
  step (fun world => congrArg (Prod.mk ()) (spares.same world)) spares.engines

theorem lift {act other : Act α} (here : Mirrors disguise halts act other) :
    Mirrors disguise halts (ExceptT.lift act : Run α).run (ExceptT.lift other : Run α).run := by
  have spelled : ∀ act : Act α, (ExceptT.lift act : Run α).run =
      act >>= fun value => Pure.pure (.ok value) := fun act => map_eq_pure_bind _ act
  rw [spelled, spelled]
  exact bind here fun _ => pure _

theorem andThen {first other : Run α} {next rest : α → Run β}
    (here : Mirrors disguise halts first.run other.run)
    (after : ∀ value, Mirrors disguise halts (next value).run (rest value).run) :
    Mirrors disguise halts (first >>= next).run (other >>= rest).run :=
  fun world sound => (here world sound).andThen after

theorem done (value : α) :
    Mirrors disguise halts (Pure.pure value : Run α).run (Pure.pure value : Run α).run := pure _

theorem fail (failure : Failure) :
    Mirrors disguise halts (throw failure : Run α).run (throw failure : Run α).run := pure _

theorem settle (result : Except Failure α) :
    Mirrors disguise halts (ExceptT.mk (Pure.pure result) : Run α).run
      (ExceptT.mk (Pure.pure result) : Run α).run := pure _

theorem read {next rest : World → Act α}
    (same : ∀ world : World, rest (world.under disguise.toLook) = rest world)
    (here : ∀ world, Mirrors disguise halts (next world) (rest world)) :
    Mirrors disguise halts (get >>= next) (get >>= rest) := by
  intro world sound
  have after := here world world sound
  rw [← same] at after
  exact after

theorem look {next rest : World → Run α}
    (same : ∀ world : World, rest (world.under disguise.toLook) = rest world)
    (here : ∀ world, Mirrors disguise halts (next world).run (rest world).run) :
    Mirrors disguise halts ((get : Run World) >>= next).run ((get : Run World) >>= rest).run :=
  read (fun world => congrArg ExceptT.run (same world)) here

theorem modify {change : World → World} (spares : disguise.Spares change) :
    Mirrors disguise halts (modify change : Run Unit).run (modify change : Run Unit).run :=
  .lift (.change spares)

end Mirrors

def Handler.Mirrors (disguise : Disguise) (halts : Prop) (handler other : Handler) : Prop :=
  ∀ request, ServiceContainer.Mirrors disguise halts (handler request) (other request)

namespace Run
variable {handler other : Handler}

theorem mirrors_ensureOpen (scope : ScopeId) :
    Mirrors disguise halts (ensureOpen scope).run (ensureOpen scope).run := by
  refine .look (fun _ => rfl) fun world => ?_
  split
  · exact .done _
  · exact .fail _

theorem mirrors_ensuring {run again : Run α} {last : Act Unit}
    (same : Mirrors disguise halts run.run again.run) (ending : Mirrors disguise halts last last) :
    Mirrors disguise halts (ensuring run last).run (ensuring again last).run :=
  .bind same fun _ => .bind ending fun _ => .pure _

theorem mirrors_entrust (site : Site) (owner : ScopeId) (disposable : Disposable) (value : Value) :
    Mirrors disguise halts (entrust site owner disposable value)
      (entrust site owner disposable value) := by
  have spares := @Disguise.Spares.entrust disguise site owner disposable value
  exact .step (fun world => congrArg (Prod.mk _) (spares.same world)) spares.engines

theorem mirrors_close (scope : ScopeId) (disposed : Nat) :
    Mirrors disguise halts (close scope disposed) (close scope disposed) := by
  refine .read (fun _ => rfl) fun world => ?_
  exact .bind (.change (.close scope)) fun _ => .change (.notify _ _)

section Handled
variable (answers : handler.Mirrors disguise halts other)
include answers

theorem mirrors_exec (program : Program α) :
    Mirrors disguise halts (program.exec handler) (program.exec other) := by
  induction program with
  | done result => exact .pure _
  | ask request next ih => exact .bind (answers request) ih

theorem mirrors_body (program : Program (Except Failure α)) :
    Mirrors disguise halts (body handler program).run (body other program).run :=
  mirrors_exec answers program

theorem mirrors_cleanUp (tracked : Tracked) :
    Mirrors disguise halts (cleanUp handler tracked) (cleanUp other tracked) :=
  .bind (.change (.record rfl)) fun _ => mirrors_exec answers _

theorem mirrors_cleanUpAll (mode : DisposalMode) (items : List Tracked) :
    Mirrors disguise halts (cleanUpAll handler mode items) (cleanUpAll other mode items) := by
  induction items with
  | nil => exact .pure _
  | cons tracked rest ih =>
    rw [cleanUpAll, cleanUpAll]
    split
    · exact .bind ih fun _ => .pure _
    · exact .bind (mirrors_cleanUp answers tracked) fun _ => .bind ih fun _ => .pure _

theorem mirrors_dispose (scope : ScopeId) (mode : DisposalMode) :
    Mirrors disguise halts (dispose handler scope mode).run (dispose other scope mode).run := by
  have drains := @Disguise.Spares.drain disguise scope
  have drained : Mirrors disguise halts (drain scope) (drain scope) :=
    .step (fun world => congrArg (Prod.mk _) (drains.same world)) drains.engines
  refine .look (fun _ => rfl) fun world => ?_
  split
  · refine .andThen (.lift drained) fun items => ?_
    refine .andThen (.lift (mirrors_cleanUpAll answers mode items)) fun ⟨count, skipped⟩ => ?_
    refine .andThen (.lift (mirrors_close scope count)) fun _ => ?_
    cases skipped with
    | some service => exact .fail _
    | none => exact .done _
  · exact .done _

theorem mirrors_capture (site : Site) (owner : ScopeId) (produced : Produced) :
    Mirrors disguise halts (capture handler site owner produced).run
      (capture other site owner produced).run := by
  unfold capture
  cases produced.disposable with
  | none => exact .done _
  | some disposable =>
    refine .andThen (.lift (mirrors_entrust _ _ _ _)) fun ⟨tracked, accepted⟩ => ?_
    cases accepted with
    | true => exact .done _
    | false =>
      simp only [Bool.false_eq_true, if_false]
      split
      · exact .andThen (.lift (mirrors_cleanUp answers tracked)) fun _ => .fail _
      · exact .fail _

omit answers in
theorem mirrors_guarded (engine : EngineId) (site : Site) (owner : ScopeId)
    {construction again : Run Value} (same : Mirrors disguise halts construction.run again.run) :
    Mirrors disguise halts (guarded engine site owner construction).run
      (guarded engine site owner again).run := by
  refine .look (fun _ => rfl) fun world => ?_
  cases cycle? world.stack engine site.key with
  | some path => exact .fail _
  | none =>
    exact .andThen (.modify (.enter engine site owner)) fun _ =>
      mirrors_ensuring same (.change (.leave engine site.key))

section Produced
variable {kind : SiteKind} {site : Site} {scope owner : ScopeId} {engine : EngineId}

theorem mirrors_making (site : Site) (owner : ScopeId) {produce again : Run Produced}
    (same : Mirrors disguise halts produce.run again.run) :
    Mirrors disguise halts (making handler site owner produce).run
      (making other site owner again).run := by
  exact .andThen (.modify (.reserve site owner)) fun _ => .andThen same fun _ =>
    mirrors_capture answers _ _ _

theorem mirrors_made {produce again : Run Produced}
    (same : Mirrors disguise halts produce.run again.run) :
    Mirrors disguise halts (made handler engine kind site owner produce).run
      (made other engine kind site owner again).run := by
  have making := mirrors_making answers site owner same
  unfold made
  split
  · refine mirrors_guarded engine site owner (.andThen making fun value => ?_)
    exact .andThen (.modify (.complete engine site owner value))
      fun _ => .done _
  · refine .andThen making fun value => ?_
    exact .andThen (.modify (.keep site owner value)) fun _ => .done _

theorem mirrors_cached {produce again : Run Produced}
    (same : Mirrors disguise halts produce.run again.run) :
    Mirrors disguise halts (cached handler engine kind site owner produce).run
      (cached other engine kind site owner again).run := by
  refine .look (fun _ => rfl) fun world => ?_
  split
  · exact .done _
  · exact mirrors_made answers same

theorem mirrors_deliver {produce again : ScopeId → Run Produced}
    (same : ∀ owner, Mirrors disguise halts (produce owner).run (again owner).run) :
    Mirrors disguise halts (deliver handler kind site scope produce).run
      (deliver other kind site scope again).run := by
  refine .look (fun _ => rfl) fun world => .andThen ?_ fun value => ?_
  · unfold provide
    cases site.location with
    | nowhere => exact mirrors_made answers (same _)
    | scope => exact mirrors_cached answers (same _)
    | root => exact .andThen (mirrors_ensureOpen _) fun _ => mirrors_cached answers (same _)
  · split
    · exact .andThen (.lift (.change (.record rfl))) fun _ => .done _
    · exact .done _

end Produced

theorem mirrors_construct (site : Site) (activate : Arguments → Body)
    (cast : Option InterfaceCast) (values : List Value) :
    Mirrors disguise halts (construct handler site activate cast values).run
      (construct other site activate cast values).run := by
  refine .andThen (mirrors_body answers _) fun produced => ?_
  cases cast with
  | none => exact .done _
  | some cast => exact .andThen (.settle _) fun _ => .done _

omit answers in
theorem mirrors_ownService (service : OwnService) (scope : ScopeId) :
    Mirrors disguise halts (ownService service scope).run (ownService service scope).run := by
  refine .look (fun _ => rfl) fun world => ?_
  cases service <;> exact .done _

end Handled

mutual
theorem mirrors_interpret (answers : handler.Mirrors disguise halts other) :
    ∀ (callSite : CallSite) (scope : ScopeId),
      Mirrors disguise halts (interpret handler callSite scope).run
        (interpret other callSite scope).run
  | .constant site value, scope | .fallback site value, scope => by
    rw [interpret, interpret]
    exact mirrors_deliver answers fun _ => .done _
  | .factory site factory, scope => by
    rw [interpret, interpret]
    exact mirrors_deliver answers fun owner => mirrors_body answers (factory owner)
  | .construct site activate cast parameters, scope => by
    rw [interpret, interpret]
    exact mirrors_deliver answers fun owner =>
      .andThen (mirrors_interpretAll answers parameters owner) fun values =>
        mirrors_construct answers site activate cast values
  | .collect site items, scope => by
    rw [interpret, interpret]
    exact mirrors_deliver answers fun owner =>
      .andThen (mirrors_interpretAll answers items owner) fun _ => .done _
  | .own site service, scope => by
    rw [interpret, interpret]
    exact mirrors_deliver answers fun owner => mirrors_ownService service owner
theorem mirrors_interpretAll (answers : handler.Mirrors disguise halts other) :
    ∀ (callSites : List CallSite) (scope : ScopeId),
      Mirrors disguise halts (interpretAll handler callSites scope).run
        (interpretAll other callSites scope).run
  | [], _ => by
    rw [interpretAll, interpretAll]
    exact .done _
  | callSite :: rest, scope => by
    rw [interpretAll, interpretAll]
    exact .andThen (mirrors_interpret answers callSite scope) fun _ =>
      .andThen (mirrors_interpretAll answers rest scope) fun _ => .done _
end

mutual
theorem mirrors_execute (answers : handler.Mirrors disguise halts other) :
    ∀ (code : Code) (scope : ScopeId),
      Mirrors disguise halts (execute handler code scope).run (execute other code scope).run
  | .constant value, scope => by
    rw [execute, execute]
    exact .done _
  | .factory site factory, scope => by
    rw [execute, execute]
    exact mirrors_deliver answers fun owner => mirrors_body answers (factory owner)
  | .construct site activate cast parameters, scope => by
    rw [execute, execute]
    exact mirrors_deliver answers fun owner =>
      .andThen (mirrors_executeAll answers parameters owner) fun values =>
        mirrors_construct answers site activate cast values
  | .collect site items, scope => by
    rw [execute, execute]
    exact mirrors_deliver answers fun owner =>
      .andThen (mirrors_executeAll answers items owner) fun _ => .done _
  | .own site service, scope => by
    rw [execute, execute]
    exact mirrors_deliver answers fun owner => mirrors_ownService service owner
theorem mirrors_executeAll (answers : handler.Mirrors disguise halts other) :
    ∀ (codes : List Code) (scope : ScopeId),
      Mirrors disguise halts (executeAll handler codes scope).run (executeAll other codes scope).run
  | [], _ => by
    rw [executeAll, executeAll]
    exact .done _
  | code :: rest, scope => by
    rw [executeAll, executeAll]
    exact .andThen (mirrors_execute answers code scope) fun _ =>
      .andThen (mirrors_executeAll answers rest scope) fun _ => .done _
end

theorem mirrors_follow (answers : handler.Mirrors disguise halts other) (scope : ScopeId)
    (plan : Plan) :
    Mirrors disguise halts (follow handler scope plan).run (follow other scope plan).run := by
  cases plan with
  | interpret callSite => exact mirrors_interpret answers callSite scope
  | execute code => exact mirrors_execute answers code scope

theorem mirrors_observed (engine : EngineId) (service : ServiceType) {run again : Run Value}
    (same : Mirrors disguise halts run.run again.run) :
    Mirrors disguise halts (observed engine service run).run
      (observed engine service again).run := by
  refine .bind (.change (.notify _ _)) fun _ => .bind same fun result => ?_
  cases result with
  | ok value => exact .bind (.change (.notify _ _)) fun _ => .pure _
  | error failure => exact .bind (.change (.notify _ _)) fun _ => .pure _

/-- Engines are asked in lockstep, and what they have realized is executed in lockstep. -/
structure Paced (disguise : Disguise) (halts : Prop) (consult : Consultation)
    (handler other : Handler) : Prop where
  realize : ∀ (engine : EngineId) (service : ServiceType),
    Mirrors disguise halts (consult _ engine (Engine.realize service)).run
      (onEngine engine (Engine.realize service)).run
  prepare : ∀ (engine : EngineId) (implementation : TypeInfo) (supplied : List ServiceType),
    Mirrors disguise halts (consult _ engine (Engine.prepare implementation supplied)).run
      (onEngine engine (Engine.prepare implementation supplied)).run
  invoke : ∀ (engine : EngineId) (realization : Nat) (scope : ScopeId),
    Mirrors disguise halts (invokeBy consult handler engine realization scope).run
      (invoke other engine realization scope).run

section Requests
variable {consult : Consultation} (paced : Paced disguise halts consult handler other)
include paced

theorem mirrors_resolve (scope : ScopeId) (service : ServiceType) :
    Mirrors disguise halts (resolveBy consult handler scope service).run
      (resolve other scope service).run := by
  refine .andThen (mirrors_ensureOpen scope) fun _ => .look (fun _ => rfl) fun world => ?_
  refine .andThen (paced.realize _ service) fun found => ?_
  cases found with
  | none => exact .done _
  | some realization =>
    have mapped := Mirrors.andThen (paced.invoke (world.scope scope).engine realization scope)
      fun value => .done (some value)
    rwa [bind_pure_comp, bind_pure_comp] at mapped

theorem mirrors_activator (engine : EngineId) (service : ServiceType) :
    Mirrors disguise halts (activatorBy consult engine service).run
      (activator engine service).run :=
  .andThen (paced.realize engine service) fun _ => .done _

omit paced in
theorem mirrors_checkEngine (engine : EngineId) (scope : ScopeId) (name : String) :
    Mirrors disguise halts (checkEngine engine scope name).run
      (checkEngine engine scope name).run := by
  refine .look (fun _ => rfl) fun world => ?_
  split
  · exact .done _
  · exact .fail _

theorem mirrors_activate (activator : Activator) (scope : ScopeId) :
    Mirrors disguise halts (activateBy consult handler activator scope).run
      (activate other activator scope).run := by
  refine .look (fun world => ?_) fun world => ?_
  · rw [activatorName, disguise.graphs]
    rfl
  · exact .andThen (mirrors_checkEngine _ _ _) fun _ => paced.invoke _ _ _

theorem mirrors_prepare (engine : EngineId) (implementation : TypeInfo)
    (supplied : List ServiceType) :
    Mirrors disguise halts (prepareBy consult engine implementation supplied).run
      (prepare engine implementation supplied).run :=
  .andThen (paced.prepare engine implementation supplied) fun _ =>
    .lift (.step (fun _ => rfl) fun _ => rfl)

theorem mirrors_gather (engine : EngineId) (scope : ScopeId) (arguments : List Argument)
    (sources : List ArgumentSource) :
    Mirrors disguise halts (gatherBy consult handler engine scope arguments sources).run
      (gather other engine scope arguments sources).run := by
  induction sources with
  | nil => exact .done _
  | cons source rest ih =>
    refine .andThen ?_ fun _ => .andThen ih fun _ => .done _
    cases source with
    | supplied position =>
      rw [drawBy, draw]
      cases arguments[position]? with
      | none => exact .fail _
      | some argument => exact .done _
    | service realization => exact paced.invoke engine realization scope
    | fallback value => exact .done _

theorem mirrors_create (answers : handler.Mirrors disguise halts other) (factory : FactoryId)
    (scope : ScopeId) (arguments : List Argument) :
    Mirrors disguise halts (createBy consult handler factory scope arguments).run
      (create other factory scope arguments).run := by
  refine .look (fun _ => rfl) fun world => ?_
  cases world.factories[factory]? with
  | none => exact .fail _
  | some factory =>
    refine .andThen (mirrors_checkEngine _ _ _) fun _ => ?_
    refine .andThen (mirrors_ensureOpen scope) fun _ => ?_
    dsimp only
    split
    · refine .andThen (mirrors_gather paced _ scope arguments _) fun values => ?_
      exact .andThen (mirrors_body answers _) fun _ => .settle _
    · exact .fail _

end Requests
end Run

namespace Container
variable {consult : Consultation}

theorem mirrors_respond {handler other : Handler} (answers : handler.Mirrors disguise halts other)
    (paced : Run.Paced disguise halts consult handler other) :
    (respondBy consult handler).Mirrors disguise halts (respond other) := by
  intro request
  cases request with
  | resolve scope service => exact Run.mirrors_resolve paced scope service
  | createScope scope =>
    refine .step (fun world => ?_) fun world => ?_
    · have same : (world.under disguise.toLook).scopes = world.scopes := rfl
      rw [same]
      cases world.scopes[scope]? <;> rfl
    · cases world.scopes[scope]? <;> rfl
  | dispose scope mode => exact Run.mirrors_dispose answers scope mode
  | inspect scope => exact .read (fun _ => rfl) fun _ => .pure _
  | activator engine service => exact Run.mirrors_activator paced engine service
  | activate activator scope => exact Run.mirrors_activate paced activator scope
  | prepare engine implementation supplied =>
    exact Run.mirrors_prepare paced engine implementation supplied
  | create factory scope arguments => exact Run.mirrors_create paced answers factory scope arguments
  | serial | tally _ => exact .step (fun _ => rfl) fun _ => rfl
  | say line => exact .change (.record rfl)

theorem mirrors_perform
    (paces : ∀ fuel, (performBy consult fuel).Mirrors disguise halts (perform fuel) →
      Run.Paced disguise halts consult (performBy consult fuel) (perform fuel)) (fuel : Nat) :
    (performBy consult fuel).Mirrors disguise halts (perform fuel) := by
  induction fuel with
  | zero =>
    refine fun _ _ _ => ⟨.inl rfl, ?_⟩
    rintro _ ⟨⟩
  | succ fuel ih => exact mirrors_respond ih (paces fuel ih)

end Container
end ServiceContainer
