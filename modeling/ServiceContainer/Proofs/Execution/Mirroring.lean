import ServiceContainer.Proofs.Execution.Lockstep
import ServiceContainer.Proofs.Veil

/-! Runs behind a veil. Main statement: a run in front of the veil and a run behind it keep in
lockstep, if no check is hidden; and otherwise, until a hidden check fails. -/
namespace ServiceContainer

theorem Veil.hears_of_quiet (veil : Veil) {event : Event} (quiet : event.isNotice = false) :
    veil.hears event = true := by
  cases event with
  | notified engine notice => cases quiet
  | _ => rfl

def Veil.disguise (veil : Veil) : Disguise where
  engines engines := engines.modify veil.engine (·.behind veil)
  journal := List.filter veil.hears
  metrics := veil.metrics
  sound _ := True
  sound_of_engines _ _ := trivial
  records quiet _ := List.filter_cons_of_pos (veil.hears_of_quiet quiet)
  notifies id world notice := (world.behind_notify id notice).symm
  graphs world id realization := world.graph?_behind id realization

variable {veil : Veil} {halts : Prop}

theorem Veil.mirrorsIn_iff {world : World} {act other : Act α} :
    MirrorsIn veil.disguise halts world act other ↔
      other (world.behind veil) = (act world).map (fun ended => (ended.1, ended.2.behind veil)) ∨
        halts ∧ act world = none :=
  and_iff_left fun _ _ => trivial

theorem Veil.mirrors_iff {act other : Act α} :
    Mirrors veil.disguise halts act other ↔ ∀ world : World,
      other (world.behind veil) = (act world).map (fun ended => (ended.1, ended.2.behind veil)) ∨
        halts ∧ act world = none :=
  ⟨fun mirrors world => mirrorsIn_iff.1 (mirrors world trivial),
    fun mirrors world _ => mirrorsIn_iff.2 (mirrors world)⟩

/-- Has an engine do something, but gets stuck if a lifetime check of the watched engine fails. -/
def Run.vigilant (watched : EngineId) : Consultation := fun _ engine action =>
  ExceptT.mk do
    let result ← (onEngine engine action).run
    if engine = watched ∧ refused result = true then fun _ => none else pure result

/-- Whatever an engine does, unless a check that the veil hides refuses it, the consultation is
followed by the usual one behind the veil. -/
def Consultation.Mirrored (veil : Veil) (halts : Prop) (consult : Consultation) : Prop :=
  ∀ ⦃α : Type⦄ (engine : EngineId) ⦃action : EngineAction α⦄, Engine.Spared veil action →
    Mirrors veil.disguise halts (consult α engine action).run (Run.onEngine engine action).run

namespace Run

theorem behind_onEngine {action : EngineAction α} (spared : Engine.Spared veil action)
    (id : EngineId) (world : World) :
    (onEngine id action).run (world.behind veil) =
        ((onEngine id action).run world).map (fun ended => (ended.1, ended.2.behind veil)) ∨
      veil.lax = true ∧ id = veil.engine ∧
        refused (action.run (world.engine id)).1 = true := by
  rw [run_onEngine, run_onEngine, World.engine_behind, Option.map_some, World.behind_withEngine]
  by_cases mine : id = veil.engine
  · rw [if_pos mine, if_pos mine]
    rcases spared (world.engine id) with same | ⟨lax, broken⟩
    · exact .inl (by rw [same])
    · exact .inr ⟨lax, mine, broken⟩
  · rw [if_neg mine, if_neg mine]
    exact .inl rfl

theorem mirrored_onEngine (strict : veil.lax = false) (halts : Prop) :
    Consultation.Mirrored veil halts @onEngine := by
  refine fun α engine action spared => Veil.mirrors_iff.2 fun world => .inl ?_
  rcases behind_onEngine spared engine world with same | ⟨lax, _⟩
  · exact same
  · rw [strict] at lax
    cases lax

/-- A consultation that gets stuck where a hidden check fails, is followed elsewhere. -/
theorem mirrored_vigilant (veil : Veil) :
    Consultation.Mirrored veil True (vigilant veil.engine) := by
  refine fun α id action spared => Veil.mirrors_iff.2 fun world => ?_
  have asked : (vigilant veil.engine α id action).run world =
      if id = veil.engine ∧ refused (action.run (world.engine id)).1 = true then none
      else (onEngine id action).run world := by
    change (if id = veil.engine ∧ refused (action.run (world.engine id)).1 = true
      then fun _ => none else pure (action.run (world.engine id)).1 : Act _)
        (world.withEngine id (action.run (world.engine id)).2) = _
    split <;> rfl
  rw [asked]
  split
  next => exact .inr ⟨trivial, rfl⟩
  next unbroken => exact .inl ((behind_onEngine spared id world).resolve_right (unbroken ·.2))

variable {handler other : Handler} {consult : Consultation}

/-- What hidden observers are told makes no difference behind the veil. -/
theorem mirrors_told (deaf : veil.deaf = true) (notice : Notice) :
    Mirrors veil.disguise halts (notify veil.engine notice) (pure ()) := by
  refine Veil.mirrors_iff.2 fun world => .inl ?_
  change some ((), world.behind veil) =
    some ((), (World.notify veil.engine world notice).behind veil)
  rw [World.behind_notify, World.notify_hidden deaf]

theorem mirrors_unobserved (deaf : veil.deaf = true) (service : ServiceType) {run again : Run Value}
    (same : Mirrors veil.disguise halts run.run again.run) :
    Mirrors veil.disguise halts (observed veil.engine service run).run again.run := by
  have spelled : again.run = ((pure () : Act Unit) >>= fun _ => again.run >>= fun result =>
      (pure () : Act Unit) >>= fun _ => pure result) := by simp
  rw [spelled]
  refine .bind (mirrors_told deaf _) fun _ => .bind same fun result => ?_
  cases result with
  | ok value => exact .bind (mirrors_told deaf _) fun _ => .pure _
  | error failure => exact .bind (mirrors_told deaf _) fun _ => .pure _

section Requests
variable (answers : handler.Mirrors veil.disguise halts other)
include answers

theorem mirrors_execution (engine : EngineId) (realization : Nat) (scope : ScopeId) :
    Mirrors veil.disguise halts (execution handler engine realization scope).run
      (execution other engine realization scope).run := by
  have planned : Stateful.Commutes (fun engine : Engine => engine.behind veil)
      (liftM (Engine.nextPlan realization) : EngineAction (Option Plan)) := fun engine =>
    congrArg (fun ended : Option Plan × Engine => (Except.ok ended.1, ended.2))
      (Engine.behind_nextPlan realization engine)
  refine .andThen (Veil.mirrors_iff.2 fun world => .inl ?_) fun chosen => ?_
  · rcases behind_onEngine (Engine.spared_of_commutes planned) engine world with
      same | ⟨_, _, absurd⟩
    · exact same
    · cases absurd
  · cases chosen with
    | none => exact .fail _
    | some plan => exact mirrors_follow answers scope plan

variable (consulted : consult.Mirrored veil halts)
include consulted

theorem mirrors_invoke (engine : EngineId) (realization : Nat) (scope : ScopeId) :
    Mirrors veil.disguise halts (invokeBy consult handler engine realization scope).run
      (invoke other engine realization scope).run := by
  have executed := mirrors_execution answers engine realization scope
  refine .andThen (mirrors_ensureOpen scope) fun _ world sound => .look ?_
  rw [Disguise.graphs]
  cases world.graph? engine realization with
  | none => exact Mirrors.fail _ world sound
  | some callSite =>
    have validated := @Engine.spared_validateResolution veil callSite (world.isRoot scope)
    refine .andThen (consulted engine validated world sound) fun _ => ?_
    change Mirrors veil.disguise halts _ (ExceptT.run (if
      ((world.behind veil).engine engine).observers.isEmpty then _ else _))
    by_cases hidden : veil.deaf = true ∧ engine = veil.engine
    · obtain ⟨deaf, rfl⟩ := hidden
      rw [World.observers_hidden deaf, List.isEmpty_nil, if_pos rfl]
      split
      · exact executed
      · exact mirrors_unobserved deaf _ executed
    · rw [World.observers_shown hidden]
      split
      · exact executed
      · exact mirrors_observed engine _ executed

theorem paced_behind : Paced veil.disguise halts consult handler other where
  realize engine service := consulted engine (Engine.spared_realize service)
  prepare engine implementation supplied :=
    consulted engine (Engine.spared_prepare implementation supplied)
  invoke := mirrors_invoke answers consulted

end Requests
end Run
end ServiceContainer
