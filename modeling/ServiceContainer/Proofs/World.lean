import ServiceContainer.Container
import ServiceContainer.Proofs.Engine.Soundness

/-! Worlds whose engines are sound. Notices and scopes do not touch engines. Main statement: a
realization is executed by interpreting its graph, whatever its accessor is. -/
namespace ServiceContainer
namespace World

/-- The worlds that providers, their clients and questions about their graphs lead to. -/
inductive Reachable : World → Prop where
  | start (metrics : List Metrics) : Reachable { metrics }
  | build {world later : World} {blueprint : Blueprint} {options : Options}
      {observers : List Observer} {id : EngineId} {root : ScopeId} (reached : Reachable world)
      (built : Container.build blueprint options observers world = .ok (id, root, later)) :
      Reachable later
  | run {α : Type} {world later : World} {fuel : Nat} {program : Program α} {result : α}
      (reached : Reachable world)
      (ran : Container.run fuel program world = some (result, later)) : Reachable later
  | graph {world later : World} {id : EngineId} {service : ServiceType}
      {result : Except Failure (Option CallSite)} (reached : Reachable world)
      (asked : (Run.onEngine id (Engine.callSite service)).run world = some (result, later)) :
      Reachable later

def Sound (world : World) : Prop :=
  ∀ (id : EngineId) (engine : Engine), world.engines[id]? = some engine → engine.Sound

theorem engine_of_some {world : World} {id : EngineId} {engine : Engine}
    (listed : world.engines[id]? = some engine) : world.engine id = engine := by
  simp [World.engine, List.getD, listed]

theorem engine_of_none {world : World} {id : EngineId} (absent : world.engines[id]? = none) :
    world.engine id = {} := by
  simp [World.engine, List.getD, absent]

theorem updateEngine_absent {world : World} {id : EngineId} (absent : world.engines[id]? = none)
    (change : Engine → Engine) : world.updateEngine id change = world := by
  have same : world.engines.modify id change = world.engines := by
    apply List.ext_getElem?
    intro place
    rw [List.getElem?_modify]
    by_cases here : id = place
    · subst here
      simp [absent]
    · simp [here]
  simp [updateEngine, same]

theorem engines_count (world : World) (notice : Notice) (observer : Observer) :
    (world.count notice observer).engines = world.engines := by
  cases observer <;> rfl

theorem engines_notify (id : EngineId) (world : World) (notice : Notice) :
    (notify id world notice).engines = world.engines := by
  have counted : ∀ (observers : List Observer) (world : World),
      (observers.foldl (count · notice) world).engines = world.engines := by
    intro observers
    induction observers with
    | nil => exact fun _ => rfl
    | cons observer rest ih =>
      intro world
      rw [List.foldl_cons, ih, engines_count]
  simp only [notify]
  split
  · rfl
  · exact counted _ _

theorem engines_sent (id : EngineId) (notices : List Notice) (world : World) :
    (notices.foldl (notify id) world).engines = world.engines := by
  induction notices generalizing world with
  | nil => rfl
  | cons notice rest ih => rw [List.foldl_cons, ih, engines_notify]

theorem Sound.updateEngine {world : World} (sound : world.Sound) {id : EngineId} {engine : Engine}
    (kept : world.engines[id]? ≠ none → engine.Sound) :
    (world.updateEngine id fun _ => engine).Sound := by
  intro other found (listed : (world.engines.modify id _)[other]? = some found)
  rw [List.getElem?_modify] at listed
  by_cases here : id = other
  · subst here
    cases present : world.engines[id]? with
    | none => simp [present] at listed
    | some earlier =>
      have same : engine = found := by simpa [present] using listed
      exact same ▸ kept (by simp [present])
  · simp only [here, if_false] at listed
    exact sound other found (by simpa using listed)

theorem Sound.withEngine {world : World} (sound : world.Sound) {id : EngineId} {engine : Engine}
    (kept : world.engines[id]? ≠ none → engine.Sound) : (world.withEngine id engine).Sound := by
  have quiet : world.engines[id]? ≠ none → Engine.Sound { engine with outbox := [] } := by
    intro present
    exact { kept present with }
  intro other found listed
  rw [World.withEngine, engines_sent] at listed
  exact sound.updateEngine quiet other found listed

end World

namespace Run

theorem follow_eq {blueprint : Blueprint} {memo : Memo} (sound : Memo.Sound blueprint memo)
    {callSite : CallSite} (held : memo.Holds callSite) {plan : Plan}
    (follows : plan.Follows callSite)
    (handler : Handler) (scope : ScopeId) :
    follow handler scope plan = interpret handler callSite scope := by
  cases follows with
  | interpret => rfl
  | execute => exact execute_ofCallSite sound handler held scope

theorem run_onEngine (id : EngineId) (action : EngineAction α) (world : World) :
    (onEngine id action).run world =
      some ((action.run (world.engine id)).1, world.withEngine id (action.run (world.engine id)).2) :=
  rfl

theorem run_execution (handler : Handler) (engine : EngineId) (realization : Nat) (scope : ScopeId)
    (world : World) :
    (execution handler engine realization scope).run world =
      let planned := (Engine.nextPlan realization).run (world.engine engine)
      let later := world.withEngine engine planned.2
      match planned.1 with
      | some plan => (follow handler scope plan).run later
      | none => some (.error .scopeDisposed, later) := by
  change (match ((Engine.nextPlan realization).run (world.engine engine)).1 with
    | some plan => follow handler scope plan
    | none => throw .scopeDisposed : Run Value).run
      (world.withEngine engine ((Engine.nextPlan realization).run (world.engine engine)).2) = _
  generalize (Engine.nextPlan realization).run (world.engine engine) = planned
  obtain ⟨plan, later⟩ := planned
  cases plan <;> rfl

end Run
end ServiceContainer
