import ServiceContainer.Proofs.Engine.Plain
import ServiceContainer.Proofs.Execution.Lockstep

/-! Worlds apart from how their engines execute graphs. In the plain form of a world every graph is
interpreted. Main statement: an act leaves a world and its plain form with the same reply, and as
a world and its plain form again, if all the requests it makes are answered so. -/
namespace ServiceContainer

namespace World

/-- The world whose engines interpret every graph, and is the same otherwise. -/
def plain (world : World) : World := { world with engines := world.engines.map Engine.plain }

theorem engine_plain (world : World) (id : EngineId) :
    (world.engines[id]? = some (world.engine id) ∧
      world.plain.engine id = (world.engine id).plain) ∨
    (world.engines[id]? = none ∧ world.engine id = {} ∧ world.plain.engine id = {}) := by
  cases listed : world.engines[id]? with
  | none =>
    have absent : world.plain.engines[id]? = none := by simp [World.plain, listed]
    exact .inr ⟨rfl, engine_of_none listed, engine_of_none absent⟩
  | some engine =>
    have plainly : world.plain.engines[id]? = some engine.plain := by simp [World.plain, listed]
    rw [engine_of_some listed, engine_of_some plainly]
    exact .inl ⟨rfl, rfl⟩

theorem observers_plain (world : World) (id : EngineId) :
    (world.plain.engine id).observers = (world.engine id).observers := by
  obtain ⟨_, same⟩ | ⟨_, default, same⟩ := world.engine_plain id
  · rw [same]
    rfl
  · rw [same, default]

theorem graph?_plain (world : World) (id : EngineId) (realization : Nat) :
    world.plain.graph? id realization = world.graph? id realization := by
  unfold graph?
  obtain ⟨_, same⟩ | ⟨_, default, same⟩ := world.engine_plain id
  · rw [same]
    simp [Engine.plain, Realization.plain, Function.comp_def]
  · rw [same, default]

theorem plain_count (world : World) (notice : Notice) (observer : Observer) :
    world.plain.count notice observer = (world.count notice observer).plain := by
  cases observer <;> rfl

theorem plain_notify (id : EngineId) (world : World) (notice : Notice) :
    notify id world.plain notice = (notify id world notice).plain := by
  have counted : ∀ (observers : List Observer) (world : World),
      observers.foldl (count · notice) world.plain =
        (observers.foldl (count · notice) world).plain := by
    intro observers
    induction observers with
    | nil => exact fun _ => rfl
    | cons observer rest ih =>
      intro world
      rw [List.foldl_cons, plain_count, ih, List.foldl_cons]
  unfold notify
  rw [observers_plain]
  dsimp only
  split
  · rfl
  · exact counted _ (world.record _)

theorem plain_updateEngine (world : World) (id : EngineId) (engine : Engine) :
    (world.updateEngine id fun _ => engine).plain =
      world.plain.updateEngine id fun _ => engine.plain := by
  have same : (world.engines.modify id fun _ => engine).map Engine.plain =
      (world.engines.map Engine.plain).modify id fun _ => engine.plain := by
    apply List.ext_getElem?
    intro place
    rw [List.getElem?_map, List.getElem?_modify, List.getElem?_modify, List.getElem?_map]
    split <;> simp [Option.map_map, Function.comp_def]
  simp [plain, updateEngine, same]

theorem plain_sent (id : EngineId) (notices : List Notice) (world : World) :
    notices.foldl (notify id) world.plain = (notices.foldl (notify id) world).plain := by
  induction notices generalizing world with
  | nil => rfl
  | cons notice rest ih => rw [List.foldl_cons, plain_notify, ih, List.foldl_cons]

theorem plain_withEngine (world : World) (id : EngineId) (engine : Engine) :
    (world.withEngine id engine).plain = world.plain.withEngine id engine.plain := by
  unfold withEngine
  rw [← plain_sent, plain_updateEngine]
  rfl

theorem plain_withEngine_absent {world : World} {id : EngineId}
    (absent : world.engines[id]? = none) (engine : Engine) :
    world.plain.withEngine id engine = (world.withEngine id engine).plain := by
  have gone : world.plain.engines[id]? = none := by simp [plain, absent]
  unfold withEngine
  rw [updateEngine_absent absent, updateEngine_absent gone, plain_sent]

end World

/-- The act replies the same in the world and in its plain form, and leaves a world and its plain
form. -/
def IndifferentIn (world : World) (act : Act α) : Prop :=
  act world.plain = (act world).map (fun ended => (ended.1, ended.2.plain)) ∧
    ∀ ended, act world = some ended → ended.2.Sound

def Indifferent (act : Act α) : Prop := ∀ world : World, world.Sound → IndifferentIn world act

def Disguise.plain : Disguise where
  engines := List.map Engine.plain
  journal := id
  metrics := id
  sound := World.Sound
  sound_of_engines same sound id engine listed := sound id engine (same ▸ listed)
  records _ _ := rfl
  notifies id world notice := world.plain_notify id notice
  graphs world id realization := world.graph?_plain id realization

theorem indifferentIn_iff {world : World} {act : Act α} :
    MirrorsIn .plain False world act act ↔ IndifferentIn world act := by
  unfold MirrorsIn IndifferentIn
  rw [false_and, or_false]
  rfl

theorem indifferent_iff {act : Act α} : Mirrors .plain False act act ↔ Indifferent act :=
  forall_congr' fun _ => forall_congr' fun _ => indifferentIn_iff

namespace Run
variable {handler : Handler}

theorem indifferentIn_onEngine {world : World} (sound : world.Sound) {id : EngineId}
    {action : EngineAction α} (same : Engine.Indifferent action)
    (evolves : (world.engine id).Evolves (action.run (world.engine id)).2) :
    IndifferentIn world (onEngine id action).run := by
  change some ((action.run (world.plain.engine id)).1,
      world.plain.withEngine id (action.run (world.plain.engine id)).2) =
    some ((action.run (world.engine id)).1,
      (world.withEngine id (action.run (world.engine id)).2).plain) ∧
    ∀ ended, some ((action.run (world.engine id)).1,
      world.withEngine id (action.run (world.engine id)).2) = some ended → ended.2.Sound
  rw [World.plain_withEngine]
  obtain ⟨listed, plainly⟩ | ⟨absent, default, plainly⟩ := world.engine_plain id
  · rw [plainly, same (world.engine id)]
    refine ⟨rfl, ?_⟩
    rintro _ ⟨⟩
    exact sound.withEngine fun _ => (evolves (sound id _ listed)).1
  · rw [plainly, default]
    refine ⟨?_, ?_⟩
    · rw [← World.plain_withEngine, World.plain_withEngine_absent absent]
    · rintro _ ⟨⟩
      exact sound.withEngine fun present => absurd absent present

theorem indifferent_onEngine (id : EngineId) {action : EngineAction α}
    (same : Engine.Indifferent action) (keeps : Stateful.Keeps Engine.Evolves action) :
    Indifferent (onEngine id action).run :=
  fun world sound => indifferentIn_onEngine sound same (keeps (world.engine id))

section Requests
variable (answers : handler.Mirrors .plain False handler)
include answers

theorem indifferent_execution (engine : EngineId) (realization : Nat) (scope : ScopeId) :
    Indifferent (execution handler engine realization scope).run := by
  intro world sound
  unfold IndifferentIn
  rw [run_execution, run_execution]
  obtain ⟨listed, plainly⟩ | ⟨absent, default, plainly⟩ := world.engine_plain engine
  · have steady := sound engine _ listed
    obtain ⟨⟨kept, _⟩, follows⟩ := steady.nextPlan realization
    rw [plainly, Engine.nextPlan_plain]
    cases found : (world.engine engine).realizations[realization]? with
    | none =>
      rw [Engine.run_nextPlan, found]
      refine ⟨congrArg some (congrArg (Prod.mk _) (world.plain_withEngine engine _).symm), ?_⟩
      rintro _ ⟨⟩
      exact sound.withEngine fun _ => steady
    | some realized =>
      obtain ⟨plan, planned⟩ : ∃ plan,
          ((Engine.nextPlan realization).run (world.engine engine)).1 = some plan := by
        rw [Engine.run_nextPlan, found]
        exact ⟨_, rfl⟩
      obtain ⟨_, again, following⟩ := follows plan planned
      cases found.symm.trans again
      have held := steady.holds (List.mem_of_getElem? found)
      have later : (world.withEngine engine
          ((Engine.nextPlan realization).run (world.engine engine)).2).Sound :=
        sound.withEngine fun _ => kept
      have interpreted :=
        indifferent_iff.1 (mirrors_interpret answers realized.callSite scope) _ later
      rw [IndifferentIn, World.plain_withEngine, Engine.plain_nextPlan] at interpreted
      simp only [Option.map_some, planned, follow_eq steady.memo held following]
      exact interpreted
  · rw [plainly, default]
    refine ⟨congrArg some (congrArg (Prod.mk _) (World.plain_withEngine_absent absent _)), ?_⟩
    rintro _ ⟨⟩
    exact sound.withEngine fun present => absurd absent present

theorem mirrors_invoke_plain (engine : EngineId) (realization : Nat) (scope : ScopeId) :
    Mirrors .plain False (invoke handler engine realization scope).run
      (invoke handler engine realization scope).run := by
  have executed := indifferent_iff.2 (indifferent_execution answers engine realization scope)
  refine .andThen (mirrors_ensureOpen scope) fun _ world sound => ?_
  have observers : ((world.under Disguise.plain.toLook).engine engine).observers =
    (world.engine engine).observers := world.observers_plain engine
  refine .look ?_
  rw [Disguise.graphs, observers]
  cases graph : world.graph? engine realization with
  | none => exact Mirrors.fail _ world sound
  | some callSite =>
    have held : (world.engine engine).Sound → (world.engine engine).memo.Holds callSite := by
      obtain ⟨realized, listed, rfl⟩ := Option.map_eq_some_iff.1 graph
      exact fun steady => steady.holds (List.mem_of_getElem? listed)
    refine .andThen (indifferentIn_iff.2 (indifferentIn_onEngine sound
      (Engine.indifferent_validateResolution callSite (world.isRoot scope))
      fun steady => (steady.validateResolution (held steady) rfl).1)) fun _ => ?_
    split
    · exact executed
    · exact mirrors_observed _ _ executed

end Requests

theorem paced_onEngine (answers : handler.Mirrors .plain False handler) :
    Paced .plain False @onEngine handler handler where
  realize engine service := indifferent_iff.2
    (indifferent_onEngine engine (Engine.indifferent_realize service)
      (Engine.keeps_realize service))
  prepare engine implementation supplied := indifferent_iff.2
    (indifferent_onEngine engine (Engine.indifferent_prepare implementation supplied)
      (Engine.keeps_prepare implementation supplied))
  invoke := mirrors_invoke_plain answers

end Run

namespace Container

theorem mirrors_perform_plain (fuel : Nat) :
    (perform fuel).Mirrors .plain False (perform fuel) := by
  have paces (fuel : Nat)
      (answers : (performBy @Run.onEngine fuel).Mirrors .plain False (perform fuel)) :
      Run.Paced .plain False @Run.onEngine (performBy @Run.onEngine fuel) (perform fuel) := by
    rw [performBy_onEngine] at answers ⊢
    exact Run.paced_onEngine answers
  have answers := mirrors_perform paces fuel
  rwa [performBy_onEngine] at answers

theorem run_plain (fuel : Nat) (program : Program α) {world : World} (sound : world.Sound) :
    run fuel program world.plain =
      (run fuel program world).map fun ended => (ended.1, ended.2.plain) :=
  (indifferent_iff.1 (Run.mirrors_exec (mirrors_perform_plain fuel) program) world sound).1

theorem sound_run {fuel : Nat} {program : Program α} {world later : World} {result : α}
    (sound : world.Sound) (ran : run fuel program world = some (result, later)) : later.Sound :=
  (indifferent_iff.1 (Run.mirrors_exec (mirrors_perform_plain fuel) program) world sound).2
    (result, later) ran

end Container
end ServiceContainer
