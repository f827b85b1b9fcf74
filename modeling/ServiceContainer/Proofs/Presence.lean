import ServiceContainer.Proofs.Engine.Members

/-! Whether a service is provided, and whether a graph of it is found. Main statement: whatever a
provider was asked before, it finds no graph of a service, and makes no activator of it, just if the
service is none of those it knows without building anything. -/
namespace ServiceContainer
open Blueprint Query Stateful

namespace Blueprint
variable {blueprint : Blueprint} {service : ServiceType}

/-- What is no service has a plan without questions. -/
theorem plan_of_absent (absent : blueprint.isService service = false) :
    blueprint.plan (.single service) = pure none := by
  simp only [isService, Registry.isRegistered, Bool.or_eq_false_iff, Option.isSome_eq_false_iff,
    Option.isNone_iff_eq_none] at absent
  obtain ⟨strange, alone, unserved⟩ := absent
  have element : service.element = none := by
    cases service with
    | collection _ => cases alone
    | _ => rfl
  simp only [plan, assemble, strange, element, unserved]

theorem exists_yields_of_unknown {memo : Memo} (sound : Memo.Sound blueprint memo) {target : Target}
    (unknown : memo.lookup target.key = none) {fuel : Nat} {found : Option CallSite}
    (built : ((blueprint.buildWithin fuel [] target).run memo).1 = .ok found) :
    ∃ answers, (blueprint.plan target).Yields answers (.ok found) := by
  cases fuel with
  | zero =>
    rw [run_buildWithin, unknown] at built
    cases built
  | succ fuel =>
    cases ended : (blueprint.buildWithin (fuel + 1) [] target).run memo with
    | mk result later =>
      rw [ended] at built
      subst built
      obtain ⟨between, planned, _⟩ := run_of_unknown unknown rfl ended
      have explores : blueprint.Explores ([] ++ [target.key])
          (blueprint.buildWithin fuel ([] ++ [target.key])) := explores_buildWithin fuel _
      have only : (blueprint.plan target).Only blueprint.registry.Lists :=
        (only_plan _).mono fun _ asked => asked.lists
      exact ⟨_, (explores.run only sound planned).2 found rfl⟩

end Blueprint

namespace Engine
variable {engine : Engine} {host : Host} {service : ServiceType}
  (sound : engine.Sound) (built : engine.memo.Built engine.blueprint)
  (spoken : engine.memo.Spoken host) (speaks : host.Speaks service)
  (types : engine.blueprint.registry.DefinesTypes)
include sound built spoken speaks types

omit sound types in
theorem isService_of_known {callSite : CallSite}
    (known : engine.memo.lookup ⟨service, 0⟩ = some (some callSite)) :
    engine.isService service = true := by
  obtain ⟨target, lists, keyed, yields⟩ := Memo.exists_yields built spoken speaks known
  exact isService_of_plan lists keyed yields rfl

omit sound in
theorem isSome_of_known {found : Option CallSite}
    (known : engine.memo.lookup ⟨service, 0⟩ = some found) :
    found.isSome = engine.isService service := by
  obtain ⟨target, lists, keyed, yields⟩ := Memo.exists_yields built spoken speaks known
  exact isSome_of_plan lists keyed yields types

/-- What is found for a service is a graph just if there is the service. -/
theorem isSome_of_callSite {found : Option CallSite}
    (asked : ((callSite service).run engine).1 = .ok found) :
    found.isSome = engine.isService service := by
  cases known : engine.memo.lookup ⟨service, 0⟩ with
  | some remembered =>
    rw [run_callSite_of_known known] at asked
    cases asked
    exact isSome_of_known built spoken speaks types known
  | none =>
    rw [run_callSite] at asked
    have unknown : engine.memo.lookup (Target.single service).key = none := known
    obtain ⟨answers, yields⟩ := exists_yields_of_unknown sound.memo unknown asked
    have lists : engine.blueprint.registry.Lists (.single service) := trivial
    exact isSome_of_plan lists rfl yields types

omit sound in
theorem callSite_of_absent (absent : engine.isService service = false) :
    ((callSite service).run engine).1 = .ok none := by
  cases known : engine.memo.lookup ⟨service, 0⟩ with
  | some remembered =>
    have none : remembered = none := by
      have same := isSome_of_known built spoken speaks types known
      rwa [absent, Option.isSome_eq_false_iff, Option.isNone_iff_eq_none] at same
    rw [run_callSite_of_known known, none]
  | none =>
    obtain ⟨fuel, bounded⟩ := Nat.exists_eq_add_one.2 (engine.blueprint.chainBound_pos service)
    have unknown : engine.memo.lookup (Target.single service).key = none := known
    rw [run_callSite]
    change ((engine.blueprint.callSite service).run engine.memo).1 = _
    rw [Blueprint.callSite, bounded, run_buildWithin, unknown]
    simp only [Chain.cycle?, List.dropWhile_nil, ← run_plan, plan_of_absent absent]
    rfl

theorem isSome_of_published {found : Option Nat} (known : engine.published.lookup service = some found) :
    found.isSome = engine.isService service := by
  cases found with
  | some number =>
    obtain ⟨_, _, recorded⟩ := sound.provided service number known
    exact isSome_of_known built spoken speaks types recorded
  | none =>
    exact isSome_of_known built spoken speaks types (sound.unprovided service known)

theorem isSome_of_realize {found : Option Nat} (asked : ((realize service).run engine).1 = .ok found) :
    found.isSome = engine.isService service := by
  rw [realize, run_get_bind] at asked
  cases known : engine.published.lookup service with
  | some published =>
    simp only [known] at asked
    cases asked
    exact isSome_of_published sound built spoken speaks types known
  | none =>
    simp only [known] at asked
    cases ended : (callSite service).run engine with
    | mk result between =>
      rw [run_bind, ended] at asked
      have same {graph : Option CallSite} (found : result = .ok graph) :
          graph.isSome = engine.isService service :=
        isSome_of_callSite sound built spoken speaks types
          ((congrArg Prod.fst ended).trans found)
      cases result with
      | error failure => cases asked
      | ok graph =>
        rw [← same rfl]
        cases graph with
        | none =>
          cases asked
          rfl
        | some callSite =>
          change ((validateGraph callSite >>= _).run between).1 = _ at asked
          cases validated : (validateGraph callSite).run between with
          | mk outcome later =>
            rw [run_bind, validated] at asked
            cases outcome <;> cases asked
            rfl

/-- To realize what is no service does not fail. -/
theorem realize_of_absent (absent : engine.isService service = false) :
    ((realize service).run engine).1 = .ok none := by
  rw [realize, run_get_bind]
  cases known : engine.published.lookup service with
  | some published =>
    have same := isSome_of_published sound built spoken speaks types known
    rw [absent, Option.isSome_eq_false_iff, Option.isNone_iff_eq_none] at same
    rw [same]
    rfl
  | none =>
    have found := callSite_of_absent built spoken speaks types absent
    cases ended : (callSite service).run engine with
    | mk result between =>
      rw [ended] at found
      cases found
      dsimp only
      rw [run_bind, ended]
      rfl

end Engine

namespace Run
variable {α β : Type} {world later : World}

theorem map_eq_ok_iff {run : Run α} {f : α → β} {value : β} :
    (f <$> run).run world = some (.ok value, later) ↔
      ∃ ended, run.run world = some (.ok ended, later) ∧ f ended = value := by
  rw [map_eq_pure_bind]
  constructor
  · intro mapped
    obtain ⟨ended, between, ran, last⟩ | ⟨failure, _, same⟩ := bind_eq_some mapped
    · cases last
      exact ⟨ended, ran, rfl⟩
    · cases same
  · rintro ⟨ended, ran, rfl⟩
    exact run_bind_ok ran

/-- An engine is asked for something that it has just if there is the service. -/
theorem absent_iff_onEngine {id : EngineId} {action : EngineAction (Option α)} {serves : Bool}
    (finds : ∀ found, (action.run (world.engine id)).1 = .ok found → found.isSome = serves)
    (lacks : serves = false → (action.run (world.engine id)).1 = .ok none) :
    serves = false ↔ ∃ later, (onEngine id action).run world = some (.ok none, later) := by
  constructor
  · intro absent
    rw [run_onEngine, lacks absent]
    exact ⟨_, rfl⟩
  · rintro ⟨later, asked⟩
    rw [run_onEngine] at asked
    exact (finds none (congrArg Prod.fst (Option.some.inj asked))).symm

end Run

namespace World
variable {before world : World} {id : EngineId} {host : Host} {service : ServiceType}

/-- Whatever a provider was asked, the service is one that it knows without building anything, or its
graph is not found, activators are not made of it, and scopes do not get it; and these never fail. -/
theorem Reachable.absent_iff (reached : before.Reachable) (moves : before.Moves world)
    (provided : id < before.engines.length) {blueprint : Blueprint}
    (made : (world.engine id).blueprint = blueprint) (uncollected : blueprint.registry.Uncollected)
    (spoken : (world.engine id).memo.Spoken host) (speaks : host.Speaks service) :
    ((world.engine id).isService service = false ↔ ∃ later,
      (Run.onEngine id (Engine.callSite service)).run world = some (.ok none, later)) ∧
    ∀ fuel, ((world.engine id).isService service = false ↔ ∃ later,
        Container.perform (fuel + 1) (.activator id service) world = some (.ok none, later)) ∧
      ∀ scope, (world.scope scope).engine = id → (world.scope scope).state = .open →
        ((world.engine id).isService service = false ↔ ∃ later,
          Container.perform (fuel + 1) (.resolve scope service) world =
            some (.ok none, later)) := by
  subst made
  obtain ⟨sound, recalls⟩ : (world.engine id).Sound ∧ (world.engine id).Recalls host :=
    (moves.consulted provided (reached.consulted provided)).recollects
  have built := recalls.built
  have types := uncollected.definesTypes
  have realized : (world.engine id).isService service = false ↔ ∃ later,
      (Run.onEngine id (Engine.realize service)).run world = some (.ok none, later) :=
    Run.absent_iff_onEngine
      (fun _ asked => Engine.isSome_of_realize sound built spoken speaks types asked)
      (Engine.realize_of_absent sound built spoken speaks types)
  refine ⟨Run.absent_iff_onEngine
      (fun _ asked => Engine.isSome_of_callSite sound built spoken speaks types asked)
      (Engine.callSite_of_absent built spoken speaks types), fun fuel => ⟨?_, ?_⟩⟩
  · rw [realized]
    refine exists_congr fun later => ?_
    change _ ↔ (Run.activator id service).run world = _
    rw [Run.activator, ← map_eq_pure_bind, Run.map_eq_ok_iff]
    simp only [Option.map_eq_none_iff, exists_eq_right]
  · intro scope hosted opened
    have checked : (Run.ensureOpen scope).run world = some (.ok (), world) := by
      rw [Run.run_ensureOpen, if_pos opened]
    rw [realized]
    change _ ↔ ∃ later, (Run.resolve _ scope service).run world = _
    rw [Run.resolve, Run.run_bind_ok checked, Run.run_look]
    dsimp only
    rw [hosted]
    constructor
    · rintro ⟨later, asked⟩
      exact ⟨later, Run.run_bind_ok asked⟩
    · rintro ⟨later, ended⟩
      obtain ⟨found, between, asked, rest⟩ | ⟨failure, _, same⟩ := Run.bind_eq_some ended
      · cases found with
        | none => exact ⟨between, asked⟩
        | some realization =>
          obtain ⟨_, _, wrong⟩ := Run.map_eq_ok_iff.1 rest
          cases wrong
      · cases same

/-- Curtains are no service, and neither are racks of lamps as a plain type; as a closed generic they
are one. -/
theorem absent_iff_curtain :
    (∃ later, (Run.onEngine 0 (Engine.callSite (.plain curtain))).run opening =
      some (.ok none, later)) ∧
    (∃ later, Container.perform 1 (.activator 0 (.plain lampRack)) opening =
      some (.ok none, later)) ∧
    ¬∃ later, Container.perform 1 (.activator 0 (.generic lampRack rack [.plain lamp])) opening =
      some (.ok none, later) := by
  have provided : 0 < opening.engines.length := by decide +kernel
  have spoken : (opening.engine 0).memo.Spoken theater := Memo.spoken_of_calls (by decide +kernel)
  have decided {service : ServiceType} (speaks : theater.Speaks service) :=
    reachable_opening.absent_iff .refl provided rfl foreign_staged.uncollected spoken speaks
  have curtains : theater.Speaks (.plain curtain) := rfl
  have plain : theater.Speaks (.plain lampRack) := rfl
  have closed : theater.Speaks (.generic lampRack rack [.plain lamp]) := ⟨rfl, rfl⟩
  refine ⟨(decided curtains).1.1 (by decide +kernel), ((decided plain).2 0).1.1 (by decide +kernel),
    fun found => ?_⟩
  exact absurd (((decided closed).2 0).1.2 found) (by decide +kernel)

end World
end ServiceContainer
