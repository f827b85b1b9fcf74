import ServiceContainer.Proofs.Engine.Soundness

/-! Engines apart from how they execute graphs. The plain form of an engine interprets every graph.
Main statement: an engine and its plain form build, check, realize and refuse the same, and go on
to be an engine and its plain form. -/
namespace ServiceContainer
open Stateful

def Realization.plain (realization : Realization) : Realization :=
  { realization with accessor := .interpreted }

namespace Engine

/-- The engine that interprets every graph, and is the same otherwise. -/
def plain (engine : Engine) : Engine :=
  { engine with
    options := engine.options.withMode .runtime
    realizations := engine.realizations.map Realization.plain }

theorem plain_withRealization (engine : Engine) (service : ServiceType) (callSite : CallSite) :
    (engine.withRealization service callSite).plain =
      engine.plain.withRealization service callSite := by
  simp [withRealization, plain, Realization.plain, firstAccessor, Options.withMode]

/-- The action does not depend on how graphs are executed. -/
abbrev Indifferent (action : EngineAction α) : Prop := Commutes plain action

theorem indifferent_compositional : Compositional fun {_} action => Indifferent action :=
  commutes_compositional plain

theorem indifferent_onMemo (build : Build α) : Indifferent (EngineAction.onMemo build) :=
  fun _ => rfl

theorem indifferent_onVerdicts (check : Check α) : Indifferent (EngineAction.onVerdicts check) :=
  fun _ => rfl

theorem indifferent_callSite (service : ServiceType) : Indifferent (callSite service) :=
  commutes_get (fun _ => rfl) fun _ => indifferent_onMemo _

theorem indifferent_validateGraph (callSite : CallSite) : Indifferent (validateGraph callSite) := by
  refine commutes_get (fun _ => rfl) fun engine => ?_
  split
  · exact indifferent_compositional.bind (indifferent_onVerdicts _) fun _ =>
      indifferent_compositional.pure _
  · exact indifferent_compositional.pure _

theorem indifferent_validateResolution (callSite : CallSite) (fromRoot : Bool) :
    Indifferent (validateResolution callSite fromRoot) := by
  refine commutes_get (fun _ => rfl) fun engine => ?_
  split
  · refine indifferent_compositional.bind (indifferent_onVerdicts _) fun needed => ?_
    cases needed with
    | none => exact indifferent_compositional.pure _
    | some dependency => exact indifferent_compositional.throw _
  · exact indifferent_compositional.pure _

theorem indifferent_validateDescriptor (position : Nat) :
    Indifferent (validateDescriptor position) := by
  refine commutes_get (fun _ => rfl) fun engine => ?_
  refine indifferent_compositional.bind (indifferent_onMemo _) fun found => ?_
  cases found with
  | none => exact indifferent_compositional.pure _
  | some callSite => exact indifferent_validateGraph callSite

theorem indifferent_realize (service : ServiceType) : Indifferent (realize service) := by
  refine commutes_get (fun _ => rfl) fun engine => ?_
  cases engine.published.lookup service with
  | some known => exact indifferent_compositional.pure _
  | none =>
    refine indifferent_compositional.bind (indifferent_callSite service) fun found => ?_
    cases found with
    | none => exact fun _ => rfl
    | some callSite =>
      refine indifferent_compositional.bind (indifferent_validateGraph callSite) fun _ => ?_
      intro engine
      have length : engine.plain.realizations.length = engine.realizations.length :=
        List.length_map _
      change (Except.ok (some engine.plain.realizations.length),
        engine.plain.withRealization service callSite) = _
      rw [length, ← plain_withRealization]
      rfl

theorem indifferent_prepare (implementation : TypeInfo) (supplied : List ServiceType) :
    Indifferent (prepare implementation supplied) := by
  refine commutes_get (fun _ => rfl) fun engine => ?_
  refine indifferent_compositional.select (fun constructor _ => ?_) _
  exact bindSupplied_of indifferent_compositional.selective (fun _ _ => indifferent_realize _) supplied

theorem indifferent_collectFailures (position remaining : Nat) (engine : Engine) :
    (collectFailures position remaining).run engine.plain =
      (((collectFailures position remaining).run engine).1,
        ((collectFailures position remaining).run engine).2.plain) := by
  induction remaining generalizing position engine with
  | zero => rfl
  | succ remaining ih =>
    have checked := indifferent_validateDescriptor position engine
    have others := ih (position + 1) ((validateDescriptor position).run engine).2
    rw [run_collectFailures, run_collectFailures, checked]
    dsimp only
    rw [others]

theorem indifferent_validateDescriptors : Indifferent validateDescriptors := by
  refine commutes_get (fun _ => rfl) fun engine => ?_
  refine indifferent_compositional.bind ?_ fun failures => ?_
  · intro later
    have collected :=
      indifferent_collectFailures 0 engine.blueprint.registry.descriptors.length later
    exact congrArg (fun ended : List Failure × Engine => (Except.ok ended.1, ended.2)) collected
  · split
    · exact indifferent_compositional.pure _
    · exact indifferent_compositional.throw _

theorem plain_build (blueprint : Blueprint) (options : Options) (observers : List Observer) :
    build blueprint (options.withMode .runtime) observers =
      (build blueprint options observers).map plain := by
  have validated := indifferent_validateDescriptors { blueprint, options, observers }
  unfold build
  cases asked : options.validateOnBuild with
  | false => simp [Options.withMode, asked, plain, Except.map]
  | true =>
    have same : (options.withMode .runtime).validateOnBuild = true := asked
    simp only [same, if_true]
    rw [show ({ blueprint, options := options.withMode .runtime, observers } : Engine) =
      plain { blueprint, options, observers } from rfl, validated]
    cases ended : validateDescriptors.run { blueprint, options, observers } with
    | mk result later => cases result <;> rfl

theorem nextPlan_plain (id : Nat) (engine : Engine) :
    (nextPlan id).run engine.plain =
      (engine.realizations[id]?.map fun realization => .interpret realization.callSite,
        engine.plain) := by
  have listed : engine.plain.realizations[id]? = engine.realizations[id]?.map Realization.plain :=
    List.getElem?_map
  rw [run_nextPlan, listed]
  cases found : engine.realizations[id]? with
  | none => rfl
  | some realization =>
    have same : engine.plain.realizations.set id realization.plain = engine.plain.realizations :=
      set_same (by rw [listed, found, Option.map_some])
    exact congrArg (fun realizations =>
      (some (Plan.interpret realization.callSite), { engine.plain with realizations })) same

theorem plain_nextPlan (id : Nat) (engine : Engine) :
    ((nextPlan id).run engine).2.plain = engine.plain := by
  rw [run_nextPlan]
  cases found : engine.realizations[id]? with
  | none => rfl
  | some realization =>
    have same : (engine.realizations.map Realization.plain).set id realization.plain =
        engine.realizations.map Realization.plain :=
      set_same (by rw [List.getElem?_map, found, Option.map_some])
    dsimp only [plain]
    rw [List.map_set]
    exact congrArg (fun realizations => { engine.plain with realizations }) same

end Engine
end ServiceContainer
