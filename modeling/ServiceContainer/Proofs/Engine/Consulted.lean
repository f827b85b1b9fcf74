import ServiceContainer.Proofs.Capture
import ServiceContainer.Proofs.Engine.Validation
import ServiceContainer.Proofs.Execution.Runs

/-! Engines as they come to be: new ones, asked for graphs and realizations of services, told to
check graphs, in any order. Main statement: a check of a graph that such an engine holds is exact,
whatever was checked before, and however those checks ended. -/
namespace ServiceContainer
open Stateful

namespace Engine

/-- An engine at any time, from a new one by what it is asked to do. -/
inductive Consulted : Engine → Prop where
  | fresh (blueprint : Blueprint) (options : Options) (observers : List Observer) :
      Consulted { blueprint, options, observers }
  | ask {engine later : Engine} (before : Consulted engine) (asked : engine.Asked later) :
      Consulted later
  | describe {engine : Engine} (before : Consulted engine) (position : Nat) :
      Consulted ((EngineAction.onMemo
        (engine.blueprint.callSiteForDescriptor position)).run engine).2
  | check {engine : Engine} {callSite : CallSite} (before : Consulted engine)
      (held : engine.memo.Holds callSite) :
      Consulted { engine with verdicts := (callSite.checkLifetimes.run engine.verdicts).2 }
  | send {engine : Engine} (before : Consulted engine) : Consulted { engine with outbox := [] }

variable {engine : Engine} {host : Host}

theorem Consulted.recollects (consulted : engine.Consulted) : engine.Sound ∧ engine.Recalls host := by
  induction consulted with
  | fresh blueprint options observers => exact ⟨sound_fresh .., recalls_fresh ..⟩
  | ask _ asked ih => exact asked.recollects ih
  | @describe engine _ position ih =>
    obtain ⟨sound, recalls⟩ := ih
    exact ⟨(sound.callSiteForDescriptor rfl).1.1, recalls.callSiteForDescriptor sound position⟩
  | check _ held ih =>
    obtain ⟨sound, recalls⟩ := ih
    exact ⟨(sound.checkLifetimes held rfl).1.1, (recalls.check sound held).1⟩
  | send _ ih => exact ⟨{ ih.1 with }, { ih.2 with }⟩

theorem Consulted.sound (consulted : engine.Consulted) : engine.Sound := by
  have state : engine.Sound ∧ engine.Recalls ⟨fun _ => "", fun _ => none, fun _ => rfl⟩ :=
    consulted.recollects
  exact state.1

theorem Consulted.validateGraph (consulted : engine.Consulted) {callSite : CallSite}
    (held : engine.memo.Holds callSite) :
    Consulted ((Engine.validateGraph callSite).run engine).2 := by
  rw [run_validateGraph]
  split
  · exact consulted.check held
  · exact consulted

theorem Consulted.validateDescriptor (consulted : engine.Consulted) (position : Nat) :
    Consulted ((Engine.validateDescriptor position).run engine).2 := by
  rw [Engine.validateDescriptor, run_get_bind, run_bind]
  have described := consulted.describe position
  cases built : (EngineAction.onMemo
      (engine.blueprint.callSiteForDescriptor position)).run engine with
  | mk result later =>
    obtain ⟨_, holds⟩ := consulted.sound.callSiteForDescriptor built
    rw [built] at described
    cases result with
    | error failure => exact described
    | ok found =>
      cases found with
      | none => exact described
      | some callSite => exact described.validateGraph (holds callSite rfl)

theorem Consulted.collectFailures (consulted : engine.Consulted) (position remaining : Nat) :
    Consulted ((Engine.collectFailures position remaining).run engine).2 := by
  induction remaining generalizing position engine with
  | zero => exact consulted
  | succ remaining ih =>
    rw [run_collectFailures]
    exact ih (consulted.validateDescriptor position) (position + 1)

theorem consulted_validateDescriptors :
    Keeps (fun engine later => engine.Consulted → later.Consulted) validateDescriptors := by
  have closed : Compositional fun {_} (action : EngineAction _) =>
      Keeps (fun engine later : Engine => engine.Consulted → later.Consulted) action :=
    keeps_compositional (fun _ consulted => consulted)
      fun _ _ _ first second consulted => second (first consulted)
  refine closed.bind (fun _ consulted => consulted) fun engine => ?_
  refine closed.bind (fun _ consulted => consulted.collectFailures 0 _) fun failures => ?_
  split
  · exact closed.pure _
  · exact closed.throw _

theorem consulted_of_build {blueprint : Blueprint} {options : Options} {observers : List Observer}
    (built : build blueprint options observers = .ok engine) : engine.Consulted := by
  have fresh := Consulted.fresh blueprint options observers
  unfold build at built
  split at built
  · have validated := consulted_validateDescriptors _ fresh
    dsimp only at built
    cases ended : validateDescriptors.run { blueprint, options, observers } with
    | mk result later =>
      rw [ended] at built validated
      cases result with
      | error failure => cases built
      | ok _ =>
        cases built
        exact validated
  · cases built
    exact fresh

/-- A check refuses a graph if and only if a singleton in it reaches a scoped service, and otherwise
names the first scoped service that is reached from the top without meeting a singleton, if there is
one. What was checked before makes no difference. -/
theorem Consulted.check_exact (consulted : engine.Consulted) (spoken : engine.memo.Spoken host)
    {callSite : CallSite} (held : engine.memo.Holds callSite) :
    ((∃ singleton dependency, (callSite.checkLifetimes.run engine.verdicts).1 =
        .error (.invalidLifetimeCapture singleton dependency)) ↔ callSite.Captures) ∧
    (∀ found, (callSite.checkLifetimes.run engine.verdicts).1 = .ok found ↔
      ¬callSite.Captures ∧ found = CallSite.firstScoped callSite.openNodes) ∧
    ((∃ name, (callSite.checkLifetimes.run engine.verdicts).1 = .ok (some name)) ↔
      ¬callSite.Captures ∧ ∃ node, callSite.Opens node ∧ node.site.location = .scope) := by
  obtain ⟨sound, recalls⟩ : engine.Sound ∧ engine.Recalls host := consulted.recollects
  rw [(recalls.check sound held).2 spoken]
  rcases callSite.judged with ⟨captures, singleton, dependency, refused⟩ | ⟨free, passed⟩
  · rw [refused]
    exact ⟨iff_of_true ⟨_, _, rfl⟩ captures,
      fun found => iff_of_false (fun absurd => nomatch absurd) fun ⟨free, _⟩ => free captures,
      iff_of_false (fun ⟨_, absurd⟩ => nomatch absurd) fun ⟨free, _⟩ => free captures⟩
  · rw [passed]
    refine ⟨iff_of_false (fun ⟨_, _, absurd⟩ => nomatch absurd) free, fun found => ?_, ?_⟩
    · rw [and_iff_right free, Except.ok.injEq, eq_comm]
    · rw [and_iff_right free]
      constructor
      · rintro ⟨name, same⟩
        obtain ⟨node, listed, scope⟩ := CallSite.exists_of_firstScoped (Except.ok.inj same)
        exact ⟨node, CallSite.mem_openNodes_iff.1 listed, scope⟩
      · rintro ⟨node, opens, scope⟩
        cases found : CallSite.firstScoped callSite.openNodes with
        | some name => exact ⟨name, rfl⟩
        | none =>
          have listed := CallSite.mem_openNodes_iff.2 opens
          exact absurd scope (CallSite.firstScoped_eq_none_iff.1 found node listed)

section Sample
open Container

/-- An engine that has refused a singleton cache which takes a scoped session, and then made the
graph of a report which takes a session. -/
def audited : Engine :=
  let refusing := ((realize (.plain cache)).run
    { blueprint := equipped .singleton session, options := .validating }).2
  ((callSite (.plain report)).run refusing).2

theorem spoken_audited : audited.memo.Spoken office := Memo.spoken_of_calls (by decide +kernel)

theorem exists_held {service : ServiceType} {p : CallSite → Bool}
    (found : ((engine.memo.lookup ⟨service, 0⟩).join.any p) = true) :
    ∃ callSite, engine.memo.Holds callSite ∧ p callSite = true := by
  obtain ⟨callSite, known, holds⟩ := (Option.any_eq_true ..).1 found
  exact ⟨callSite, .inl ⟨_, Option.join_eq_some_iff.1 known⟩, holds⟩

end Sample

/-- The cache captures the session; the report is free of captures, though it needs the session that
has been checked for the cache. -/
theorem check_exact_audited : audited.Consulted ∧ audited.memo.Spoken Container.office ∧
    (∃ cache, audited.memo.Holds cache ∧ cache.Captures) ∧
    ∃ report, audited.memo.Holds report ∧ ¬report.Captures ∧
      CallSite.firstScoped report.openNodes = some "Session" := by
  have consulted : audited.Consulted :=
    ((Consulted.fresh _ _ _).ask (.realize (.plain Container.cache))).ask
      (.graph (.plain Container.report))
  refine ⟨consulted, spoken_audited, ?_, ?_⟩
  · have checked : ((audited.memo.lookup ⟨.plain Container.cache, 0⟩).join.any fun callSite =>
        (callSite.checkLifetimes.run audited.verdicts).1.toOption.isNone) = true := by
      decide +kernel
    obtain ⟨cache, held, refused⟩ := exists_held checked
    obtain ⟨_, passes, _⟩ := consulted.check_exact spoken_audited held
    refine ⟨cache, held, Classical.byContradiction fun free => ?_⟩
    rw [(passes _).2 ⟨free, rfl⟩] at refused
    cases refused
  · have checked : ((audited.memo.lookup ⟨.plain Container.report, 0⟩).join.any fun callSite =>
        (callSite.checkLifetimes.run audited.verdicts).1.toOption == some (some "Session")) =
          true := by decide +kernel
    obtain ⟨report, held, named⟩ := exists_held checked
    obtain ⟨_, passes, _⟩ := consulted.check_exact spoken_audited held
    cases answered : (report.checkLifetimes.run audited.verdicts).1 with
    | error failure =>
      rw [answered] at named
      cases named
    | ok found =>
      rw [answered] at named
      obtain ⟨free, first⟩ := (passes found).1 answered
      exact ⟨report, held, free, first.symm.trans (Option.some.inj (eq_of_beq named))⟩

end Engine

theorem World.provided_of_blueprints {world later : World} {id : EngineId}
    (same : later.blueprints = world.blueprints) (provided : id < later.engines.length) :
    id < world.engines.length := by
  have length := congrArg List.length same
  rw [blueprints, blueprints, List.length_map, List.length_map] at length
  exact length ▸ provided

theorem World.Moves.consulted {world later : World} (moves : world.Moves later) {id : EngineId}
    (provided : id < world.engines.length) (consulted : (world.engine id).Consulted) :
    (later.engine id).Consulted :=
  (moves.engine_of (fun _ _ before asks => (before.ask asks).send) provided consulted).2

theorem World.Reachable.consulted {world : World} (reached : world.Reachable) {id : EngineId}
    (provided : id < world.engines.length) : (world.engine id).Consulted := by
  induction reached with
  | start metrics => exact absurd provided (Nat.not_lt_zero id)
  | @build world later _ _ _ _ _ _ built ih =>
    obtain ⟨engine, made, rfl⟩ := Container.exists_of_build built
    change id < (world.engines ++ [engine]).length at provided
    rw [World.engine, List.getD]
    change Engine.Consulted ((world.engines ++ [engine])[id]?.getD _)
    rcases Nat.lt_or_ge id world.engines.length with old | new
    · rw [List.getElem?_append_left old]
      exact ih old
    · rw [List.length_append, List.length_singleton] at provided
      obtain rfl : id = world.engines.length := Nat.le_antisymm (Nat.le_of_lt_succ provided) new
      rw [List.getElem?_concat_length]
      exact Engine.consulted_of_build made
  | @run _ world later fuel program result reached ran ih =>
    have reaches := Container.leads_run fuel program world reached.wellFormed result later ran
    have inside := provided_of_blueprints reaches.blueprints provided
    exact reaches.moves.consulted inside (ih inside)
  | @graph world later id service result reached asks ih =>
    have reaches :=
      Run.leads_onEngine id (fun _ => .graph service) world reached.wellFormed result later asks
    have inside := provided_of_blueprints reaches.blueprints provided
    exact reaches.moves.consulted inside (ih inside)

end ServiceContainer
