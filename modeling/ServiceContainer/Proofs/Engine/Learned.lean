import ServiceContainer.Proofs.Moves
import ServiceContainer.Proofs.Verdict

/-! What an engine learns. Its memo fills up graph by graph, and it remembers verdicts. Main
statements: whatever an engine is asked, all that it remembers is what a new engine would find out by
itself, as long as the host describes the services it is asked for; so it is at any later time. -/
namespace ServiceContainer
open Relation Stateful

namespace Engine

/-- The memo came about graph by graph, and what is remembered of lifetimes are verdicts. -/
structure Recalls (host : Host) (engine : Engine) : Prop where
  built : engine.memo.Built engine.blueprint
  answered : engine.memo.Spoken host → engine.memo.Answers engine.verdicts

/-- What is registered and taken is as a host language has it, and the engine remembers only what it
found out. -/
structure Learned (host : Host) (engine : Engine) : Prop where
  foreign : engine.blueprint.registry.Foreign
  describes : host.Describes engine.blueprint
  built : engine.memo.Built engine.blueprint
  answered : engine.memo.Spoken host → engine.memo.Answers engine.verdicts

variable {host : Host} {engine : Engine}

theorem recalls_fresh (host : Host) (blueprint : Blueprint) (options : Options)
    (observers : List Observer) : Recalls host { blueprint, options, observers } :=
  ⟨.refl, fun _ => Memo.answers_empty _⟩

theorem Sound.spoken_build (sound : engine.Sound) (describes : host.Describes engine.blueprint)
    (spoken : engine.memo.Spoken host) {target : Target}
    (proper : engine.blueprint.Proper host target) (fuel : Nat) :
    ((EngineAction.onMemo (engine.blueprint.buildWithin fuel [] target)).run engine).2.memo.Spoken
      host := by
  have added := Blueprint.adds_buildWithin (fun _ proper => Blueprint.Proper.lists proper)
    (fun _ _ proper may => Blueprint.Proper.asked describes proper may) fuel [] proper sound.memo
  exact Memo.spoken_of_adds spoken added

namespace Recalls

theorem build (recalls : engine.Recalls host) (sound : engine.Sound) {target : Target}
    (lists : engine.blueprint.registry.Lists target) (fuel : Nat) :
    Recalls host
      ((EngineAction.onMemo (engine.blueprint.buildWithin fuel [] target)).run engine).2 := by
  have explores : engine.blueprint.Explores [] (engine.blueprint.buildWithin fuel []) :=
    Blueprint.explores_buildWithin fuel []
  have added : ReflTransGen (Memo.Adds engine.blueprint engine.blueprint.registry.Lists)
      engine.memo ((engine.blueprint.buildWithin fuel [] target).run engine.memo).2 :=
    Blueprint.adds_buildWithin (fun _ lists => lists) (fun _ _ _ may => may.lists) fuel [] lists
      sound.memo
  cases built : (engine.blueprint.buildWithin fuel [] target).run engine.memo with
  | mk result memo =>
    obtain ⟨evolves, _⟩ := explores target lists engine.memo sound.memo result memo built
    rw [built] at added
    rw [run_onMemo built]
    refine ⟨recalls.built.trans added, fun spoken => ?_⟩
    exact (recalls.answered (spoken.of_adds added)).mono evolves.grows

theorem check (recalls : engine.Recalls host) (sound : engine.Sound) {callSite : CallSite}
    (held : engine.memo.Holds callSite) :
    Recalls host { engine with verdicts := (callSite.checkLifetimes.run engine.verdicts).2 } ∧
      (engine.memo.Spoken host →
        (callSite.checkLifetimes.run engine.verdicts).1 = callSite.verdict) := by
  have finds : engine.memo.Spoken host →
      engine.memo.Finds callSite.verdict callSite.checkLifetimes := fun spoken =>
    Memo.finds_checkLifetimes (recalls.built.agrees sound.memo spoken) sound.memo callSite held
  refine ⟨⟨recalls.built, fun spoken => ?_⟩, fun spoken => ?_⟩
  · obtain ⟨after, checked, answers⟩ := finds spoken engine.verdicts (recalls.answered spoken)
    rw [checked]
    exact answers
  · obtain ⟨after, checked, _⟩ := finds spoken engine.verdicts (recalls.answered spoken)
    rw [checked]

end Recalls

theorem run_validateGraph (callSite : CallSite) (engine : Engine) :
    (validateGraph callSite).run engine =
      if engine.options.validateScopes then
        ((callSite.checkLifetimes.run engine.verdicts).1.map fun _ => (),
          { engine with verdicts := (callSite.checkLifetimes.run engine.verdicts).2 })
      else (.ok (), engine) := by
  rw [validateGraph, run_get_bind]
  split
  · rw [run_bind, run_onVerdicts]
    cases (callSite.checkLifetimes.run engine.verdicts).1 <;> rfl
  · rfl

def judge (options : Options) (callSite : CallSite) : Except Failure Unit :=
  if options.validateScopes then callSite.verdict.map fun _ => () else .ok ()

theorem judge_eq_ok_iff {options : Options} {callSite : CallSite} :
    judge options callSite = .ok () ↔
      (options.validateScopes = true → ∃ verdict, callSite.verdict = .ok verdict) := by
  unfold judge
  split
  · rename_i checked
    cases callSite.verdict <;> simp [checked, Except.map]
  · rename_i unchecked
    simp [unchecked]

theorem judge_congr {options : Options} {one other : CallSite}
    (location : one.site.location = other.site.location) (children : one.children = other.children)
    (passes : judge options one = .ok ()) : judge options other = .ok () := by
  refine judge_eq_ok_iff.2 fun checked => ?_
  obtain ⟨verdict, judged⟩ := judge_eq_ok_iff.1 passes checked
  exact CallSite.passes_congr location children judged

theorem judge_of_nowhere {options : Options} {callSite : CallSite}
    (unkept : callSite.site.location = .nowhere)
    (passes : ∀ child ∈ callSite.children, judge options child = .ok ()) :
    judge options callSite = .ok () := by
  refine judge_eq_ok_iff.2 fun checked => ?_
  obtain ⟨verdict, judged⟩ := CallSite.passes_verdictAll fun child member =>
    judge_eq_ok_iff.1 (passes child member) checked
  refine ⟨verdict, ?_⟩
  rw [CallSite.verdict_eq, judged]
  change callSite.site.verdict verdict = _
  unfold Site.verdict
  rw [unkept]

theorem Recalls.validateGraph (recalls : engine.Recalls host) (sound : engine.Sound)
    {callSite : CallSite} (held : engine.memo.Holds callSite) :
    Recalls host ((Engine.validateGraph callSite).run engine).2 ∧
      ((Engine.validateGraph callSite).run engine).2.memo = engine.memo ∧
      (engine.memo.Spoken host →
        ((Engine.validateGraph callSite).run engine).1 = judge engine.options callSite) := by
  obtain ⟨kept, found⟩ := recalls.check sound held
  rw [run_validateGraph, judge]
  split
  · exact ⟨kept, rfl, fun spoken => by rw [found spoken]⟩
  · exact ⟨recalls, rfl, fun _ => rfl⟩

def Recollects (host : Host) (engine later : Engine) : Prop :=
  engine.Sound ∧ engine.Recalls host → later.Sound ∧ later.Recalls host

theorem recollects_compositional : Compositional fun {_} action => Keeps (Recollects host) action :=
  keeps_compositional (fun _ state => state) fun _ _ _ first second state => second (first state)

theorem recollects_callSite (service : ServiceType) : Keeps (Recollects host) (callSite service) := by
  intro engine ⟨sound, recalls⟩
  refine ⟨(keeps_callSite service engine sound).1, ?_⟩
  rw [run_callSite]
  have lists : engine.blueprint.registry.Lists (.single service) := trivial
  exact recalls.build sound lists _

theorem recollects_realize (service : ServiceType) : Keeps (Recollects host) (realize service) := by
  intro engine ⟨sound, recalls⟩
  refine ⟨(keeps_realize service engine sound).1, ?_⟩
  rw [realize, run_get_bind]
  cases engine.published.lookup service with
  | some known => exact recalls
  | none =>
    dsimp only
    rw [run_bind]
    have next := recollects_callSite service engine ⟨sound, recalls⟩
    cases built : (callSite service).run engine with
    | mk result between =>
      obtain ⟨_, recorded⟩ := sound.callSite built
      rw [built] at next
      obtain ⟨sound, recalls⟩ := next
      cases result with
      | error failure => exact recalls
      | ok found =>
        cases found with
        | none => exact ⟨recalls.built, recalls.answered⟩
        | some callSite =>
          obtain ⟨kept, _⟩ := recalls.validateGraph sound (.inl ⟨_, recorded _ rfl⟩)
          dsimp only
          rw [run_bind]
          cases validated : (validateGraph callSite).run between with
          | mk checked after =>
            rw [validated] at kept
            cases checked with
            | error failure => exact kept
            | ok _ => exact ⟨kept.built, kept.answered⟩

theorem recollects_prepare (implementation : TypeInfo) (supplied : List ServiceType) :
    Keeps (Recollects host) (prepare implementation supplied) := by
  refine recollects_compositional.bind (fun _ state => state) fun engine => ?_
  refine recollects_compositional.select (fun constructor _ => ?_) _
  exact bindSupplied_of recollects_compositional.selective (fun _ _ => recollects_realize _) supplied

theorem run_validateResolution (callSite : CallSite) (fromRoot : Bool) (engine : Engine) :
    ((validateResolution callSite fromRoot).run engine).2 =
      if engine.options.validateScopes && fromRoot then
        { engine with verdicts := (callSite.checkLifetimes.run engine.verdicts).2 }
      else engine := by
  rw [validateResolution, run_get_bind]
  split
  · rw [run_bind, run_onVerdicts]
    cases (callSite.checkLifetimes.run engine.verdicts).1 with
    | error failure => rfl
    | ok found => cases found <;> rfl
  · rfl

theorem Asked.recollects {later : Engine} (asked : engine.Asked later) :
    Recollects host engine later := by
  intro ⟨sound, recalls⟩
  refine ⟨(asked.evolves sound).1, ?_⟩
  cases asked with
  | graph service => exact (recollects_callSite service engine ⟨sound, recalls⟩).2
  | realize service => exact (recollects_realize service engine ⟨sound, recalls⟩).2
  | prepare implementation supplied =>
    exact (recollects_prepare implementation supplied engine ⟨sound, recalls⟩).2
  | validate listed fromRoot =>
    rw [run_validateResolution]
    split
    · exact (recalls.check sound (sound.holds listed)).1
    · exact recalls
  | plan realization =>
    rw [run_nextPlan]
    cases engine.realizations[realization]? with
    | none => exact recalls
    | some listed => exact ⟨recalls.built, recalls.answered⟩

theorem Recalls.callSiteForDescriptor (recalls : engine.Recalls host) (sound : engine.Sound)
    (position : Nat) : Recalls host
      ((EngineAction.onMemo (engine.blueprint.callSiteForDescriptor position)).run engine).2 := by
  obtain absent | ⟨descriptor, registered, closed, builds⟩ :=
    engine.blueprint.callSiteForDescriptor_cases position
  · rw [absent]
    exact recalls
  · rw [builds]
    have lists : engine.blueprint.registry.Lists (.member descriptor.service position
        (engine.blueprint.registry.slotOf position)) :=
      Registry.mem_all_slotOf registered closed
    exact recalls.build sound lists _

namespace Learned

theorem recalls (learned : engine.Learned host) : engine.Recalls host :=
  ⟨learned.built, learned.answered⟩

theorem of_recalls (learned : engine.Learned host) {later : Engine}
    (same : later.blueprint = engine.blueprint) (recalls : later.Recalls host) :
    later.Learned host :=
  ⟨same ▸ learned.foreign, same ▸ learned.describes, recalls.built, recalls.answered⟩

theorem right (learned : engine.Learned host) (spoken : engine.memo.Spoken host) :
    engine.Right engine.blueprint host :=
  ⟨rfl, (learned.built.made learned.foreign learned.describes spoken).right learned.foreign⟩

theorem build (learned : engine.Learned host) (sound : engine.Sound) {target : Target}
    (lists : engine.blueprint.registry.Lists target) (fuel : Nat) :
    Learned host
      ((EngineAction.onMemo (engine.blueprint.buildWithin fuel [] target)).run engine).2 :=
  learned.of_recalls rfl (learned.recalls.build sound lists fuel)

theorem validateGraph (learned : engine.Learned host) (sound : engine.Sound)
    {callSite : CallSite} (held : engine.memo.Holds callSite) :
    Learned host ((Engine.validateGraph callSite).run engine).2 ∧
      ((Engine.validateGraph callSite).run engine).2.memo = engine.memo ∧
      (engine.memo.Spoken host →
        ((Engine.validateGraph callSite).run engine).1 = judge engine.options callSite) := by
  obtain ⟨recalls, kept, judged⟩ := learned.recalls.validateGraph sound held
  refine ⟨learned.of_recalls ?_ recalls, kept, judged⟩
  rw [run_validateGraph]
  split <;> rfl

end Learned

/-- The engine goes on to be sound and to remember only what it found out. -/
def Learns (host : Host) (engine later : Engine) : Prop :=
  engine.Sound ∧ engine.Learned host → later.Sound ∧ later.Learned host

theorem Asked.learns {later : Engine} (asked : engine.Asked later) :
    Learns host engine later := by
  intro ⟨sound, learned⟩
  obtain ⟨after, grown⟩ := asked.evolves sound
  exact ⟨after, learned.of_recalls grown.blueprint (asked.recollects ⟨sound, learned.recalls⟩).2⟩

theorem learned_fresh {blueprint : Blueprint} (foreign : blueprint.registry.Foreign)
    (describes : host.Describes blueprint) (options : Options) (observers : List Observer) :
    Learned host { blueprint, options, observers } :=
  ⟨foreign, describes, .refl, fun _ => Memo.answers_empty _⟩

end Engine

namespace World
variable {world later : World}

/-- What holds of a provider's engine, and is kept by whatever it is asked, holds at any later
time. -/
theorem Moves.engine_of {P : Engine → Prop} (moves : world.Moves later) {id : EngineId}
    (asked : ∀ engine after : Engine, P engine → engine.Asked after → P { after with outbox := [] })
    (inside : id < world.engines.length) (holds : P (world.engine id)) :
    id < later.engines.length ∧ P (later.engine id) := by
  induction moves with
  | refl => exact ⟨inside, holds⟩
  | @tail between last _ move ih =>
    obtain ⟨inside, holds⟩ := ih
    have prefixed : between.engines <+: last.engines →
        id < last.engines.length ∧ P (last.engine id) := by
      rintro ⟨added, engines⟩
      have same : last.engine id = between.engine id := by
        rw [engine, engine, ← engines, List.getD, List.getD, List.getElem?_append_left inside]
      rw [same, ← engines, List.length_append]
      exact ⟨Nat.lt_add_right _ inside, holds⟩
    cases move with
    | @ask other engine sound grown asks =>
      refine ⟨?_, ?_⟩
      · rw [withEngine, engines_sent]
        simpa [updateEngine] using inside
      · rw [engine_withEngine]
        split
        · rename_i here
          rw [here.1] at holds
          exact asked _ engine holds asks
        · exact holds
    | settle making opened => exact prefixed (by simp)
    | step events step grown _ _ => exact prefixed grown

end World
end ServiceContainer
