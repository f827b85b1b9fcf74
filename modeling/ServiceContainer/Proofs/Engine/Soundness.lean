import ServiceContainer.Proofs.Captive

/-! What an engine holds at any time: a sound memo, right answers about lifetimes, and realizations
that are the memo's answers, to be executed faithfully. Main statement: every action of an engine
keeps this, and only adds to the memo and to the realizations. -/
namespace ServiceContainer
open Stateful

theorem getElem?_mono {α : Type} {one other : List α} (grown : one <+: other) {place : Nat} {item : α}
    (listed : one[place]? = some item) : other[place]? = some item := by
  obtain ⟨more, rfl⟩ := grown
  rw [List.getElem?_append_left (List.getElem?_eq_some_iff.1 listed).1, listed]

inductive Plan.Follows (callSite : CallSite) : Plan → Prop where
  | interpret : Follows callSite (.interpret callSite)
  | execute : Follows callSite (.execute (Code.ofCallSite callSite))

def Accessor.Faithful (callSite : CallSite) : Accessor → Prop
  | .interpreted => True
  | .compiled code => code = Code.ofCallSite callSite
  | .adaptive _ code => ∀ finished ∈ code, finished = Code.ofCallSite callSite

theorem Accessor.Faithful.next {callSite : CallSite} {accessor : Accessor}
    (faithful : accessor.Faithful callSite) :
    (accessor.next callSite).1.Follows callSite ∧ (accessor.next callSite).2.Faithful callSite := by
  cases accessor with
  | interpreted => exact ⟨.interpret, trivial⟩
  | compiled code =>
    have same : code = Code.ofCallSite callSite := faithful
    subst same
    exact ⟨.execute, rfl⟩
  | adaptive calls code =>
    cases code with
    | some code =>
      have same : code = Code.ofCallSite callSite := faithful code rfl
      subst same
      exact ⟨.execute, faithful⟩
    | none =>
      cases calls with
      | zero => exact ⟨.interpret, faithful⟩
      | succ calls => exact ⟨.execute, by simp [Accessor.next, Faithful]⟩

theorem Engine.firstAccessor_faithful (callSite : CallSite) (mode : Mode) :
    (Engine.firstAccessor callSite mode).Faithful callSite := by
  cases mode <;> simp [Engine.firstAccessor, Accessor.Faithful]

namespace Engine

/-- The engine's memo and its answers about lifetimes are sound, and its realizations are the memo's
graphs, checked and to be executed faithfully. -/
structure Sound (engine : Engine) : Prop where
  memo : Memo.Sound engine.blueprint engine.memo
  provided : ∀ service number, engine.published.lookup service = some (some number) →
    ∃ realization, engine.realizations[number]? = some realization ∧
      engine.memo.lookup ⟨service, 0⟩ = some (some realization.callSite)
  unprovided : ∀ service, engine.published.lookup service = some none →
    engine.memo.lookup ⟨service, 0⟩ = some none
  realized : ∀ realization ∈ engine.realizations,
    ∃ service, engine.memo.lookup ⟨service, 0⟩ = some (some realization.callSite)
  faithful : ∀ realization ∈ engine.realizations,
    realization.accessor.Faithful realization.callSite
  backed : engine.memo.Lawful → engine.memo.Backs engine.verdicts
  /-- With lifetime checks on, the singletons of realized graphs need no scoped services. -/
  sheltered : engine.options.validateScopes = true → engine.memo.Lawful →
    ∀ realization ∈ engine.realizations, realization.callSite.Sheltered

structure Extends (engine later : Engine) : Prop where
  blueprint : later.blueprint = engine.blueprint
  options : later.options = engine.options
  observers : later.observers = engine.observers
  memo : engine.memo.Grows later.memo
  realizations :
    engine.realizations.map (·.callSite) <+: later.realizations.map (·.callSite)

def Evolves (engine later : Engine) : Prop := engine.Sound → later.Sound ∧ engine.Extends later

theorem Extends.refl (engine : Engine) : engine.Extends engine :=
  ⟨rfl, rfl, rfl, .refl _, List.prefix_rfl⟩

theorem Extends.trans {engine later last : Engine} (first : engine.Extends later)
    (second : later.Extends last) : engine.Extends last where
  blueprint := second.blueprint.trans first.blueprint
  options := second.options.trans first.options
  observers := second.observers.trans first.observers
  memo := first.memo.trans second.memo
  realizations := first.realizations.trans second.realizations

theorem Evolves.refl (engine : Engine) : engine.Evolves engine := fun sound => ⟨sound, .refl engine⟩

theorem Evolves.trans {engine later last : Engine} (first : engine.Evolves later)
    (second : later.Evolves last) : engine.Evolves last := by
  intro sound
  obtain ⟨between, grown⟩ := first sound
  obtain ⟨after, further⟩ := second between
  exact ⟨after, grown.trans further⟩

theorem evolves_compositional : Compositional fun {_} action => Keeps Evolves action :=
  keeps_compositional Evolves.refl fun _ _ _ => Evolves.trans

theorem Sound.holds {engine : Engine} (sound : engine.Sound) {realization : Realization}
    (member : realization ∈ engine.realizations) : engine.memo.Holds realization.callSite := by
  obtain ⟨service, known⟩ := sound.realized realization member
  exact .inl ⟨_, known⟩

theorem sound_fresh (blueprint : Blueprint) (options : Options) (observers : List Observer) :
    Sound { blueprint, options, observers } where
  memo := Memo.sound_empty blueprint
  provided service number known := by cases known
  unprovided service known := by cases known
  realized realization member := by cases member
  faithful realization member := by cases member
  backed _ := Memo.backs_empty _
  sheltered _ _ realization member := by cases member

theorem Sound.withMemo {engine : Engine} {later : Memo} (sound : engine.Sound)
    (evolves : Memo.Evolves engine.blueprint [] engine.memo later) :
    Sound { engine with memo := later } ∧ engine.Extends { engine with memo := later } := by
  refine ⟨⟨evolves.sound, ?_, ?_, ?_, sound.faithful, ?_, ?_⟩,
    ⟨rfl, rfl, rfl, evolves.grows, List.prefix_rfl⟩⟩
  · intro service number known
    obtain ⟨realization, listed, answered⟩ := sound.provided service number known
    exact ⟨realization, listed, evolves.grows _ _ answered⟩
  · exact fun service known => evolves.grows _ _ (sound.unprovided service known)
  · intro realization member
    obtain ⟨service, known⟩ := sound.realized realization member
    exact ⟨service, evolves.grows _ _ known⟩
  · exact fun lawful => (sound.backed (lawful.of_grows evolves.grows)).mono evolves.grows
  · exact fun on lawful => sound.sheltered on (lawful.of_grows evolves.grows)

theorem run_onVerdicts (check : Check α) (engine : Engine) :
    (EngineAction.onVerdicts check).run engine =
      ((check.run engine.verdicts).1,
        { engine with verdicts := (check.run engine.verdicts).2 }) := rfl

/-- A held graph is checked: the answer is right, and is remembered. -/
theorem Sound.checkLifetimes {engine later : Engine} (sound : engine.Sound) {callSite : CallSite}
    (held : engine.memo.Holds callSite) {result : Except Failure (Option String)}
    (h : (EngineAction.onVerdicts callSite.checkLifetimes).run engine = (result, later)) :
    (later.Sound ∧ engine.Extends later) ∧
      ∀ verdict, result = .ok verdict → engine.memo.Lawful → Memo.Judges callSite verdict := by
  rw [run_onVerdicts] at h
  cases checked : callSite.checkLifetimes.run engine.verdicts with
  | mk outcome verdicts =>
    rw [checked] at h
    cases h
    have checks := fun lawful => Memo.checks_checkLifetimes sound.memo lawful callSite held
      engine.verdicts (sound.backed lawful) outcome verdicts checked
    refine ⟨⟨?_, ⟨rfl, rfl, rfl, .refl _, List.prefix_rfl⟩⟩, ?_⟩
    · exact { sound with backed := fun lawful => (checks lawful).1 }
    · exact fun verdict judged lawful => (checks lawful).2 verdict judged

theorem validateGraph_of {allowed : Engine → Engine → Prop}
    (closed : Compositional fun {_} action => Keeps allowed action)
    (refl : ∀ engine, allowed engine engine)
    (checks : ∀ check : Check (Option String), Keeps allowed (EngineAction.onVerdicts check))
    (callSite : CallSite) : Keeps allowed (validateGraph callSite) := by
  refine closed.bind (fun engine => refl engine) fun engine => ?_
  split
  · exact closed.bind (checks _) fun _ => closed.pure _
  · exact closed.pure _

/-- A graph that is not refused is sheltered, if the checks are on. -/
theorem Sound.validateGraph {engine later : Engine} (sound : engine.Sound) {callSite : CallSite}
    (held : engine.memo.Holds callSite) {result : Except Failure Unit}
    (h : (validateGraph callSite).run engine = (result, later)) :
    (later.Sound ∧ engine.Extends later) ∧
      (result = .ok () → engine.options.validateScopes = true → engine.memo.Lawful →
        callSite.Sheltered) := by
  rw [Engine.validateGraph, run_get_bind] at h
  split at h
  · obtain ⟨verdict, between, checked, h⟩ | ⟨failure, checked, rfl⟩ := run_bind_eq h
    · obtain ⟨kept, judges⟩ := sound.checkLifetimes held checked
      cases h
      exact ⟨kept, fun _ _ lawful => (judges verdict rfl lawful).1⟩
    · exact ⟨(sound.checkLifetimes held checked).1, by rintro ⟨⟩⟩
  · rename_i off
    cases h
    exact ⟨⟨sound, .refl engine⟩, fun _ on => absurd on off⟩

/-- A graph that may be resolved from the root does not need a scoped service there, if the checks
are on. -/
theorem Sound.validateResolution {engine later : Engine} (sound : engine.Sound)
    {callSite : CallSite} (held : engine.memo.Holds callSite) {fromRoot : Bool}
    {result : Except Failure Unit}
    (h : (validateResolution callSite fromRoot).run engine = (result, later)) :
    (later.Sound ∧ engine.Extends later) ∧
      (result = .ok () → engine.options.validateScopes = true → fromRoot = true →
        engine.memo.Lawful → ¬callSite.Exposed) := by
  rw [Engine.validateResolution, run_get_bind] at h
  split at h
  · obtain ⟨verdict, between, checked, h⟩ | ⟨failure, checked, rfl⟩ := run_bind_eq h
    · obtain ⟨kept, judges⟩ := sound.checkLifetimes held checked
      cases verdict with
      | some dependency =>
        cases h
        exact ⟨kept, by rintro ⟨⟩⟩
      | none =>
        cases h
        exact ⟨kept, fun _ _ _ lawful => (judges none rfl lawful).2 rfl⟩
    · exact ⟨(sound.checkLifetimes held checked).1, by rintro ⟨⟩⟩
  · rename_i off
    cases h
    refine ⟨⟨sound, .refl engine⟩, fun _ on fromRoot => absurd ?_ off⟩
    rw [on, fromRoot]
    rfl

theorem run_onMemo {engine : Engine} {build : Build α} {result : Except Failure α} {later : Memo}
    (h : build.run engine.memo = (result, later)) :
    (EngineAction.onMemo build).run engine = (result, { engine with memo := later }) := by
  change ((build.run engine.memo).1, { engine with memo := (build.run engine.memo).2 }) = _
  rw [h]

theorem run_callSite (service : ServiceType) (engine : Engine) :
    (callSite service).run engine =
      (EngineAction.onMemo (engine.blueprint.callSite service)).run engine :=
  run_get_bind _ engine

theorem run_callSite_of_known {engine : Engine} {service : ServiceType} {found : Option CallSite}
    (known : engine.memo.lookup ⟨service, 0⟩ = some found) :
    (callSite service).run engine = (.ok found, engine) := by
  have answered : (engine.blueprint.callSite service).run engine.memo = (.ok found, engine.memo) := by
    have recorded : engine.memo.lookup (Target.single service).key = some found := known
    rw [Blueprint.callSite, Blueprint.run_buildWithin, recorded]
  rw [run_callSite, run_onMemo answered]

theorem Sound.buildWithin {engine later : Engine} (sound : engine.Sound) {target : Target}
    (lists : engine.blueprint.registry.Lists target) {fuel : Nat}
    {result : Except Failure (Option CallSite)}
    (h : (EngineAction.onMemo (engine.blueprint.buildWithin fuel [] target)).run engine =
      (result, later)) :
    (later.Sound ∧ engine.Extends later) ∧
      ∀ found, result = .ok found → later.memo.Records target found := by
  have explores : engine.blueprint.Explores [] (engine.blueprint.buildWithin fuel []) :=
    Blueprint.explores_buildWithin fuel []
  cases built : (engine.blueprint.buildWithin fuel [] target).run engine.memo with
  | mk outcome memo =>
    obtain ⟨evolves, recorded⟩ := explores target lists engine.memo sound.memo outcome memo built
    rw [run_onMemo built] at h
    cases h
    exact ⟨sound.withMemo evolves, recorded⟩

theorem Sound.callSite {engine later : Engine} (sound : engine.Sound) {service : ServiceType}
    {result : Except Failure (Option CallSite)}
    (h : (callSite service).run engine = (result, later)) :
    (later.Sound ∧ engine.Extends later) ∧
      ∀ found, result = .ok found → later.memo.lookup ⟨service, 0⟩ = some found := by
  rw [run_callSite] at h
  have lists : engine.blueprint.registry.Lists (.single service) := trivial
  exact sound.buildWithin lists h

theorem keeps_callSite (service : ServiceType) : Keeps Evolves (callSite service) := by
  intro engine sound
  cases built : (callSite service).run engine with
  | mk result later => exact (sound.callSite built).1

theorem Sound.callSiteForDescriptor {engine later : Engine} (sound : engine.Sound) {position : Nat}
    {result : Except Failure (Option CallSite)}
    (h : (EngineAction.onMemo (engine.blueprint.callSiteForDescriptor position)).run engine =
      (result, later)) :
    (later.Sound ∧ engine.Extends later) ∧
      ∀ callSite, result = .ok (some callSite) → later.memo.Holds callSite := by
  obtain absent | ⟨descriptor, registered, closed, builds⟩ :=
    engine.blueprint.callSiteForDescriptor_cases position
  · rw [absent] at h
    cases h
    exact ⟨⟨sound, .refl engine⟩, by rintro _ ⟨⟩⟩
  · rw [builds] at h
    have lists : engine.blueprint.registry.Lists (.member descriptor.service position
        (engine.blueprint.registry.slotOf position)) :=
      Registry.mem_all_slotOf registered closed
    obtain ⟨kept, recorded⟩ := sound.buildWithin lists h
    exact ⟨kept, fun callSite built => .inl ⟨_, recorded _ built⟩⟩

theorem keeps_validateDescriptor (position : Nat) :
    Keeps Evolves (validateDescriptor position) := by
  intro engine sound
  cases h : (validateDescriptor position).run engine with
  | mk result last =>
    rw [validateDescriptor, run_get_bind] at h
    obtain ⟨found, later, built, h⟩ | ⟨failure, built, rfl⟩ := run_bind_eq h
    · obtain ⟨⟨kept, grown⟩, holds⟩ := sound.callSiteForDescriptor built
      cases found with
      | none =>
        cases h
        exact ⟨kept, grown⟩
      | some callSite =>
        obtain ⟨⟨after, further⟩, _⟩ := kept.validateGraph (holds callSite rfl) h
        exact ⟨after, grown.trans further⟩
    · exact (sound.callSiteForDescriptor built).1

theorem run_collectFailures (position remaining : Nat) (engine : Engine) :
    (collectFailures position (remaining + 1)).run engine =
      let checked := (validateDescriptor position).run engine
      let others := (collectFailures (position + 1) remaining).run checked.2
      (match checked.1 with
        | .ok _ => others.1
        | .error failure => failure :: others.1, others.2) := by
  rw [collectFailures, StateT.run_bind]
  cases ended : (validateDescriptor position).run engine with
  | mk checked later =>
    have first : StateT.run (validateDescriptor position).run engine = (checked, later) := ended
    rw [first]
    cases checked <;> rfl

theorem keeps_collectFailures (position remaining : Nat) :
    ∀ engine : Engine, engine.Evolves ((collectFailures position remaining).run engine).2 := by
  induction remaining generalizing position with
  | zero => exact fun engine => .refl engine
  | succ remaining ih =>
    intro engine
    have checked := keeps_validateDescriptor position engine
    have others := ih (position + 1) ((validateDescriptor position).run engine).2
    rw [run_collectFailures]
    exact checked.trans others

theorem Sound.withRealization {engine : Engine} (sound : engine.Sound) {service : ServiceType}
    {callSite : CallSite} (answered : engine.memo.lookup ⟨service, 0⟩ = some (some callSite))
    (checked : engine.options.validateScopes = true → engine.memo.Lawful → callSite.Sheltered) :
    (engine.withRealization service callSite).Sound ∧
      engine.Extends (engine.withRealization service callSite) := by
  refine ⟨⟨sound.memo, ?_, ?_, ?_, ?_, sound.backed, ?_⟩, ⟨rfl, rfl, rfl, .refl _, ?_⟩⟩
  · intro other number known
    change (engine.published.insert service _).lookup other = _ at known
    rw [Table.lookup_insert] at known
    split at known
    · rename_i same
      cases known
      refine ⟨_, List.getElem?_concat_length, ?_⟩
      have congruent : ((⟨service, 0⟩ : CacheKey) == ⟨other, 0⟩) = true :=
        CacheKey.beq_iff.2 ⟨same, rfl⟩
      exact (engine.memo.lookup_congr congruent).symm.trans answered
    · obtain ⟨realization, listed, recorded⟩ := sound.provided other number known
      exact ⟨realization, getElem?_mono (List.prefix_append ..) listed, recorded⟩
  · intro other known
    change (engine.published.insert service _).lookup other = _ at known
    rw [Table.lookup_insert] at known
    split at known
    · cases known
    · exact sound.unprovided other known
  · intro realization member
    obtain earlier | new := List.mem_append.1 member
    · exact sound.realized realization earlier
    · cases List.mem_singleton.1 new
      exact ⟨service, answered⟩
  · intro realization member
    obtain earlier | new := List.mem_append.1 member
    · exact sound.faithful realization earlier
    · cases List.mem_singleton.1 new
      exact firstAccessor_faithful callSite _
  · intro on lawful realization member
    obtain earlier | new := List.mem_append.1 member
    · exact sound.sheltered on lawful realization earlier
    · cases List.mem_singleton.1 new
      exact checked on lawful
  · simp [Engine.withRealization]

theorem Sound.withAbsence {engine : Engine} (sound : engine.Sound) {service : ServiceType}
    (answered : engine.memo.lookup ⟨service, 0⟩ = some none) :
    Sound { engine with published := engine.published.insert service none } ∧
      engine.Extends { engine with published := engine.published.insert service none } := by
  refine ⟨{ sound with provided := ?_, unprovided := ?_ },
    ⟨rfl, rfl, rfl, .refl _, List.prefix_rfl⟩⟩
  · intro other number known
    change (engine.published.insert service none).lookup other = _ at known
    rw [Table.lookup_insert] at known
    split at known
    · cases known
    · exact sound.provided other number known
  · intro other known
    change (engine.published.insert service none).lookup other = _ at known
    rw [Table.lookup_insert] at known
    split at known
    · rename_i same
      have congruent : ((⟨service, 0⟩ : CacheKey) == ⟨other, 0⟩) = true :=
        CacheKey.beq_iff.2 ⟨same, rfl⟩
      exact (engine.memo.lookup_congr congruent).symm.trans answered
    · exact sound.unprovided other known

theorem Sound.realize {engine later : Engine} (sound : engine.Sound) {service : ServiceType}
    {result : Except Failure (Option Nat)} (h : (realize service).run engine = (result, later)) :
    (later.Sound ∧ engine.Extends later) ∧
      ∀ found, result = .ok found → later.published.lookup service = some found := by
  rw [Engine.realize, run_get_bind] at h
  cases known : engine.published.lookup service with
  | some found =>
    simp only [known] at h
    cases h
    refine ⟨⟨sound, .refl engine⟩, ?_⟩
    rintro _ ⟨⟩
    exact known
  | none =>
    simp only [known] at h
    obtain ⟨found, between, built, h⟩ | ⟨failure, built, rfl⟩ := run_bind_eq h
    · obtain ⟨⟨kept, grown⟩, recorded⟩ := sound.callSite built
      have answered := recorded found rfl
      cases found with
      | none =>
        cases h
        obtain ⟨last, added⟩ := kept.withAbsence answered
        refine ⟨⟨last, grown.trans added⟩, ?_⟩
        rintro _ ⟨⟩
        exact (Table.lookup_insert ..).trans (if_pos BEq.rfl)
      | some callSite =>
        have held : between.memo.Holds callSite := .inl ⟨_, answered⟩
        obtain ⟨_, checked, validated, h⟩ | ⟨failure, validated, rfl⟩ := run_bind_eq h
        · obtain ⟨⟨after, further⟩, sheltered⟩ := kept.validateGraph held validated
          cases h
          obtain ⟨last, added⟩ := after.withRealization (further.memo _ _ answered)
            fun on lawful => sheltered rfl (further.options ▸ on) (lawful.of_grows further.memo)
          refine ⟨⟨last, (grown.trans further).trans added⟩, ?_⟩
          rintro _ ⟨⟩
          exact (Table.lookup_insert ..).trans (if_pos BEq.rfl)
        · obtain ⟨⟨after, further⟩, _⟩ := kept.validateGraph held validated
          exact ⟨⟨after, grown.trans further⟩, by rintro _ ⟨⟩⟩
    · exact ⟨(sound.callSite built).1, by rintro _ ⟨⟩⟩

theorem keeps_realize (service : ServiceType) : Keeps Evolves (realize service) := by
  intro engine sound
  cases realized : (realize service).run engine with
  | mk result later => exact (sound.realize realized).1

theorem set_same {items : List α} {place : Nat} {item : α} (listed : items[place]? = some item) :
    items.set place item = items := by
  obtain ⟨inside, rfl⟩ := List.getElem?_eq_some_iff.1 listed
  exact List.set_getElem_self inside

theorem run_nextPlan (id : Nat) (engine : Engine) :
    (nextPlan id).run engine =
      match engine.realizations[id]? with
      | none => (none, engine)
      | some realization =>
        let (plan, accessor) := realization.accessor.next realization.callSite
        (some plan,
          { engine with
            realizations := engine.realizations.set id { realization with accessor } }) := by
  change ((match engine.realizations[id]? with
    | none => (pure none : StateM Engine (Option Plan))
    | some realization => do
      let (plan, accessor) := realization.accessor.next realization.callSite
      modify fun engine : Engine =>
        { engine with realizations := engine.realizations.set id { realization with accessor } }
      pure (some plan)).run engine) = _
  cases engine.realizations[id]? with
  | none => rfl
  | some realization => rfl

/-- The plan for a realization follows its graph; the graph stays as it is. -/
theorem Sound.nextPlan {engine : Engine} (sound : engine.Sound) (id : Nat) :
    (((nextPlan id).run engine).2.Sound ∧ engine.Extends ((nextPlan id).run engine).2) ∧
      ∀ plan, ((nextPlan id).run engine).1 = some plan →
        ∃ realization, engine.realizations[id]? = some realization ∧
          plan.Follows realization.callSite := by
  rw [run_nextPlan]
  cases listed : engine.realizations[id]? with
  | none => exact ⟨⟨sound, .refl engine⟩, by rintro _ ⟨⟩⟩
  | some realization =>
    have member := List.mem_of_getElem? listed
    have next := (sound.faithful realization member).next
    dsimp only
    generalize renewed : ({ realization with
      accessor := (realization.accessor.next realization.callSite).2 } : Realization) = later
    have kept : later.callSite = realization.callSite := by rw [← renewed]
    have faithful : later.accessor.Faithful later.callSite := by
      rw [← renewed]
      exact next.2
    have same : (engine.realizations.set id later).map (·.callSite) =
        engine.realizations.map (·.callSite) := by
      rw [List.map_set, kept]
      exact set_same (by simp [listed])
    refine ⟨⟨⟨sound.memo, ?_, sound.unprovided, ?_, ?_, sound.backed, ?_⟩,
      ⟨rfl, rfl, rfl, .refl _, ?_⟩⟩, ?_⟩
    · intro service number known
      obtain ⟨found, place, recorded⟩ := sound.provided service number known
      have renewed := congrArg (·[number]?) same
      simp only [List.getElem?_map, place, Option.map_some, Option.map_eq_some_iff] at renewed
      obtain ⟨other, place, unchanged⟩ := renewed
      exact ⟨other, place, unchanged ▸ recorded⟩
    · intro other changed
      obtain earlier | rfl := List.mem_or_eq_of_mem_set changed
      · exact sound.realized other earlier
      · rw [kept]
        exact sound.realized realization member
    · intro other changed
      obtain earlier | rfl := List.mem_or_eq_of_mem_set changed
      · exact sound.faithful other earlier
      · exact faithful
    · intro on lawful other changed
      obtain earlier | rfl := List.mem_or_eq_of_mem_set changed
      · exact sound.sheltered on lawful other earlier
      · rw [kept]
        exact sound.sheltered on lawful realization member
    · exact same ▸ List.prefix_rfl
    · rintro plan ⟨⟩
      exact ⟨realization, rfl, next.1⟩

section Sources
variable {P : ∀ {α : Type}, EngineAction α → Prop}

theorem sourceOf_of (closed : Selective P) {parameter : Parameter}
    (realized : P (realize parameter.service)) (supplied : List ServiceType) (used : List Nat) :
    P (sourceOf supplied used parameter) := by
  unfold sourceOf
  cases firstUnused supplied used parameter.service with
  | some position => exact closed.pure _
  | none => exact closed.bind realized fun _ => closed.pure _

theorem bindSources_of (closed : Selective P) {parameters : List Parameter}
    (realized : ∀ parameter ∈ parameters, P (realize parameter.service))
    (supplied : List ServiceType) (used : List Nat) : P (bindSources supplied used parameters) := by
  induction parameters generalizing used with
  | nil => exact closed.pure _
  | cons parameter rest ih =>
    rw [bindSources]
    refine closed.bind (sourceOf_of closed (realized parameter List.mem_cons_self) supplied used)
      fun found => ?_
    obtain ⟨source, used⟩ := found
    cases source with
    | none => exact closed.pure _
    | some source =>
      refine closed.bind (ih (fun other member => realized other (List.mem_cons_of_mem _ member)) used)
        fun binding => ?_
      cases binding <;> exact closed.pure _

theorem bindSupplied_of (closed : Selective P) {constructor : Constructor}
    (realized : ∀ parameter ∈ constructor.parameters, P (realize parameter.service))
    (supplied : List ServiceType) : P (bindSupplied supplied constructor) := by
  refine closed.bind (bindSources_of closed realized supplied []) fun binding => ?_
  cases binding with
  | missing service => exact closed.pure _
  | bound result =>
    dsimp only
    split <;> exact closed.pure _

end Sources

theorem keeps_prepare (implementation : TypeInfo) (supplied : List ServiceType) :
    Keeps Evolves (prepare implementation supplied) := by
  refine evolves_compositional.bind (fun engine => .refl engine) fun engine => ?_
  refine evolves_compositional.select (fun constructor _ => ?_) _
  exact bindSupplied_of evolves_compositional.selective (fun _ _ => keeps_realize _) supplied

theorem keeps_validateDescriptors : Keeps Evolves validateDescriptors := by
  refine evolves_compositional.bind (fun engine => .refl engine) fun engine => ?_
  refine evolves_compositional.bind ?_ fun failures => ?_
  · exact keeps_collectFailures 0 _
  · split
    · exact evolves_compositional.pure _
    · exact evolves_compositional.throw _

theorem sound_of_build {blueprint : Blueprint} {options : Options} {observers : List Observer}
    {engine : Engine} (h : build blueprint options observers = .ok engine) :
    engine.Sound ∧ Extends { blueprint, options, observers } engine := by
  have fresh := sound_fresh blueprint options observers
  unfold build at h
  split at h
  · have validated := keeps_validateDescriptors _ fresh
    dsimp only at h
    cases ended : validateDescriptors.run { blueprint, options, observers } with
    | mk result later =>
      rw [ended] at h validated
      cases result with
      | error failure => cases h
      | ok _ =>
        cases h
        exact validated
  · cases h
    exact ⟨fresh, .refl _⟩

end Engine
end ServiceContainer
