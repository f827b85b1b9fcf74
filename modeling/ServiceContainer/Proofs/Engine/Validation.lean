import ServiceContainer.Proofs.Engine.Validity
import ServiceContainer.Proofs.Strategies

/-! Validation of the registrations when a provider is built. Main statement: a build fails if and
only if some registration would fail alone, with just these failures; and if it succeeds, no service
that is plainly registered, nor the collection of its registrations, ever fails to be realized. -/
namespace ServiceContainer
open Stateful

/-- The registration at the position is no open definition, and fails on its own: with nothing built
and nothing checked before, its graph cannot be built, or has a singleton in it that would keep a
scoped service, if lifetimes are checked. -/
inductive Blueprint.Fails (blueprint : Blueprint) (options : Options) (position : Nat) :
    Failure → Prop where
  | graph {descriptor : Descriptor} {failure : Failure}
      (registered : blueprint.registry.descriptors[position]? = some descriptor)
      (closed : descriptor.isOpenGeneric = false)
      (failed : ((blueprint.callSiteForDescriptor position).run {}).1 = .error failure) :
      Fails blueprint options position failure
  | capture {descriptor : Descriptor} {callSite : CallSite} {singleton dependency : String}
      (registered : blueprint.registry.descriptors[position]? = some descriptor)
      (closed : descriptor.isOpenGeneric = false) (checked : options.validateScopes = true)
      (built : ((blueprint.callSiteForDescriptor position).run {}).1 = .ok (some callSite))
      (captive : (callSite.checkLifetimes.run {}).1 =
        .error (.invalidLifetimeCapture singleton dependency)) :
      Fails blueprint options position (.invalidLifetimeCapture singleton dependency)

namespace Engine

structure Knows (host : Host) (blueprint : Blueprint) (options : Options) (engine : Engine) :
    Prop where
  sound : engine.Sound
  learned : engine.Learned host
  same : engine.blueprint = blueprint
  chosen : engine.options = options

variable {host : Host} {blueprint : Blueprint} {options : Options} {engine : Engine}

theorem knows_fresh (foreign : blueprint.registry.Foreign) (describes : host.Describes blueprint)
    (options : Options) (observers : List Observer) :
    Knows host blueprint options { blueprint, options, observers } :=
  ⟨sound_fresh .., learned_fresh foreign describes .., rfl, rfl⟩

namespace Knows

theorem asked {later : Engine} (knows : engine.Knows host blueprint options)
    (asked : engine.Asked later) : later.Knows host blueprint options := by
  obtain ⟨sound, grown⟩ := asked.evolves knows.sound
  exact ⟨sound, (asked.learns ⟨knows.sound, knows.learned⟩).2, grown.blueprint.trans knows.same,
    grown.options.trans knows.chosen⟩

theorem sent (knows : engine.Knows host blueprint options) :
    Knows host blueprint options { engine with outbox := [] } :=
  ⟨{ knows.sound with }, { knows.learned with }, knows.same, knows.chosen⟩

theorem run_buildWithin (knows : engine.Knows host blueprint options)
    (spoken : engine.memo.Spoken host) {root : ServiceType} {target : Target}
    (leads : blueprint.Leads host root [] target) :
    ∃ later, (EngineAction.onMemo
        (blueprint.buildWithin (blueprint.chainBound root) [] target)).run engine =
          (blueprint.buildFresh (blueprint.chainBound root) [] target, later) ∧
      later.Knows host blueprint options ∧ later.memo.Spoken host ∧
      ∀ callSite, blueprint.buildFresh (blueprint.chainBound root) [] target = .ok (some callSite) →
        later.memo.Holds callSite := by
  obtain ⟨sound, learned, rfl, chosen⟩ := knows
  obtain ⟨memo, built, _⟩ :=
    leads.run_root learned.foreign learned.describes (learned.right spoken).memo
  have ended := run_onMemo built
  obtain ⟨⟨after, grown⟩, recorded⟩ := sound.buildWithin leads.proper.lists ended
  have next := learned.build sound leads.proper.lists (engine.blueprint.chainBound root)
  have describes := sound.spoken_build learned.describes spoken leads.proper
    (engine.blueprint.chainBound root)
  rw [ended] at next describes
  exact ⟨_, ended, ⟨after, next, rfl, chosen⟩, describes,
    fun callSite made => .inl ⟨_, recorded _ made⟩⟩

theorem validateGraph (knows : engine.Knows host blueprint options)
    (spoken : engine.memo.Spoken host) {callSite : CallSite} (held : engine.memo.Holds callSite) :
    ∃ later, (Engine.validateGraph callSite).run engine = (judge options callSite, later) ∧
      later.Knows host blueprint options ∧ later.memo.Spoken host := by
  obtain ⟨learned, kept, judged⟩ := knows.learned.validateGraph knows.sound held
  cases validated : (Engine.validateGraph callSite).run engine with
  | mk result later =>
    obtain ⟨⟨sound, grown⟩, _⟩ := knows.sound.validateGraph held validated
    rw [validated] at learned kept judged
    change later.memo = engine.memo at kept
    refine ⟨later, ?_, ⟨sound, learned, grown.blueprint.trans knows.same,
      grown.options.trans knows.chosen⟩, kept ▸ spoken⟩
    rw [← knows.chosen, ← judged spoken]

theorem realize (knows : engine.Knows host blueprint options) (spoken : engine.memo.Spoken host)
    {service : ServiceType} (speaks : host.Speaks service)
    (passes : blueprint.Passes options (.single service)) :
    ∃ found, ((Engine.realize service).run engine).1 = .ok found := by
  rw [Engine.realize, run_get_bind]
  cases engine.published.lookup service with
  | some known => exact ⟨known, rfl⟩
  | none =>
    obtain ⟨found, builds, judged⟩ := passes
    have leads : blueprint.Leads host service [] (.single service) :=
      Blueprint.leads_single speaks
    obtain ⟨later, ended, learned, described, held⟩ := knows.run_buildWithin spoken leads
    rw [leads.buildFresh_root (knows.same ▸ knows.learned.foreign)
      (knows.same ▸ knows.learned.describes) builds] at ended held
    have asked : (Engine.callSite service).run engine = (.ok found, later) := by
      rw [run_callSite, knows.same]
      exact ended
    dsimp only
    rw [run_bind, asked]
    cases found with
    | none => exact ⟨none, rfl⟩
    | some callSite =>
      obtain ⟨after, validated, _⟩ := learned.validateGraph described (held callSite rfl)
      dsimp only
      rw [run_bind, validated, judged callSite rfl]
      exact ⟨_, rfl⟩

end Knows

def verify (blueprint : Blueprint) (options : Options) (position : Nat) : Except Failure Unit :=
  match blueprint.registry.descriptors[position]? with
  | none => .ok ()
  | some descriptor =>
    if descriptor.isOpenGeneric then .ok ()
    else
      let target : Target :=
        .member descriptor.service position (blueprint.registry.slotOf position)
      match blueprint.buildFresh (blueprint.chainBound descriptor.service) [] target with
      | .error failure => .error failure
      | .ok none => .ok ()
      | .ok (some callSite) => judge options callSite

/-- The check of a registration finds the same, whatever was checked before. -/
theorem Knows.validateDescriptor (knows : engine.Knows host blueprint options)
    (spoken : engine.memo.Spoken host) (position : Nat) :
    ∃ later, (Engine.validateDescriptor position).run engine =
        (verify blueprint options position, later) ∧
      later.Knows host blueprint options ∧ later.memo.Spoken host := by
  rw [Engine.validateDescriptor, run_get_bind, run_bind, knows.same,
    Blueprint.callSiteForDescriptor, verify]
  cases registered : blueprint.registry.descriptors[position]? with
  | none => exact ⟨engine, rfl, knows, spoken⟩
  | some descriptor =>
    by_cases opened : descriptor.isOpenGeneric = true
    · simp only [opened, if_true]
      exact ⟨engine, rfl, knows, spoken⟩
    · have closed : descriptor.isOpenGeneric = false := Bool.not_eq_true _ ▸ opened
      have leads := Blueprint.leads_member (knows.same ▸ knows.learned.describes) registered closed
      obtain ⟨later, ended, learned, described, held⟩ := knows.run_buildWithin spoken leads
      simp only [closed, Bool.false_eq_true, if_false, ended]
      cases built : blueprint.buildFresh (blueprint.chainBound descriptor.service) []
          (.member descriptor.service position (blueprint.registry.slotOf position)) with
      | error failure => exact ⟨later, rfl, learned, described⟩
      | ok found =>
        cases found with
        | none => exact ⟨later, rfl, learned, described⟩
        | some callSite => exact learned.validateGraph described (held callSite built)

theorem valid_of_verify (verified : ∀ position, verify blueprint options position = .ok ()) :
    blueprint.Valid options := by
  intro position descriptor registered closed
  have found := verified position
  simp only [verify, registered, closed, Bool.false_eq_true, if_false] at found
  cases built : blueprint.buildFresh (blueprint.chainBound descriptor.service) []
      (.member descriptor.service position (blueprint.registry.slotOf position)) with
  | error failure =>
    rw [built] at found
    cases found
  | ok graph =>
    refine ⟨graph, Blueprint.builds_of_buildFresh built, ?_⟩
    rintro callSite rfl
    rw [built] at found
    exact found

/-- How the registration at a position fails on its own, when a new engine checks it alone. -/
def failure? (blueprint : Blueprint) (options : Options) (observers : List Observer)
    (position : Nat) : Option Failure :=
  match ((Engine.validateDescriptor position).run { blueprint, options, observers }).1 with
  | .ok _ => none
  | .error failure => some failure

section Checks
variable (foreign : blueprint.registry.Foreign) (describes : host.Describes blueprint)
  (observers : List Observer)
include foreign describes

theorem failure?_eq (options : Options) (position : Nat) :
    failure? blueprint options observers position =
      match verify blueprint options position with
      | .ok _ => none
      | .error failure => some failure := by
  obtain ⟨later, ended, _⟩ := (knows_fresh foreign describes options observers).validateDescriptor
    (Memo.spoken_empty host) position
  rw [failure?, ended]

theorem Knows.collectFailures (knows : engine.Knows host blueprint options)
    (spoken : engine.memo.Spoken host) (position remaining : Nat) :
    ∃ later, (Engine.collectFailures position remaining).run engine =
        ((List.range' position remaining).filterMap (failure? blueprint options observers), later) ∧
      later.Knows host blueprint options ∧ later.memo.Spoken host := by
  induction remaining generalizing position engine with
  | zero => exact ⟨engine, rfl, knows, spoken⟩
  | succ remaining ih =>
    obtain ⟨between, checked, learned, described⟩ := knows.validateDescriptor spoken position
    obtain ⟨later, others, after⟩ := ih learned described (position + 1)
    refine ⟨later, ?_, after⟩
    have alone := failure?_eq foreign describes observers options position
    rw [run_collectFailures, checked, List.range'_succ]
    simp only [others]
    cases verified : verify blueprint options position with
    | ok _ =>
      rw [verified] at alone
      rw [List.filterMap_cons_none alone]
    | error failure =>
      rw [verified] at alone
      rw [List.filterMap_cons_some alone]

def failures (blueprint : Blueprint) (options : Options) (observers : List Observer) :
    List Failure :=
  (List.range blueprint.registry.descriptors.length).filterMap
    (failure? blueprint options observers)

omit foreign describes in
theorem run_validateDescriptors {engine later : Engine} {failures : List Failure}
    (collected : (Engine.collectFailures 0
      engine.blueprint.registry.descriptors.length).run engine = (failures, later)) :
    validateDescriptors.run engine =
      (if failures.isEmpty then .ok () else .error (.aggregate failures), later) := by
  have lifted : (liftM (Engine.collectFailures 0 engine.blueprint.registry.descriptors.length) :
      EngineAction (List Failure)).run engine = (.ok failures, later) :=
    congrArg (fun ended : List Failure × Engine => (Except.ok ended.1, ended.2)) collected
  rw [validateDescriptors, run_get_bind, run_bind, lifted]
  dsimp only
  split <;> rfl

/-- A build with checks fails with all failures that registrations have on their own, if any. -/
theorem build_eq (checked : options.validateOnBuild = true) :
    ∃ later : Engine, later.Knows host blueprint options ∧ later.memo.Spoken host ∧
      build blueprint options observers =
        if (failures blueprint options observers).isEmpty then .ok later
        else .error (.aggregate (failures blueprint options observers)) := by
  have fresh := knows_fresh foreign describes options observers
  obtain ⟨later, collected, after, described⟩ :=
    fresh.collectFailures foreign describes observers (Memo.spoken_empty host) 0
      blueprint.registry.descriptors.length
  refine ⟨later, after, described, ?_⟩
  rw [← List.range_eq_range', ← failures] at collected
  rw [build, if_pos checked, run_validateDescriptors collected]
  cases (failures blueprint options observers).isEmpty <;> rfl

end Checks

theorem run_validateDescriptor (position : Nat) (engine : Engine) :
    ((Engine.validateDescriptor position).run engine).1 =
      match ((engine.blueprint.callSiteForDescriptor position).run engine.memo).1 with
      | .error failure => .error failure
      | .ok none => .ok ()
      | .ok (some callSite) =>
        if engine.options.validateScopes then
          (callSite.checkLifetimes.run engine.verdicts).1.map fun _ => ()
        else .ok () := by
  rw [Engine.validateDescriptor, run_get_bind, run_bind]
  cases built : (engine.blueprint.callSiteForDescriptor position).run engine.memo with
  | mk result memo =>
    rw [run_onMemo built]
    cases result with
    | error failure => rfl
    | ok found =>
      cases found with
      | none => rfl
      | some callSite =>
        dsimp only
        rw [run_validateGraph]
        split <;> rfl

/-- A check of what an engine holds only fails for a singleton that needs a scoped service. -/
theorem Knows.capture (knows : engine.Knows host blueprint options)
    (spoken : engine.memo.Spoken host) {callSite : CallSite} (held : engine.memo.Holds callSite)
    {failure : Failure} (failed : (callSite.checkLifetimes.run engine.verdicts).1 = .error failure) :
    ∃ singleton dependency, failure = .invalidLifetimeCapture singleton dependency := by
  rw [(knows.learned.recalls.check knows.sound held).2 spoken] at failed
  exact CallSite.capture_of_verdict callSite failure failed

theorem failure?_of_fails {position : Nat} {failure : Failure}
    (fails : blueprint.Fails options position failure) (observers : List Observer) :
    failure? blueprint options observers position = some failure := by
  cases fails with
  | graph registered closed failed => simp only [failure?, run_validateDescriptor, failed]
  | capture registered closed checked built captive =>
    simp only [failure?, run_validateDescriptor, built, checked, if_true, captive, Except.map]

theorem failure_cases {position : Nat} {engine : Engine} {failure : Failure}
    (failed : ((Engine.validateDescriptor position).run engine).1 = .error failure) :
    ((engine.blueprint.callSiteForDescriptor position).run engine.memo).1 = .error failure ∨
      engine.options.validateScopes = true ∧ ∃ callSite,
        ((engine.blueprint.callSiteForDescriptor position).run engine.memo).1 =
          .ok (some callSite) ∧
        (callSite.checkLifetimes.run engine.verdicts).1 = .error failure := by
  rw [run_validateDescriptor] at failed
  split at failed
  · rename_i graph
    cases failed
    exact .inl graph
  · cases failed
  · rename_i callSite built
    split at failed
    · rename_i checked
      refine .inr ⟨checked, callSite, built, ?_⟩
      cases judged : (callSite.checkLifetimes.run engine.verdicts).1 with
      | ok verdict =>
        rw [judged] at failed
        cases failed
      | error other =>
        rw [judged] at failed
        cases failed
        rfl
    · cases failed

theorem fails_of_failure? (foreign : blueprint.registry.Foreign)
    (describes : host.Describes blueprint) {observers : List Observer} {position : Nat}
    {failure : Failure} (failed : failure? blueprint options observers position = some failure) :
    blueprint.Fails options position failure := by
  unfold failure? at failed
  split at failed
  · cases failed
  · rename_i ended
    cases failed
    obtain absent | ⟨descriptor, registered, closed, builds⟩ :=
      blueprint.callSiteForDescriptor_cases position
    · rw [run_validateDescriptor, absent] at ended
      cases ended
    · obtain graph | ⟨checked, callSite, built, captive⟩ := failure_cases ended
      · exact .graph registered closed graph
      · -- The engine that holds the graph has checked nothing yet.
        have fresh := knows_fresh foreign describes options observers
        have leads := Blueprint.leads_member describes registered closed
        obtain ⟨later, made, knows, described, held⟩ :=
          fresh.run_buildWithin (Memo.spoken_empty host) leads
        rw [← builds] at made
        cases ran : (blueprint.callSiteForDescriptor position).run {} with
        | mk result memo =>
          rw [run_onMemo ran] at made
          obtain ⟨same, rfl⟩ := Prod.mk.inj made
          have found : result = .ok (some callSite) := (congrArg Prod.fst ran).symm.trans built
          obtain ⟨singleton, dependency, rfl⟩ :=
            knows.capture described (held callSite (same.symm.trans found)) captive
          exact .capture registered closed checked built captive

theorem mem_failures_iff (foreign : blueprint.registry.Foreign)
    (describes : host.Describes blueprint) {observers : List Observer} {failure : Failure} :
    failure ∈ failures blueprint options observers ↔
      ∃ position, blueprint.Fails options position failure := by
  rw [failures, List.mem_filterMap]
  constructor
  · rintro ⟨position, _, failed⟩
    exact ⟨position, fails_of_failure? foreign describes failed⟩
  · rintro ⟨position, fails⟩
    refine ⟨position, List.mem_range.2 ?_, failure?_of_fails fails observers⟩
    cases fails with
    | graph registered | capture registered => exact (List.getElem?_eq_some_iff.1 registered).1

theorem build_eq_error_iff (foreign : blueprint.registry.Foreign)
    (describes : host.Describes blueprint) (checked : options.validateOnBuild = true)
    {observers : List Observer} {failure : Failure} :
    build blueprint options observers = .error failure ↔
      failures blueprint options observers ≠ [] ∧
        failure = .aggregate (failures blueprint options observers) := by
  obtain ⟨later, _, _, built⟩ := build_eq foreign describes observers checked
  rw [built]
  cases failures blueprint options observers <;> simp [eq_comm]

theorem valid_of_build (foreign : blueprint.registry.Foreign) (describes : host.Describes blueprint)
    (checked : options.validateOnBuild = true) {observers : List Observer} {engine : Engine}
    (built : build blueprint options observers = .ok engine) :
    engine.Knows host blueprint options ∧ engine.memo.Spoken host ∧ blueprint.Valid options := by
  obtain ⟨later, knows, described, ended⟩ := build_eq foreign describes observers checked
  rw [ended] at built
  split at built
  · rename_i none
    cases built
    refine ⟨knows, described, valid_of_verify fun position => ?_⟩
    have alone := failure?_eq foreign describes observers options position
    cases verified : verify blueprint options position with
    | ok _ => rfl
    | error failure =>
      rw [verified] at alone
      have failed : failure ∈ failures blueprint options observers :=
        (mem_failures_iff foreign describes).2
          ⟨position, fails_of_failure? foreign describes alone⟩
      rw [List.isEmpty_iff.1 none] at failed
      cases failed
  · cases built

end Engine

namespace Container
variable {host : Host} {blueprint : Blueprint} {options : Options}

theorem build_eq_error_iff {observers : List Observer} {world : World} {failure : Failure} :
    build blueprint options observers world = .error failure ↔
      Engine.build blueprint options observers = .error failure := by
  unfold build
  cases Engine.build blueprint options observers with
  | error other =>
    change Except.error other = Except.error failure ↔ _
    simp
  | ok engine =>
    change Except.ok _ = Except.error failure ↔ _
    simp

theorem engine_of_build {world built : World} {observers : List Observer} {id : EngineId}
    {root : ScopeId} (succeeded : build blueprint options observers world = .ok (id, root, built))
    {engine : Engine} (made : Engine.build blueprint options observers = .ok engine) :
    id < built.engines.length ∧ built.engine id = engine := by
  unfold build at succeeded
  rw [made] at succeeded
  cases succeeded
  have listed : (world.engines ++ [engine])[world.engines.length]? = some engine :=
    List.getElem?_concat_length
  exact ⟨(List.getElem?_eq_some_iff.1 listed).1, World.engine_of_some listed⟩

/-- With checks, a build fails if and only if some registration fails on its own, and then with all
failures that registrations have when new engines check them alone, in their order. If it succeeds,
then at any later time, as long as the host describes all services that graphs were asked for, the
engine realizes every service that no open definition serves, such as a plain type, and the
collection of its registrations. -/
theorem build_validated (foreign : blueprint.registry.Foreign)
    (describes : host.Describes blueprint) (checked : options.validateOnBuild = true)
    (observers : List Observer) (world : World) :
    ((∃ failure, build blueprint options observers world = .error failure) ↔
      ∃ position failure, blueprint.Fails options position failure) ∧
    (∀ failure, build blueprint options observers world = .error failure →
      failure = .aggregate ((List.range blueprint.registry.descriptors.length).filterMap
        (Engine.failure? blueprint options observers))) ∧
    (∀ position failure, Engine.failure? blueprint options observers position = some failure ↔
      blueprint.Fails options position failure) ∧
    ∀ id root built, build blueprint options observers world = .ok (id, root, built) →
      (built.engine id).memo.Spoken host ∧
      ∀ later : World, built.Moves later → (later.engine id).memo.Spoken host →
        ∀ service, host.Speaks service → service.element = none →
          blueprint.registry.openFor service = [] →
            (∃ found, ((Engine.realize service).run (later.engine id)).1 = .ok found) ∧
            ∃ found,
              ((Engine.realize (.collection service)).run (later.engine id)).1 = .ok found := by
  refine ⟨⟨?_, ?_⟩, ?_, ?_, ?_⟩
  · rintro ⟨failure, failed⟩
    obtain ⟨some, _⟩ := (Engine.build_eq_error_iff foreign describes checked).1
      (build_eq_error_iff.1 failed)
    obtain ⟨other, listed⟩ := List.exists_mem_of_ne_nil _ some
    obtain ⟨position, fails⟩ := (Engine.mem_failures_iff foreign describes).1 listed
    exact ⟨position, other, fails⟩
  · rintro ⟨position, failure, fails⟩
    have listed : failure ∈ Engine.failures blueprint options observers :=
      (Engine.mem_failures_iff foreign describes).2 ⟨position, fails⟩
    exact ⟨_, build_eq_error_iff.2 ((Engine.build_eq_error_iff foreign describes checked).2
      ⟨List.ne_nil_of_mem listed, rfl⟩)⟩
  · intro failure failed
    exact ((Engine.build_eq_error_iff foreign describes checked).1 (build_eq_error_iff.1 failed)).2
  · intro position failure
    exact ⟨Engine.fails_of_failure? foreign describes, fun fails =>
      Engine.failure?_of_fails fails observers⟩
  · intro id root built succeeded
    obtain ⟨engine, made, _⟩ := exists_of_build succeeded
    obtain ⟨knows, described, valid⟩ := Engine.valid_of_build foreign describes checked made
    obtain ⟨inside, here⟩ := engine_of_build succeeded made
    rw [here]
    refine ⟨described, fun later moves spoken service speaks alone unopened => ?_⟩
    obtain ⟨_, learned⟩ := moves.engine_of
      (fun _ _ known asked => (known.asked asked).sent) inside (here ▸ knows)
    have listed : host.Speaks (.collection service) := speaks
    exact ⟨learned.realize spoken speaks (valid.single foreign unopened alone),
      learned.realize spoken listed (valid.collection foreign unopened)⟩

section Sample

def session : TypeInfo := ⟨firstFreeTypeId, "Session"⟩
def cache : TypeInfo := ⟨firstFreeTypeId + 1, "Cache"⟩
def report : TypeInfo := ⟨firstFreeTypeId + 2, "Report"⟩
def printer : TypeInfo := ⟨firstFreeTypeId + 3, "Printer"⟩

def office : Host where
  name id := (([session, cache, report, printer].find? (·.id == id)).map (·.name)).getD ""
  generic _ := none
  plainOwn _ := rfl

def taking (made : TypeInfo) (taken : List TypeInfo) : Constructor where
  implementation := made.name
  parameters := taken.map fun type => ⟨.plain type, none⟩
  activate _ := pure (.error .scopeDisposed)

/-- A scoped session, a cache of the given lifetime that takes it, and a report that takes what it
is made with. -/
def equipped (kept : Lifetime) (used : TypeInfo) : Blueprint where
  registry := ⟨[⟨.plain session, .scoped, .constructed session none⟩,
    ⟨.plain cache, kept, .constructed cache none⟩,
    ⟨.plain report, .transient, .constructed report none⟩]⟩
  catalog := ⟨[(session.id, [taking session []]), (cache.id, [taking cache [session]]),
    (report.id, [taking report [used]])]⟩

theorem foreign_equipped (kept : Lifetime) (used : TypeInfo) :
    (equipped kept used).registry.Foreign := by
  simp [Registry.Foreign, equipped, session, cache, report, ServiceType.own?, ServiceType.typeId,
    ServiceType.element, OwnService.ofId?, OwnService.id, firstFreeTypeId]

theorem describes_equipped (kept : Lifetime) {used : TypeInfo}
    (named : used.name = office.name used.id) : office.Describes (equipped kept used) := by
  refine ⟨List.forall_mem_cons.2 ⟨rfl, List.forall_mem_cons.2
    ⟨rfl, List.forall_mem_singleton.2 rfl⟩⟩, ?_⟩
  intro type constructor listed parameter declared
  have made : constructor ∈ [taking session [], taking cache [session], taking report [used]] := by
    change constructor ∈ (List.lookup type [(session.id, [taking session []]),
      (cache.id, [taking cache [session]]), (report.id, [taking report [used]])]).getD [] at listed
    rw [List.lookup_cons, List.lookup_cons, List.lookup_cons, List.lookup_nil] at listed
    cases first : type == session.id <;> cases second : type == cache.id <;>
      cases third : type == report.id <;> simp_all
  simp only [List.mem_cons, List.not_mem_nil, or_false] at made
  obtain rfl | rfl | rfl := made
  · cases declared
  · cases List.mem_singleton.1 declared
    rfl
  · cases List.mem_singleton.1 declared
    exact named

end Sample

/-- A cache that is a singleton, and a report on a printer, which is not registered, both fail, in
this order. If the cache is scoped and the report takes a session, the cache and all caches can be
realized. -/
theorem build_validated_equipped :
    ((Options.validating.validateOnBuild = true ∧
        (equipped .singleton printer).registry.Foreign ∧
        office.Describes (equipped .singleton printer)) ∧
      ∃ failures, build (equipped .singleton printer) .validating [] {} =
          .error (.aggregate failures) ∧
        failures.map Failure.message =
          ["Cannot consume scoped service 'Session' from singleton 'Cache'",
            "Unable to resolve service for type 'Printer' while attempting to activate 'Report'"]) ∧
    ((equipped .scoped session).registry.Foreign ∧ office.Describes (equipped .scoped session)) ∧
      ∃ id root built, build (equipped .scoped session) .validating [] {} = .ok (id, root, built) ∧
        (built.engine id).memo.Spoken office ∧ office.Speaks (.plain cache) ∧
        (∃ found, ((Engine.realize (.plain cache)).run (built.engine id)).1 = .ok found) ∧
        ∃ found, ((Engine.realize (.collection (.plain cache))).run (built.engine id)).1 =
          .ok found := by
  have checked : Options.validating.validateOnBuild = true := rfl
  have foreign := foreign_equipped .singleton printer
  have describes : office.Describes (equipped .singleton printer) := describes_equipped _ rfl
  have sound := foreign_equipped .scoped session
  have fits : office.Describes (equipped .scoped session) := describes_equipped _ rfl
  refine ⟨⟨⟨checked, foreign, describes⟩, ?_⟩, ⟨sound, fits⟩, ?_⟩
  · obtain ⟨_, collected, _, _⟩ := build_validated foreign describes checked [] {}
    have failed : (build (equipped .singleton printer) .validating [] {}).toOption.isNone := by
      decide +kernel
    cases ended : build (equipped .singleton printer) .validating [] {} with
    | ok provider =>
      rw [ended] at failed
      cases failed
    | error failure =>
      refine ⟨_, congrArg Except.error (collected failure ended), ?_⟩
      decide +kernel
  · obtain ⟨_, _, _, realized⟩ := build_validated sound fits checked [] {}
    have succeeded : (build (equipped .scoped session) .validating [] {}).toOption.isSome := by
      decide +kernel
    cases ended : build (equipped .scoped session) .validating [] {} with
    | error failure =>
      rw [ended] at succeeded
      cases succeeded
    | ok provider =>
      obtain ⟨id, root, built⟩ := provider
      obtain ⟨described, always⟩ := realized id root built ended
      have speaks : office.Speaks (.plain cache) := rfl
      exact ⟨id, root, built, rfl, described, speaks,
        always built .refl described (.plain cache) speaks rfl rfl⟩

end Container
end ServiceContainer
