import ServiceContainer.Proofs.CallSite.Fresh
import ServiceContainer.Proofs.Engine.Soundness

/-! The memo of graphs does not show. All that it holds is what a fresh build makes, under whatever
chain it was built. Main statement: what an engine was asked before makes no difference to the
graph that it finds for a service, nor to the failure. -/
namespace ServiceContainer
open Stateful

namespace Query
variable {α : Type}

/-- To answer a query with a memo that keeps an invariant is to answer it afresh. -/
theorem run_eq_answer (answers : Target → Option CallSite → Prop) (invariant : Memo → Prop)
    {build : Target → Build (Option CallSite)} {fresh : Target → Except Failure (Option CallSite)}
    (allowed : ∀ target found, fresh target = .ok found → answers target found)
    {query : Query (Except Failure α)}
    (same : ∀ target, query.Reaches answers target → ∀ memo, invariant memo →
      ∃ later, (build target).run memo = (fresh target, later) ∧ invariant later)
    {memo : Memo} (holds : invariant memo) :
    ∃ later, (run build query).run memo = (query.answer fresh, later) ∧ invariant later := by
  induction query generalizing memo with
  | done result => exact ⟨memo, rfl, holds⟩
  | ask target next ih =>
    obtain ⟨between, built, kept⟩ := same target .here memo holds
    rw [run, answer, Stateful.run_bind, built]
    cases ended : fresh target with
    | error failure => exact ⟨between, rfl, kept⟩
    | ok found =>
      refine ih found (fun asked reached => ?_) kept
      exact same asked (.later (allowed target found ended) reached)

end Query

def Memo.Right (blueprint : Blueprint) (host : Host) (memo : Memo) : Prop :=
  ∀ target found, blueprint.Proper host target → memo.Records target found →
    blueprint.Builds target found

namespace Blueprint
open Query
variable {blueprint : Blueprint} {host : Host} {root : ServiceType}

theorem right_empty : Memo.Right blueprint host {} := by
  intro target found _ recorded
  cases recorded

theorem Builds.congr {target other : Target} (plans : blueprint.plan target = blueprint.plan other)
    {found : Option CallSite} (builds : blueprint.Builds target found) :
    blueprint.Builds other found := by
  obtain ⟨depth, built⟩ := builds
  cases depth with
  | zero => cases built
  | succ depth =>
    refine ⟨depth + 1, ?_⟩
    rw [buildPlain] at built ⊢
    rwa [← plans]

theorem right_insert (foreign : blueprint.registry.Foreign) {memo : Memo}
    (right : memo.Right blueprint host) {target : Target} {found : Option CallSite}
    (proper : blueprint.Proper host target) (builds : blueprint.Builds target found) :
    Memo.Right blueprint host (memo.insert target.key found) := by
  intro other answer fits recorded
  rw [Memo.Records, Table.lookup_insert] at recorded
  split at recorded
  · rename_i same
    cases recorded
    exact builds.congr (plan_congr foreign proper fits same)
  · exact right other answer fits recorded

theorem Leads.buildFresh_of_records (foreign : blueprint.registry.Foreign)
    (describes : host.Describes blueprint) {fuel : Nat} {path : List Target} {target : Target}
    (leads : blueprint.Leads host root path target)
    (enough : blueprint.chainBound root ≤ fuel + path.length) {memo : Memo}
    (right : memo.Right blueprint host) {known : Option CallSite}
    (recorded : memo.lookup target.key = some known) :
    blueprint.buildFresh fuel (path.map Target.key) target = .ok known := by
  obtain ⟨depth, built⟩ := right target known leads.proper recorded
  exact leads.buildFresh_eq foreign describes enough built

/-- A build with a memo, under a chain that leads to the target, ends as a fresh build does. -/
theorem Leads.run_buildWithin (foreign : blueprint.registry.Foreign)
    (describes : host.Describes blueprint) {fuel : Nat} {path : List Target} {target : Target}
    (leads : blueprint.Leads host root path target)
    (enough : blueprint.chainBound root ≤ fuel + path.length) {memo : Memo}
    (right : memo.Right blueprint host) :
    ∃ later, (blueprint.buildWithin fuel (path.map Target.key) target).run memo =
      (blueprint.buildFresh fuel (path.map Target.key) target, later) ∧
        later.Right blueprint host := by
  induction fuel generalizing path target memo with
  | zero =>
    rw [Blueprint.run_buildWithin]
    cases recorded : memo.lookup target.key with
    | some known =>
      rw [leads.buildFresh_of_records foreign describes enough right recorded]
      exact ⟨memo, rfl, right⟩
    | none =>
      unfold buildFresh
      cases Chain.cycle? (path.map Target.key) target.key <;> exact ⟨memo, rfl, right⟩
  | succ fuel ih =>
    rw [Blueprint.run_buildWithin]
    cases recorded : memo.lookup target.key with
    | some known =>
      rw [leads.buildFresh_of_records foreign describes enough right recorded]
      exact ⟨memo, rfl, right⟩
    | none =>
      unfold buildFresh
      cases fresh : Chain.cycle? (path.map Target.key) target.key with
      | some cycle => exact ⟨memo, rfl, right⟩
      | none =>
        have longer : blueprint.chainBound root ≤ fuel + (path ++ [target]).length := by
          rw [List.length_append, List.length_singleton]
          omega
        have keys : path.map Target.key ++ [target.key] = (path ++ [target]).map Target.key := by
          rw [List.map_append, List.map_singleton]
        dsimp only
        rw [keys, ← run_plan]
        have same : ∀ asked, (blueprint.plan target).Reaches blueprint.Builds asked →
            ∀ between, Memo.Right blueprint host between →
              ∃ later, (blueprint.buildWithin fuel ((path ++ [target]).map Target.key) asked).run
                  between =
                (blueprint.buildFresh fuel ((path ++ [target]).map Target.key) asked, later) ∧
                  Memo.Right blueprint host later :=
          fun asked asks between right => ih (leads.enter describes fresh asks) longer right
        obtain ⟨later, ended, kept⟩ := run_eq_answer blueprint.Builds (Memo.Right blueprint host)
          (fun _ _ built => builds_of_buildFresh built) same right
        rw [ended]
        cases built : (blueprint.plan target).answer
            (blueprint.buildFresh fuel ((path ++ [target]).map Target.key)) with
        | error failure => exact ⟨later, rfl, kept⟩
        | ok found =>
          refine ⟨later.insert target.key found, rfl, ?_⟩
          have builds : blueprint.Builds target found := by
            have whole : blueprint.buildFresh (fuel + 1) (path.map Target.key) target =
                .ok found := by
              unfold buildFresh
              simp only [fresh, keys, built]
            exact builds_of_buildFresh whole
          exact right_insert foreign kept leads.proper builds

theorem Leads.run_root (foreign : blueprint.registry.Foreign) (describes : host.Describes blueprint)
    {target : Target} (leads : blueprint.Leads host root [] target) {memo : Memo}
    (right : memo.Right blueprint host) :
    ∃ later, (blueprint.buildWithin (blueprint.chainBound root) [] target).run memo =
      (blueprint.buildFresh (blueprint.chainBound root) [] target, later) ∧
        later.Right blueprint host := by
  have enough : blueprint.chainBound root ≤
      blueprint.chainBound root + ([] : List Target).length := Nat.le_refl _
  exact leads.run_buildWithin foreign describes enough right

theorem leads_single {service : ServiceType} (speaks : host.Speaks service) :
    blueprint.Leads host service [] (.single service) where
  proper := ⟨speaks, trivial⟩
  within := ⟨List.mem_flatMap.2 ⟨service, List.mem_cons_self, mem_layers_self service⟩,
    Nat.zero_le _⟩
  above other member := by cases member
  distinct := List.nodup_nil

theorem leads_member (describes : host.Describes blueprint) {position : Nat}
    {descriptor : Descriptor}
    (registered : blueprint.registry.descriptors[position]? = some descriptor)
    (closed : descriptor.isOpenGeneric = false) :
    blueprint.Leads host descriptor.service []
      (.member descriptor.service position (blueprint.registry.slotOf position)) where
  proper := ⟨describes.registered descriptor (List.mem_of_getElem? registered),
    Registry.mem_all_slotOf registered closed⟩
  within := ⟨List.mem_flatMap.2 ⟨_, List.mem_cons_self, mem_layers_self _⟩,
    (Registry.slot_lt (Registry.mem_all_slotOf registered closed)).le⟩
  above other member := by cases member
  distinct := List.nodup_nil

end Blueprint

inductive GraphRequest where
  | graph (service : ServiceType)
  | registration (position : Nat)
  | realize (service : ServiceType)
  | validate

/-- The engine after the request, whether it found something, found nothing or failed. -/
def GraphRequest.perform (engine : Engine) : GraphRequest → Engine
  | .graph service => ((Engine.callSite service).run engine).2
  | .registration position =>
    ((EngineAction.onMemo (engine.blueprint.callSiteForDescriptor position)).run engine).2
  | .realize service => ((Engine.realize service).run engine).2
  | .validate => (Engine.validateDescriptors.run engine).2

def GraphRequest.SpokenIn (host : Host) : GraphRequest → Prop
  | .graph service | .realize service => host.Speaks service
  | .registration _ | .validate => True

namespace Engine

structure Right (blueprint : Blueprint) (host : Host) (engine : Engine) : Prop where
  same : engine.blueprint = blueprint
  memo : engine.memo.Right blueprint host

variable {blueprint : Blueprint} {host : Host} (foreign : blueprint.registry.Foreign)
  (describes : host.Describes blueprint)
include foreign describes

theorem Right.run_callSite {engine : Engine} (right : engine.Right blueprint host)
    {service : ServiceType} (speaks : host.Speaks service) :
    ∃ later, (callSite service).run engine =
      (blueprint.buildFresh (blueprint.chainBound service) [] (.single service), later) ∧
        later.Right blueprint host := by
  obtain ⟨rfl, memo⟩ := right
  have leads : engine.blueprint.Leads host service [] (.single service) :=
    Blueprint.leads_single speaks
  obtain ⟨later, built, kept⟩ := leads.run_root foreign describes memo
  rw [Engine.run_callSite]
  exact ⟨_, run_onMemo built, rfl, kept⟩

theorem Right.registration {engine : Engine} (right : engine.Right blueprint host)
    (position : Nat) :
    Right blueprint host
      ((EngineAction.onMemo (engine.blueprint.callSiteForDescriptor position)).run engine).2 := by
  obtain ⟨rfl, memo⟩ := right
  obtain absent | ⟨descriptor, registered, closed, builds⟩ :=
    engine.blueprint.callSiteForDescriptor_cases position
  · rw [absent]
    exact ⟨rfl, memo⟩
  · have leads := Blueprint.leads_member describes registered closed
    obtain ⟨later, built, kept⟩ := leads.run_root foreign describes memo
    rw [builds, run_onMemo built]
    exact ⟨rfl, kept⟩

def Stays (blueprint : Blueprint) (host : Host) (engine later : Engine) : Prop :=
  engine.Right blueprint host → later.Right blueprint host

omit foreign describes in
theorem stays_compositional :
    Compositional fun {_} action => Keeps (Stays blueprint host) action :=
  keeps_compositional (fun _ right => right) fun _ _ _ first second right => second (first right)

omit foreign describes in
theorem stays_validateGraph (callSite : CallSite) :
    Keeps (Stays blueprint host) (validateGraph callSite) :=
  validateGraph_of stays_compositional (fun _ right => right)
    (fun _ _ right => ⟨right.same, right.memo⟩) callSite

theorem stays_realize {service : ServiceType} (speaks : host.Speaks service) :
    Keeps (Stays blueprint host) (realize service) := by
  have built : Keeps (Stays blueprint host) (callSite service) := by
    intro engine right
    obtain ⟨later, ended, kept⟩ := right.run_callSite foreign describes speaks
    rw [ended]
    exact kept
  refine stays_compositional.bind (fun _ right => right) fun engine => ?_
  cases engine.published.lookup service with
  | some known => exact stays_compositional.pure _
  | none =>
    refine stays_compositional.bind built fun found => ?_
    cases found with
    | none => exact fun _ right => ⟨right.same, right.memo⟩
    | some callSite =>
      refine stays_compositional.bind (stays_validateGraph callSite) fun _ => ?_
      exact fun _ right => ⟨right.same, right.memo⟩

theorem stays_validateDescriptor (position : Nat) :
    Keeps (Stays blueprint host) (validateDescriptor position) := by
  intro engine
  rw [validateDescriptor, run_get_bind]
  refine bind_allowed (Stays blueprint host) (fun _ _ _ first second right => second (first right))
    ?_ fun found => ?_
  · exact fun right => right.registration foreign describes position
  · cases found with
    | none => exact stays_compositional.pure _
    | some callSite => exact stays_validateGraph callSite

theorem stays_collectFailures (position remaining : Nat) :
    ∀ engine : Engine,
      Stays blueprint host engine ((collectFailures position remaining).run engine).2 := by
  induction remaining generalizing position with
  | zero => exact fun _ right => right
  | succ remaining ih =>
    intro engine right
    have checked := stays_validateDescriptor foreign describes position engine right
    rw [run_collectFailures]
    exact ih (position + 1) _ checked

theorem stays_validateDescriptors : Keeps (Stays blueprint host) validateDescriptors := by
  refine stays_compositional.bind (fun _ right => right) fun engine => ?_
  refine stays_compositional.bind ?_ fun failures => ?_
  · exact stays_collectFailures foreign describes 0 _
  · split
    · exact stays_compositional.pure _
    · exact stays_compositional.throw _

theorem Right.perform {engine : Engine} (right : engine.Right blueprint host)
    {request : GraphRequest} (spoken : request.SpokenIn host) :
    Right blueprint host (GraphRequest.perform engine request) := by
  cases request with
  | graph service =>
    obtain ⟨later, ended, kept⟩ := right.run_callSite foreign describes spoken
    rw [GraphRequest.perform, ended]
    exact kept
  | registration position => exact right.registration foreign describes position
  | realize service => exact stays_realize foreign describes spoken engine right
  | validate => exact stays_validateDescriptors foreign describes engine right

theorem Right.foldl_perform {engine : Engine} (right : engine.Right blueprint host)
    {requests : List GraphRequest} (spoken : ∀ request ∈ requests, request.SpokenIn host) :
    Right blueprint host (requests.foldl GraphRequest.perform engine) := by
  induction requests generalizing engine with
  | nil => exact right
  | cons request rest ih =>
    have next := right.perform foreign describes (spoken request List.mem_cons_self)
    exact ih next fun other member => spoken other (List.mem_cons_of_mem _ member)

/-- Whatever an engine was asked before, it finds for a service what a fresh engine finds: the same
graph, or none, or the same failure. -/
theorem callSite_after (options : Options) (observers : List Observer)
    (requests : List GraphRequest) (spoken : ∀ request ∈ requests, request.SpokenIn host)
    {service : ServiceType} (speaks : host.Speaks service) :
    ((callSite service).run
        (requests.foldl GraphRequest.perform { blueprint, options, observers })).1 =
      ((callSite service).run { blueprint, options, observers }).1 := by
  have fresh : Right blueprint host { blueprint, options, observers } :=
    ⟨rfl, Blueprint.right_empty⟩
  have later := fresh.foldl_perform foreign describes spoken
  obtain ⟨_, one, _⟩ := fresh.run_callSite foreign describes speaks
  obtain ⟨_, other, _⟩ := later.run_callSite foreign describes speaks
  rw [one, other]

omit foreign describes in
/-- Two services that need each other: whichever was asked for before, the failure names the cycle
from the service asked for now. -/
theorem callSite_after_cycle :
    let host : Host := ⟨fun id => if id = 4 then "One" else "Two", fun _ => none, fun _ => rfl⟩
    let one : TypeInfo := ⟨4, "One"⟩
    let two : TypeInfo := ⟨5, "Two"⟩
    let needs : TypeInfo → TypeInfo → Constructor := fun made needed =>
      { implementation := made.name, parameters := [⟨.plain needed, none⟩]
        activate := fun _ => .done (.error .scopeDisposed) }
    let blueprint : Blueprint :=
      { registry := ⟨[⟨.plain one, .singleton, .constructed one none⟩,
          ⟨.plain two, .singleton, .constructed two none⟩]⟩
        catalog := ⟨[(4, [needs one two]), (5, [needs two one])]⟩ }
    let requests : List GraphRequest := [.validate, .graph (.plain two), .realize (.plain one)]
    blueprint.registry.Foreign ∧ host.Describes blueprint ∧
      (∀ request ∈ requests, request.SpokenIn host) ∧
      ((callSite (.plain one)).run
          (requests.foldl GraphRequest.perform { blueprint, options := {}, observers := [] })).1 =
        ((callSite (.plain one)).run { blueprint, options := {}, observers := [] }).1 := by
  intro host one two needs blueprint requests
  have foreign : blueprint.registry.Foreign :=
    List.forall_mem_cons.2 ⟨⟨rfl, rfl⟩, List.forall_mem_singleton.2 ⟨rfl, rfl⟩⟩
  have describes : host.Describes blueprint := by
    refine ⟨List.forall_mem_cons.2 ⟨rfl, List.forall_mem_singleton.2 rfl⟩, ?_⟩
    intro type constructor listed parameter declared
    have made : constructor = needs one two ∨ constructor = needs two one := by
      change constructor ∈ (List.lookup type [(4, [needs one two]), (5, [needs two one])]).getD []
        at listed
      rw [List.lookup_cons, List.lookup_cons, List.lookup_nil] at listed
      cases first : type == 4 <;> cases second : type == 5 <;> simp_all
    obtain rfl | rfl := made <;> cases List.mem_singleton.1 declared <;> rfl
  have spoken : ∀ request ∈ requests, request.SpokenIn host :=
    List.forall_mem_cons.2 ⟨trivial, List.forall_mem_cons.2 ⟨rfl, List.forall_mem_singleton.2 rfl⟩⟩
  exact ⟨foreign, describes, spoken, callSite_after foreign describes {} [] requests spoken rfl⟩

end Engine
end ServiceContainer
