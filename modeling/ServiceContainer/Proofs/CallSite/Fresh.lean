import Mathlib.Data.List.Nodup
import Mathlib.Logic.Relation
import ServiceContainer.Proofs.CallSite.Memo
import ServiceContainer.Proofs.Service.Host

/-! Graphs built afresh, without a memo: under a chain of keys, or without looking for cycles at all.
Main statements: a target that can be built is never needed by what it needs, so it can be built
afresh under every chain that leads to it; and the bound on chains is never reached. -/
namespace ServiceContainer
open Relation

namespace Query
variable {α : Type}

def answer (build : Target → Except Failure (Option CallSite)) :
    Query (Except Failure α) → Except Failure α
  | .done result => result
  | .ask target next =>
    match build target with
    | .ok found => (next found).answer build
    | .error failure => .error failure

/-- The query comes to ask for the target if the questions before are answered as allowed. -/
inductive Reaches (answers : Target → Option CallSite → Prop) : Query α → Target → Prop
  | here {target : Target} {next : Option CallSite → Query α} :
      Reaches answers (.ask target next) target
  | later {target asked : Target} {next : Option CallSite → Query α} {found : Option CallSite}
      (answered : answers target found) (rest : Reaches answers (next found) asked) :
      Reaches answers (.ask target next) asked

variable {answers : Target → Option CallSite → Prop}

theorem Only.of_reaches {allowed : Target → Prop} {query : Query α} {target : Target}
    (only : query.Only allowed) (reached : query.Reaches answers target) : allowed target := by
  induction reached with
  | here => exact only.1
  | later _ _ ih => exact ih (only.2 _)

theorem answer_of_reaches (answers : Target → Option CallSite → Prop)
    {build other : Target → Except Failure (Option CallSite)}
    (allowed : ∀ target found, build target = .ok found → answers target found)
    {query : Query (Except Failure α)} {value : α}
    (same : ∀ target found, query.Reaches answers target → build target = .ok found →
      other target = .ok found)
    (h : query.answer build = .ok value) : query.answer other = .ok value := by
  induction query with
  | done result => exact h
  | ask target next ih =>
    rw [answer] at h ⊢
    cases built : build target with
    | error failure =>
      rw [built] at h
      cases h
    | ok found =>
      rw [built] at h
      rw [same target found .here built]
      refine ih found (fun asked answer reached => ?_) h
      exact same asked answer (.later (allowed target found built) reached)

theorem answered_of_reaches {build : Target → Except Failure (Option CallSite)}
    (agree : ∀ target found other, build target = .ok found → answers target other → other = found)
    {query : Query (Except Failure α)} {value : α} (h : query.answer build = .ok value)
    {target : Target} (reached : query.Reaches answers target) :
    ∃ found, build target = .ok found := by
  induction reached with
  | @here target next =>
    rw [answer] at h
    cases built : build target with
    | error failure =>
      rw [built] at h
      cases h
    | ok found => exact ⟨found, rfl⟩
  | @later target asked next found answered _ ih =>
    rw [answer] at h
    cases built : build target with
    | error failure =>
      rw [built] at h
      cases h
    | ok other =>
      cases agree target other found built answered
      rw [built] at h
      exact ih h

end Query

namespace Blueprint
open Query
variable (blueprint : Blueprint)

/-- Builds a graph without a memo and without looking for cycles, nested up to a depth. -/
def buildPlain : (depth : Nat) → Target → Except Failure (Option CallSite)
  | 0, _ => .error (.circular [])
  | depth + 1, target => (blueprint.plan target).answer (buildPlain depth)

def buildFresh (fuel : Nat) (chain : Chain) (target : Target) :
    Except Failure (Option CallSite) :=
  match chain.cycle? target.key with
  | some path => .error (.circular path)
  | none =>
    match fuel with
    | 0 => .error (.circular [])
    | fuel + 1 => (blueprint.plan target).answer (buildFresh fuel (chain ++ [target.key]))

/-- The graph of the target, whatever chain it is built under. -/
def Builds (target : Target) (found : Option CallSite) : Prop :=
  ∃ depth, blueprint.buildPlain depth target = .ok found

def Asks (target asked : Target) : Prop := (blueprint.plan target).Reaches blueprint.Builds asked

variable {blueprint}

theorem buildPlain_succ {depth : Nat} {target : Target} {found : Option CallSite}
    (h : blueprint.buildPlain depth target = .ok found) :
    blueprint.buildPlain (depth + 1) target = .ok found := by
  induction depth generalizing target found with
  | zero => cases h
  | succ depth ih =>
    rw [buildPlain] at h ⊢
    exact answer_of_reaches (fun _ _ => True) (fun _ _ _ => trivial)
      (fun _ _ _ built => ih built) h

theorem buildPlain_mono {depth more : Nat} (le : depth ≤ more) {target : Target}
    {found : Option CallSite} (h : blueprint.buildPlain depth target = .ok found) :
    blueprint.buildPlain more target = .ok found := by
  induction le with
  | refl => exact h
  | step _ ih => exact buildPlain_succ ih

theorem Builds.unique {target : Target} {found other : Option CallSite}
    (one : blueprint.Builds target found) (two : blueprint.Builds target other) : other = found := by
  obtain ⟨depth, one⟩ := one
  obtain ⟨more, two⟩ := two
  have first := buildPlain_mono (Nat.le_max_left depth more) one
  have second := buildPlain_mono (Nat.le_max_right depth more) two
  rw [first] at second
  cases second
  rfl

theorem Asks.built {target asked : Target} {depth : Nat} {found : Option CallSite}
    (asks : blueprint.Asks target asked) (h : blueprint.buildPlain (depth + 1) target = .ok found) :
    ∃ answer, blueprint.buildPlain depth asked = .ok answer := by
  rw [buildPlain] at h
  exact answered_of_reaches (fun _ _ _ built other => Builds.unique ⟨depth, built⟩ other) h asks

theorem built_of_transGen {target needed : Target} (needs : TransGen blueprint.Asks target needed)
    {depth : Nat} {found : Option CallSite} (h : blueprint.buildPlain depth target = .ok found) :
    ∃ less answer, less < depth ∧ blueprint.buildPlain less needed = .ok answer := by
  induction needs with
  | single asks =>
    cases depth with
    | zero => cases h
    | succ depth =>
      obtain ⟨answer, built⟩ := asks.built h
      exact ⟨depth, answer, Nat.lt_succ_self depth, built⟩
  | tail _ asks ih =>
    obtain ⟨less, answer, below, built⟩ := ih
    cases less with
    | zero => cases built
    | succ less =>
      obtain ⟨last, built⟩ := asks.built built
      exact ⟨less, last, by omega, built⟩

/-- A target that can be built does not need itself. -/
theorem Builds.acyclic {target : Target} {found : Option CallSite}
    (builds : blueprint.Builds target found) : ¬ TransGen blueprint.Asks target target := by
  intro cycle
  obtain ⟨depth, built⟩ := builds
  induction depth using Nat.strong_induction_on generalizing found with
  | _ depth ih =>
    obtain ⟨less, answer, below, again⟩ := built_of_transGen cycle built
    exact ih less below again

theorem builds_of_buildFresh {fuel : Nat} {chain : Chain} {target : Target}
    {found : Option CallSite} (h : blueprint.buildFresh fuel chain target = .ok found) :
    blueprint.Builds target found := by
  refine ⟨fuel, ?_⟩
  induction fuel generalizing chain target found with
  | zero =>
    unfold buildFresh at h
    cases cycle : chain.cycle? target.key <;> simp [cycle] at h
  | succ fuel ih =>
    unfold buildFresh at h
    cases cycle : chain.cycle? target.key with
    | some path => simp [cycle] at h
    | none =>
      simp only [cycle] at h
      exact answer_of_reaches (fun _ _ => True) (fun _ _ _ => trivial)
        (fun _ _ _ built => ih built) h

end Blueprint

def Target.service : Target → ServiceType
  | .single service => service
  | .member service _ _ => service

namespace Blueprint
open Query
variable {blueprint : Blueprint} {host : Host} {root : ServiceType}

/-- The target is described by the host, and names a registration that serves its service. -/
structure Proper (blueprint : Blueprint) (host : Host) (target : Target) : Prop where
  speaks : host.Speaks target.service
  lists : blueprint.registry.Lists target

theorem plan_congr (foreign : blueprint.registry.Foreign) {target other : Target}
    (proper : blueprint.Proper host target) (fits : blueprint.Proper host other)
    (same : (target.key == other.key) = true) : blueprint.plan target = blueprint.plan other := by
  have alone : ∀ {service : ServiceType} {position : Nat}, host.Speaks service →
      (position, 0) ∈ blueprint.registry.all service →
        blueprint.plan (.single service) = blueprint.plan (.member service position 0) := by
    intro service position speaks listed
    obtain ⟨strange, single⟩ := foreign.of_mem_all speaks listed
    simp only [plan, assemble, strange, single, Registry.single_of_mem_all listed]
  obtain ⟨services, slots⟩ := CacheKey.beq_iff.1 same
  cases target with
  | single service =>
    cases other with
    | single service' =>
      have equal : service = service' := Host.Speaks.eq proper.speaks fits.speaks services
      rw [equal]
    | member service' position slot =>
      have equal : service = service' := Host.Speaks.eq proper.speaks fits.speaks services
      have first : 0 = slot := slots
      subst equal first
      exact alone proper.speaks fits.lists
  | member service position slot =>
    cases other with
    | single service' =>
      have equal : service = service' := Host.Speaks.eq proper.speaks fits.speaks services
      have first : slot = 0 := slots
      subst equal first
      exact (alone proper.speaks proper.lists).symm
    | member service' position' slot' =>
      have equal : service = service' := Host.Speaks.eq proper.speaks fits.speaks services
      have last : slot = slot' := slots
      subst equal last
      rw [Registry.position_unique proper.lists fits.lists]

theorem Proper.asked (describes : host.Describes blueprint) {target asked : Target}
    (proper : blueprint.Proper host target) (asks : blueprint.MayAsk target asked) :
    blueprint.Proper host asked := by
  cases asks with
  | parameter listed declared => exact ⟨describes.taken _ _ listed _ declared, trivial⟩
  | member same collection member =>
    subst same
    exact ⟨proper.speaks.element collection, member⟩

/-- The keys that the build of a service can come to. -/
def reach (blueprint : Blueprint) (root : ServiceType) : List (List Nat) :=
  (blueprint.mentioned root).flatMap fun service =>
    (List.range (blueprint.registry.descriptors.length + 1)).map fun slot =>
      CacheKey.digest ⟨service, slot⟩

theorem length_reach (root : ServiceType) :
    (blueprint.reach root).length = blueprint.chainBound root := by
  simp [reach, chainBound]

def Within (blueprint : Blueprint) (root : ServiceType) (target : Target) : Prop :=
  target.service ∈ blueprint.mentioned root ∧
    target.key.slot ≤ blueprint.registry.descriptors.length

theorem Within.mem_reach {target : Target} (within : blueprint.Within root target) :
    target.key.digest ∈ blueprint.reach root := by
  refine List.mem_flatMap.2 ⟨target.service, within.1, List.mem_map.2 ⟨target.key.slot, ?_, ?_⟩⟩
  · exact List.mem_range.2 (Nat.lt_succ_of_le within.2)
  · cases target <;> rfl

theorem mem_layers_self (service : ServiceType) : service ∈ layers service := by
  cases service <;> simp [layers]

theorem mem_mentioned_self (blueprint : Blueprint) (service : ServiceType) :
    service ∈ blueprint.mentioned service :=
  List.mem_flatMap.2 ⟨service, by simp, mem_layers_self service⟩

theorem chainBound_pos (blueprint : Blueprint) (service : ServiceType) :
    0 < blueprint.chainBound service :=
  Nat.mul_pos (List.length_pos_of_mem (blueprint.mem_mentioned_self service)) (Nat.succ_pos _)

theorem element_mem_layers {service element : ServiceType}
    (collection : service.element = some element) :
    ∀ {outer : ServiceType}, service ∈ layers outer → element ∈ layers outer
  | .plain info, inside => by
    cases List.mem_singleton.1 inside
    cases collection
  | .generic closed definition arguments, inside => by
    cases List.mem_singleton.1 inside
    cases collection
  | .collection inner, inside => by
    rw [layers, List.mem_cons] at inside ⊢
    obtain rfl | deeper := inside
    · cases collection
      exact .inr (mem_layers_self _)
    · exact .inr (element_mem_layers collection deeper)

theorem exists_row {catalog : Catalog} {type : TypeId} {constructor : Constructor}
    (listed : constructor ∈ catalog.constructors type) :
    ∃ row ∈ catalog.rows, constructor ∈ row.2 := by
  unfold Catalog.constructors at listed
  cases found : catalog.rows.lookup type with
  | none => simp [found] at listed
  | some constructors =>
    rw [found] at listed
    obtain ⟨before, after, rows, _⟩ := List.lookup_eq_some_iff.1 found
    exact ⟨(type, constructors), by simp [rows], listed⟩

theorem parameter_mem_mentioned {type : TypeId} {constructor : Constructor} {parameter : Parameter}
    (listed : constructor ∈ blueprint.catalog.constructors type)
    (declared : parameter ∈ constructor.parameters) (root : ServiceType) :
    parameter.service ∈ blueprint.mentioned root := by
  obtain ⟨row, filed, inside⟩ := exists_row listed
  refine List.mem_flatMap.2 ⟨parameter.service, ?_, mem_layers_self _⟩
  refine List.mem_append_right _ (List.mem_flatMap.2 ⟨row, filed, ?_⟩)
  exact List.mem_flatMap.2 ⟨constructor, inside, List.mem_map.2 ⟨parameter, declared, rfl⟩⟩

theorem Within.asked {target asked : Target} (within : blueprint.Within root target)
    (asks : blueprint.MayAsk target asked) : blueprint.Within root asked := by
  cases asks with
  | parameter listed declared =>
    exact ⟨parameter_mem_mentioned listed declared root, Nat.zero_le _⟩
  | member same collection member =>
    subst same
    obtain ⟨outer, named, inside⟩ := List.mem_flatMap.1 within.1
    exact ⟨List.mem_flatMap.2 ⟨outer, named, element_mem_layers collection inside⟩,
      (Registry.slot_lt member).le⟩

/-- The targets on the path have keys of their own, which the build of the root can come to. -/
structure Nested (blueprint : Blueprint) (root : ServiceType) (path : List Target) : Prop where
  within : ∀ target ∈ path, blueprint.Within root target
  distinct : (path.map (·.key.digest)).Nodup

theorem Nested.nil : blueprint.Nested root [] := ⟨by simp, List.nodup_nil⟩

theorem Nested.enter {path : List Target} {target : Target} (nested : blueprint.Nested root path)
    (within : blueprint.Within root target)
    (fresh : Chain.cycle? (path.map Target.key) target.key = none) :
    blueprint.Nested root (path ++ [target]) := by
  constructor
  · intro other member
    obtain earlier | last := List.mem_append.1 member
    · exact nested.within other earlier
    · cases List.mem_singleton.1 last
      exact within
  · rw [List.map_append]
    refine List.Nodup.append nested.distinct (List.nodup_singleton _) ?_
    intro digest one other
    cases List.mem_singleton.1 other
    obtain ⟨entry, listed, same⟩ := List.mem_map.1 one
    have apart := Chain.cycle?_eq_none_iff.1 fresh entry.key (List.mem_map.2 ⟨entry, listed, rfl⟩)
    rw [CacheKey.digest_eq_iff.1 same] at apart
    cases apart

theorem Nested.length_le {path : List Target} (nested : blueprint.Nested root path) :
    path.length ≤ blueprint.chainBound root := by
  have bounded : path.map (·.key.digest) ⊆ blueprint.reach root := by
    intro digest member
    obtain ⟨target, listed, rfl⟩ := List.mem_map.1 member
    exact (nested.within target listed).mem_reach
  have short := nested.distinct.length_le_of_subset bounded
  rwa [length_reach, List.length_map] at short

/-- The targets on the path are under construction, each for the sake of the next ones and of the
last target. -/
structure Leads (blueprint : Blueprint) (host : Host) (root : ServiceType) (path : List Target)
    (target : Target) : Prop where
  proper : blueprint.Proper host target
  within : blueprint.Within root target
  above : ∀ other ∈ path, blueprint.Proper host other ∧ blueprint.Within root other ∧
    TransGen blueprint.Asks other target
  distinct : (path.map (·.key.digest)).Nodup

theorem Leads.nested {path : List Target} {target : Target}
    (leads : blueprint.Leads host root path target) : blueprint.Nested root path :=
  ⟨fun other listed => (leads.above other listed).2.1, leads.distinct⟩

/-- A target that can be built is not on a path that leads to it. -/
theorem Leads.cycle?_eq_none (foreign : blueprint.registry.Foreign) {path : List Target}
    {target : Target} {found : Option CallSite} (leads : blueprint.Leads host root path target)
    (builds : blueprint.Builds target found) :
    Chain.cycle? (path.map Target.key) target.key = none := by
  rw [Chain.cycle?_eq_none_iff]
  intro entry member
  obtain ⟨other, listed, rfl⟩ := List.mem_map.1 member
  rw [Bool.eq_false_iff]
  intro same
  obtain ⟨proper, _, needs⟩ := leads.above other listed
  have plans := plan_congr foreign proper leads.proper same
  obtain ⟨asked, asks, rest⟩ := TransGen.head'_iff.1 needs
  have again : blueprint.Asks target asked := by
    rw [Asks, ← plans]
    exact asks
  exact builds.acyclic (TransGen.head'_iff.2 ⟨asked, again, rest⟩)

theorem Leads.enter (describes : host.Describes blueprint) {path : List Target}
    {target asked : Target} (leads : blueprint.Leads host root path target)
    (fresh : Chain.cycle? (path.map Target.key) target.key = none)
    (asks : blueprint.Asks target asked) :
    blueprint.Leads host root (path ++ [target]) asked := by
  have may : blueprint.MayAsk target asked := (only_plan target).of_reaches asks
  refine ⟨leads.proper.asked describes may, leads.within.asked may, ?_,
    (leads.nested.enter leads.within fresh).distinct⟩
  intro other member
  obtain earlier | last := List.mem_append.1 member
  · obtain ⟨proper, within, needs⟩ := leads.above other earlier
    exact ⟨proper, within, needs.tail asks⟩
  · cases List.mem_singleton.1 last
    exact ⟨leads.proper, leads.within, .single asks⟩

theorem Leads.length_lt {path : List Target} {target : Target}
    (leads : blueprint.Leads host root path target)
    (fresh : Chain.cycle? (path.map Target.key) target.key = none) :
    path.length < blueprint.chainBound root := by
  have longer := (leads.nested.enter leads.within fresh).length_le
  rwa [List.length_append] at longer

/-- What can be built at all can be built afresh under any chain that leads to it. -/
theorem Leads.buildFresh_eq (foreign : blueprint.registry.Foreign)
    (describes : host.Describes blueprint) {depth fuel : Nat} {path : List Target}
    {target : Target} {found : Option CallSite} (leads : blueprint.Leads host root path target)
    (enough : blueprint.chainBound root ≤ fuel + path.length)
    (h : blueprint.buildPlain depth target = .ok found) :
    blueprint.buildFresh fuel (path.map Target.key) target = .ok found := by
  induction depth generalizing fuel path target found with
  | zero => cases h
  | succ depth ih =>
    have fresh := leads.cycle?_eq_none foreign ⟨depth + 1, h⟩
    have short := leads.length_lt fresh
    cases fuel with
    | zero => omega
    | succ fuel =>
      unfold buildFresh
      simp only [fresh]
      rw [buildPlain] at h
      refine answer_of_reaches blueprint.Builds (fun _ _ built => ⟨depth, built⟩)
        (fun asked answer asks built => ?_) h
      have longer : blueprint.chainBound root ≤ fuel + (path ++ [target]).length := by
        rw [List.length_append, List.length_singleton]
        omega
      have next := ih (leads.enter describes fresh asks) longer built
      rwa [List.map_append] at next

theorem Leads.buildFresh_root (foreign : blueprint.registry.Foreign)
    (describes : host.Describes blueprint) {target : Target} {found : Option CallSite}
    (leads : blueprint.Leads host root [] target) (builds : blueprint.Builds target found) :
    blueprint.buildFresh (blueprint.chainBound root) [] target = .ok found := by
  obtain ⟨depth, built⟩ := builds
  have enough : blueprint.chainBound root ≤
      blueprint.chainBound root + ([] : List Target).length := Nat.le_refl _
  exact leads.buildFresh_eq foreign describes enough built

end Blueprint
end ServiceContainer
