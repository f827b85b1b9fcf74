import Mathlib.Data.List.Chain
import ServiceContainer.Proofs.CallSite.Fresh

/-! The depth-first search by which a graph is built, without any bound on its depth. Main
statements: every request ends as its search does; on the way no key is twice on the chain; and the
search fails for a cycle exactly if it comes to a key on the chain, in which case the failure names
the targets from there on, each of which needs the next. -/
namespace ServiceContainer

/-- What is searched for: the graph of a target, or the end of a plan. -/
inductive Goal where
  | target (target : Target)
  | plan (query : Query (Except Failure (Option CallSite)))

namespace Chain
variable {before after : Chain} {entry key : CacheKey}

theorem cycle?_append (apart : ∀ other ∈ before, (other == key) = false)
    (same : (entry == key) = true) :
    cycle? (before ++ entry :: after) key =
      some ((entry :: after).map CacheKey.name ++ [key.name]) := by
  have dropped : (before ++ entry :: after).dropWhile (fun other => !(other == key)) =
      entry :: after := by
    rw [List.dropWhile_append_of_pos (by simpa using apart), List.dropWhile_cons_of_neg (by simpa)]
  rw [cycle?, dropped]

theorem exists_of_cycle? {chain : Chain} {path : List String}
    (closed : chain.cycle? key = some path) :
    ∃ before entry after, chain = before ++ entry :: after ∧ (entry == key) = true ∧
      path = (entry :: after).map CacheKey.name ++ [key.name] := by
  unfold cycle? at closed
  have parts := List.takeWhile_append_dropWhile (p := fun other => !(other == key)) (l := chain)
  cases dropped : chain.dropWhile (fun other => !(other == key)) with
  | nil =>
    rw [dropped] at closed
    cases closed
  | cons entry after =>
    rw [dropped] at closed parts
    cases closed
    refine ⟨_, entry, after, parts.symm, ?_, rfl⟩
    have stopped := List.head?_dropWhile_not (fun other => !(other == key)) chain
    simpa [dropped] using stopped

theorem cycle?_eq_none_of_slots {chain : Chain}
    (apart : ∀ entry ∈ chain, (entry.service == key.service) = true → entry.slot ≠ key.slot) :
    chain.cycle? key = none := by
  refine cycle?_eq_none_iff.2 fun entry listed => Bool.eq_false_iff.2 fun same => ?_
  obtain ⟨services, slots⟩ := CacheKey.beq_iff.1 same
  exact apart entry listed services slots

end Chain

namespace Blueprint
open Query
variable {blueprint : Blueprint} {root : ServiceType}

/-- The search for the goal, under the targets that it is for, starts from one memo, ends with the
result and leaves the other memo. -/
inductive Finds (blueprint : Blueprint) :
    List Target → Goal → Memo → Except Failure (Option CallSite) → Memo → Prop where
  | known {above : List Target} {target : Target} {memo : Memo} {found : Option CallSite}
      (recorded : memo.Records target found) :
      Finds blueprint above (.target target) memo (.ok found) memo
  | cycle {above : List Target} {target : Target} {memo : Memo} {path : List String}
      (unknown : memo.lookup target.key = none)
      (closed : Chain.cycle? (above.map Target.key) target.key = some path) :
      Finds blueprint above (.target target) memo (.error (.circular path)) memo
  | built {above : List Target} {target : Target} {memo later : Memo}
      {result : Except Failure (Option CallSite)} (unknown : memo.lookup target.key = none)
      (fresh : Chain.cycle? (above.map Target.key) target.key = none)
      (planned : Finds blueprint (above ++ [target]) (.plan (blueprint.plan target)) memo result
        later) :
      Finds blueprint above (.target target) memo result (later.remember target.key result)
  | done {above : List Target} {memo : Memo} (result : Except Failure (Option CallSite)) :
      Finds blueprint above (.plan (.done result)) memo result memo
  | asked {above : List Target} {target : Target} {memo between later : Memo}
      {next : Option CallSite → Query (Except Failure (Option CallSite))}
      {found : Option CallSite} {result : Except Failure (Option CallSite)}
      (answered : Finds blueprint above (.target target) memo (.ok found) between)
      (rest : Finds blueprint above (.plan (next found)) between result later) :
      Finds blueprint above (.plan (.ask target next)) memo result later
  | failed {above : List Target} {target : Target} {memo later : Memo}
      {next : Option CallSite → Query (Except Failure (Option CallSite))} {failure : Failure}
      (first : Finds blueprint above (.target target) memo (.error failure) later) :
      Finds blueprint above (.plan (.ask target next)) memo (.error failure) later

inductive Comes (blueprint : Blueprint) (above : List Target) :
    Query (Except Failure (Option CallSite)) → Memo → Target → Memo → Prop where
  | here {target : Target} {memo : Memo}
      {next : Option CallSite → Query (Except Failure (Option CallSite))} :
      Comes blueprint above (.ask target next) memo target memo
  | later {first target : Target} {memo between last : Memo} {found : Option CallSite}
      {next : Option CallSite → Query (Except Failure (Option CallSite))}
      (answered : blueprint.Finds above (.target first) memo (.ok found) between)
      (rest : Comes blueprint above (next found) between target last) :
      Comes blueprint above (.ask first next) memo target last

/-- The search from the start comes to search for the target under some others, from the second
memo. -/
inductive Visits (blueprint : Blueprint) (start : Target) (memo : Memo) :
    List Target → Target → Memo → Prop where
  | start : Visits blueprint start memo [] start memo
  | enter {above : List Target} {target asked : Target} {between last : Memo}
      (visited : Visits blueprint start memo above target between)
      (unknown : between.lookup target.key = none)
      (fresh : Chain.cycle? (above.map Target.key) target.key = none)
      (comes : blueprint.Comes (above ++ [target]) (blueprint.plan target) between asked last) :
      Visits blueprint start memo (above ++ [target]) asked last

/-- The search comes to a key that is on its chain; the path names what is on the chain from that
key on, and the key once more. -/
def Circles (blueprint : Blueprint) (start : Target) (memo : Memo) (path : List String) : Prop :=
  ∃ before entry after target between,
    blueprint.Visits start memo (before ++ entry :: after) target between ∧
      (entry.key == target.key) = true ∧
      path = (entry :: after).map (·.key.name) ++ [target.key.name]

/-- A request and the target that it is for. A request for the registration of an open definition
is for none. -/
inductive Requests (blueprint : Blueprint) : Build (Option CallSite) → Target → Prop where
  | service (service : ServiceType) :
      Requests blueprint (blueprint.callSite service) (.single service)
  | registration {position : Nat} {descriptor : Descriptor}
      (registered : blueprint.registry.descriptors[position]? = some descriptor)
      (closed : descriptor.isOpenGeneric = false) :
      Requests blueprint (blueprint.callSiteForDescriptor position)
        (.member descriptor.service position (blueprint.registry.slotOf position))

theorem Requests.bounded {request : Build (Option CallSite)} {target : Target}
    (requests : blueprint.Requests request target) :
    request = blueprint.buildWithin (blueprint.chainBound target.service) [] target ∧
      blueprint.Within target.service target := by
  cases requests with
  | service service => exact ⟨rfl, blueprint.mem_mentioned_self service, Nat.zero_le _⟩
  | @registration position descriptor registered closed =>
    refine ⟨?_, blueprint.mem_mentioned_self _, ?_⟩
    · simp only [callSiteForDescriptor, registered, closed]
      rfl
    · exact (Registry.slot_lt (Registry.mem_all_slotOf registered closed)).le

section Runs

theorem finds_of_run {above : List Target} {build : Target → Build (Option CallSite)}
    {allowed : Target → Prop} (finds : ∀ asked, allowed asked → ∀ memo result later,
      (build asked).run memo = (result, later) →
        blueprint.Finds above (.target asked) memo result later)
    {query : Query (Except Failure (Option CallSite))} (only : query.Only allowed)
    {memo later : Memo} {result : Except Failure (Option CallSite)}
    (ran : (Query.run build query).run memo = (result, later)) :
    blueprint.Finds above (.plan query) memo result later := by
  induction query generalizing memo with
  | done outcome =>
    cases ran
    exact .done _
  | ask target next ih =>
    obtain ⟨found, between, first, rest⟩ | ⟨failure, first, rfl⟩ := Stateful.run_bind_eq ran
    · exact .asked (finds target only.1 memo _ _ first) (ih found (only.2 found) rest)
    · exact .failed (finds target only.1 memo _ _ first)

theorem Nested.finds {fuel : Nat} {above : List Target} (nested : blueprint.Nested root above)
    {target : Target} (within : blueprint.Within root target)
    (enough : blueprint.chainBound root ≤ fuel + above.length) {memo later : Memo}
    {result : Except Failure (Option CallSite)}
    (ran : (blueprint.buildWithin fuel (above.map Target.key) target).run memo = (result, later)) :
    blueprint.Finds above (.target target) memo result later := by
  induction fuel generalizing above target memo later result with
  | zero =>
    rw [run_buildWithin] at ran
    split at ran
    · rename_i known answered
      cases ran
      exact .known answered
    · rename_i unknown
      split at ran
      · rename_i path closed
        cases ran
        exact .cycle unknown closed
      · rename_i fresh
        have longer := (nested.enter within fresh).length_le
        rw [List.length_append, List.length_singleton] at longer
        omega
  | succ fuel ih =>
    cases answered : memo.lookup target.key with
    | some known =>
      simp only [run_buildWithin, answered] at ran
      cases ran
      exact .known answered
    | none =>
      cases fresh : Chain.cycle? (above.map Target.key) target.key with
      | some path =>
        simp only [run_buildWithin, answered, fresh] at ran
        cases ran
        exact .cycle answered fresh
      | none =>
        obtain ⟨between, ended, rfl⟩ := run_of_unknown answered fresh ran
        have inside := nested.enter within fresh
        have longer : blueprint.chainBound root ≤ fuel + (above ++ [target]).length := by
          rw [List.length_append, List.length_singleton]
          omega
        have keys : above.map Target.key ++ [target.key] = (above ++ [target]).map Target.key := by
          rw [List.map_append, List.map_singleton]
        rw [keys] at ended
        have only : (blueprint.plan target).Only (blueprint.Within root) :=
          (only_plan target).mono fun _ asked => within.asked asked
        exact .built answered fresh
          (finds_of_run (fun _ asks _ _ _ ran => ih inside asks longer ran) only ended)

end Runs

theorem lookup_remember {memo : Memo} {key other : CacheKey} (apart : (key == other) = false)
    (result : Except Failure (Option CallSite)) :
    (memo.remember key result).lookup other = memo.lookup other := by
  cases result with
  | error failure => rfl
  | ok found => rw [Memo.remember, Table.lookup_insert, apart, if_neg Bool.false_ne_true]

theorem Finds.unique {above : List Target} {goal : Goal} {memo later last : Memo}
    {result other : Except Failure (Option CallSite)}
    (one : blueprint.Finds above goal memo result later)
    (two : blueprint.Finds above goal memo other last) : result = other ∧ later = last := by
  induction one generalizing other last with
  | known recorded =>
    cases two with
    | known again =>
      cases recorded.symm.trans again
      exact ⟨rfl, rfl⟩
    | cycle unknown _ | built unknown _ _ => cases unknown.symm.trans recorded
  | cycle unknown closed =>
    cases two with
    | known recorded => cases unknown.symm.trans recorded
    | cycle _ again =>
      cases closed.symm.trans again
      exact ⟨rfl, rfl⟩
    | built _ fresh _ => cases fresh.symm.trans closed
  | built unknown fresh _ ih =>
    cases two with
    | known recorded => cases unknown.symm.trans recorded
    | cycle _ closed => cases fresh.symm.trans closed
    | built _ _ planned =>
      obtain ⟨rfl, rfl⟩ := ih planned
      exact ⟨rfl, rfl⟩
  | done result =>
    cases two
    exact ⟨rfl, rfl⟩
  | asked _ _ ihFirst ihRest =>
    cases two with
    | asked answered rest =>
      obtain ⟨same, rfl⟩ := ihFirst answered
      cases same
      exact ihRest rest
    | failed first => cases (ihFirst first).1
  | failed _ ih =>
    cases two with
    | asked answered _ => cases (ih answered).1
    | failed first =>
      obtain ⟨same, rfl⟩ := ih first
      cases same
      exact ⟨rfl, rfl⟩

theorem Finds.kept {above : List Target} {goal : Goal} {memo later : Memo}
    {result : Except Failure (Option CallSite)}
    (finds : blueprint.Finds above goal memo result later) :
    ∀ entry ∈ above, later.lookup entry.key = memo.lookup entry.key := by
  induction finds with
  | known _ | cycle _ _ | done _ => exact fun _ _ => rfl
  | @built above target memo later result _ fresh _ ih =>
    intro entry listed
    have apart : (target.key == entry.key) = false := by
      have other := Chain.cycle?_eq_none_iff.1 fresh entry.key (List.mem_map_of_mem listed)
      rwa [Bool.eq_false_iff, BEq.comm, ← Bool.eq_false_iff] at other
    rw [lookup_remember apart]
    exact ih entry (List.mem_append_left _ listed)
  | asked _ _ ihFirst ihRest =>
    exact fun entry listed => (ihRest entry listed).trans (ihFirst entry listed)
  | failed _ ih => exact ih

namespace Comes
variable {above : List Target} {query : Query (Except Failure (Option CallSite))}
  {memo last : Memo} {target : Target}

theorem allowed (comes : blueprint.Comes above query memo target last) {allowed : Target → Prop}
    (only : query.Only allowed) : allowed target := by
  induction comes with
  | here => exact only.1
  | later _ _ ih => exact ih (only.2 _)

theorem kept (comes : blueprint.Comes above query memo target last) :
    ∀ entry ∈ above, last.lookup entry.key = memo.lookup entry.key := by
  induction comes with
  | here => exact fun _ _ => rfl
  | later answered _ ih =>
    exact fun entry listed => (ih entry listed).trans (answered.kept entry listed)

theorem finds (comes : blueprint.Comes above query memo target last) {later : Memo}
    {result : Except Failure (Option CallSite)}
    (ended : blueprint.Finds above (.plan query) memo result later) :
    ∃ answer after, blueprint.Finds above (.target target) last answer after ∧
      ∀ failure, answer = .error failure → result = .error failure := by
  induction comes with
  | here =>
    cases ended with
    | asked answered _ => exact ⟨_, _, answered, by rintro _ ⟨⟩⟩
    | failed first =>
      refine ⟨_, _, first, ?_⟩
      rintro _ ⟨⟩
      rfl
  | later answered _ ih =>
    cases ended with
    | asked again rest =>
      obtain ⟨same, rfl⟩ := answered.unique again
      cases same
      exact ih rest
    | failed first => cases (answered.unique first).1

end Comes

namespace Visits
variable {start : Target} {memo between : Memo} {above : List Target} {target : Target}

theorem nested (visits : blueprint.Visits start memo above target between)
    (within : blueprint.Within root start) :
    blueprint.Nested root above ∧ blueprint.Within root target := by
  induction visits with
  | start => exact ⟨.nil, within⟩
  | @enter above target asked _ _ _ _ fresh comes ih =>
    obtain ⟨nested, inside⟩ := ih
    have only : (blueprint.plan target).Only (blueprint.Within root) :=
      (only_plan target).mono fun _ asked => inside.asked asked
    exact ⟨nested.enter inside fresh, comes.allowed only⟩

/-- The chain leads from the start to the target, by what each of its targets needs. -/
theorem linked (visits : blueprint.Visits start memo above target between) :
    (above ++ [target]).IsChain blueprint.Needs ∧ (above ++ [target]).head? = some start := by
  induction visits with
  | start => exact ⟨.singleton _, rfl⟩
  | @enter above target asked _ _ _ _ _ comes ih =>
    obtain ⟨linked, first⟩ := ih
    have needed := comes.allowed (needs_plan target)
    constructor
    · refine linked.append (.singleton asked) fun last ends next begins => ?_
      rw [List.getLast?_concat] at ends
      cases ends
      cases begins
      exact needed
    · rw [List.head?_append, first]
      rfl

theorem unknown (visits : blueprint.Visits start memo above target between) :
    ∀ entry ∈ above, between.lookup entry.key = none := by
  induction visits with
  | start => simp
  | enter _ unknown _ comes ih =>
    intro entry listed
    rw [comes.kept entry listed]
    obtain earlier | last := List.mem_append.1 listed
    · exact ih entry earlier
    · cases List.mem_singleton.1 last
      exact unknown

/-- What is searched for on the way is found, and its failure is that of the whole search. -/
theorem finds (visits : blueprint.Visits start memo above target between) {later : Memo}
    {result : Except Failure (Option CallSite)}
    (ended : blueprint.Finds [] (.target start) memo result later) :
    ∃ answer after, blueprint.Finds above (.target target) between answer after ∧
      ∀ failure, answer = .error failure → result = .error failure := by
  induction visits with
  | start => exact ⟨result, later, ended, fun _ same => same⟩
  | enter _ unknown fresh comes ih =>
    obtain ⟨answer, after, found, fails⟩ := ih
    cases found with
    | known recorded => cases unknown.symm.trans recorded
    | cycle _ closed => cases fresh.symm.trans closed
    | built _ _ planned =>
      obtain ⟨inner, last, asked, passes⟩ := comes.finds planned
      exact ⟨inner, last, asked, fun failure same => fails failure (passes failure same)⟩

theorem distinct (visits : blueprint.Visits start memo above target between)
    (within : blueprint.Within root start) :
    (above.map Target.key).Pairwise fun one other => (one == other) = false := by
  have digests := (visits.nested within).1.distinct
  rw [List.Nodup, List.pairwise_map] at digests
  rw [List.pairwise_map]
  refine digests.imp fun {one other} apart => Bool.eq_false_iff.2 fun same => ?_
  exact apart (CacheKey.digest_eq_iff.2 same)

theorem circular {before after : List Target} {entry : Target}
    (visits : blueprint.Visits start memo (before ++ entry :: after) target between)
    (within : blueprint.Within root start) (same : (entry.key == target.key) = true) {later : Memo}
    {result : Except Failure (Option CallSite)}
    (ended : blueprint.Finds [] (.target start) memo result later) :
    result = .error (.circular ((entry :: after).map (·.key.name) ++ [target.key.name])) := by
  have apart : ∀ other ∈ before.map Target.key, (other == target.key) = false := by
    intro other listed
    have distinct := visits.distinct within
    rw [List.map_append, List.pairwise_append] at distinct
    have first := distinct.2.2 other listed entry.key (by simp)
    rwa [BEq.congr_right same] at first
  have closes : Chain.cycle? ((before ++ entry :: after).map Target.key) target.key =
      some ((entry :: after).map (·.key.name) ++ [target.key.name]) := by
    rw [List.map_append, List.map_cons, Chain.cycle?_append apart same, ← List.map_cons,
      List.map_map]
    rfl
  have unknown : between.lookup target.key = none := by
    rw [← between.lookup_congr same]
    exact visits.unknown entry (by simp)
  obtain ⟨answer, after, found, fails⟩ := visits.finds ended
  cases found with
  | known recorded => cases unknown.symm.trans recorded
  | built _ fresh _ => cases fresh.symm.trans closes
  | cycle _ closed =>
    cases closed.symm.trans closes
    exact fails _ rfl

end Visits

theorem Finds.circles {start : Target} {origin : Memo} {above : List Target} {goal : Goal}
    {memo later : Memo} {result : Except Failure (Option CallSite)}
    (finds : blueprint.Finds above goal memo result later) {path : List String}
    (circular : result = .error (.circular path)) :
    match goal with
    | .target target => blueprint.Visits start origin above target memo →
        blueprint.Circles start origin path
    | .plan query => (∀ failure, query.Yields (fun _ _ => True) (.error failure) →
          Constructor.Refusal failure) →
        (∀ asked last, blueprint.Comes above query memo asked last →
          blueprint.Visits start origin above asked last) →
        blueprint.Circles start origin path := by
  induction finds with
  | known _ => cases circular
  | @cycle above target memo names unknown closed =>
    intro visited
    cases circular
    obtain ⟨_, _, _, keys, same, rfl⟩ := Chain.exists_of_cycle? closed
    obtain ⟨before, rest, rfl, rfl, others⟩ := List.map_eq_append_iff.1 keys
    obtain ⟨entry, after, rfl, rfl, rfl⟩ := List.map_eq_cons_iff.1 others
    refine ⟨before, entry, after, target, memo, visited, same, ?_⟩
    rw [← List.map_cons, List.map_map]
    rfl
  | built unknown fresh _ ih =>
    intro visited
    refine ih circular (fun failure => refusal_of_plan) fun asked last comes => ?_
    exact .enter visited unknown fresh comes
  | done result =>
    intro refuses _
    subst circular
    cases refuses _ (.done _)
  | asked answered _ _ ih =>
    intro refuses visits
    refine ih circular (fun failure failed => refuses failure (.ask trivial failed)) ?_
    exact fun asked last comes => visits asked last (.later answered comes)
  | failed _ ih =>
    intro _ visits
    exact ih circular (visits _ _ .here)

/-- A graph is built by a search that always ends. On the way the keys on the chain are distinct, and
each target on it needs the next. The failure is for a cycle if and only if the search comes to a key
on its chain; other slots of a service do not count as the same key. -/
theorem Requests.search {request : Build (Option CallSite)} {start : Target}
    (requests : blueprint.Requests request start) (memo : Memo) :
    (∀ result later, request.run memo = (result, later) ↔
      blueprint.Finds [] (.target start) memo result later) ∧
    (∀ above target between, blueprint.Visits start memo above target between →
      ((above.map Target.key).Pairwise fun one other => (one == other) = false) ∧
        (above ++ [target]).IsChain blueprint.Needs ∧ (above ++ [target]).head? = some start) ∧
    (∀ path, (request.run memo).1 = .error (.circular path) ↔
      blueprint.Circles start memo path) ∧
    ∀ (chain : Chain) (key : CacheKey),
      (∀ entry ∈ chain, (entry.service == key.service) = true → entry.slot ≠ key.slot) →
        chain.cycle? key = none := by
  obtain ⟨bounded, within⟩ := requests.bounded
  have finds : blueprint.Finds [] (.target start) memo (request.run memo).1 (request.run memo).2 := by
    subst bounded
    exact Nested.nil.finds within le_rfl rfl
  refine ⟨fun result later => ?_, fun above target between visits => ?_, fun path => ?_,
    fun chain key => Chain.cycle?_eq_none_of_slots⟩
  · constructor
    · intro ran
      rwa [ran] at finds
    · intro found
      obtain ⟨same, left⟩ := finds.unique found
      exact Prod.ext same left
  · exact ⟨visits.distinct within, visits.linked⟩
  · constructor
    · exact fun circular => finds.circles circular .start
    · rintro ⟨before, entry, after, target, between, visits, same, rfl⟩
      exact visits.circular within same finds

section Sample

def chained : TypeInfo := ⟨firstFreeTypeId, "Chained"⟩

def owner : TypeInfo := ⟨firstFreeTypeId + 1, "Owner"⟩

def part : TypeInfo := ⟨firstFreeTypeId + 2, "Part"⟩

/-- The earlier registration of a service wraps the last one; and an owner needs all its parts, each
of which needs the owner. -/
def looped : Blueprint where
  registry := ⟨[⟨.plain chained, .transient, .constructed chained none⟩,
    ⟨.plain chained, .transient, .produced chained.name fun _ => pure (.error .scopeDisposed)⟩,
    ⟨.plain owner, .transient, .constructed owner none⟩,
    ⟨.plain part, .transient, .constructed part none⟩]⟩
  catalog :=
    let taking (type : TypeInfo) (service : ServiceType) : TypeId × List Constructor :=
      (type.id, [{
        implementation := type.name, parameters := [⟨service, none⟩]
        activate := fun _ => pure (.error .scopeDisposed) }])
    ⟨[taking chained (.plain chained), taking owner (.collection (.plain part)),
      taking part (.plain owner)]⟩

def circle? (request : Build (Option CallSite)) : Option (List String) :=
  match (request.run {}).1 with
  | .error (.circular path) => some path
  | _ => none

theorem circle?_eq_some {request : Build (Option CallSite)} {path : List String}
    (found : circle? request = some path) : (request.run {}).1 = .error (.circular path) := by
  unfold circle? at found
  split at found
  · rename_i failed
    cases found
    exact failed
  · cases found

theorem circle?_eq_none {request : Build (Option CallSite)} (none : circle? request = none)
    (path : List String) : (request.run {}).1 ≠ .error (.circular path) := by
  intro failed
  rw [circle?, failed] at none
  cases none

end Sample

/-- A cycle through a collection is found, and a registration under one that it needs is none. -/
theorem search_looped :
    looped.Requests (looped.callSite (.plain owner)) (.single (.plain owner)) ∧
    looped.Circles (.single (.plain owner)) {} ["Owner", "Part", "Part", "Owner"] ∧
    looped.Requests (looped.callSiteForDescriptor 0)
      (.member (.plain chained) 0 (looped.registry.slotOf 0)) ∧
    ∀ path, ¬ looped.Circles (.member (.plain chained) 0 (looped.registry.slotOf 0)) {} path := by
  have owned : looped.Requests (looped.callSite (.plain owner)) (.single (.plain owner)) :=
    .service _
  have wrapping : looped.Requests (looped.callSiteForDescriptor 0)
      (.member (.plain chained) 0 (looped.registry.slotOf 0)) := by
    have registered : looped.registry.descriptors[0]? =
      some ⟨.plain chained, .transient, .constructed chained none⟩ := rfl
    exact .registration registered rfl
  refine ⟨owned, ?_, wrapping, fun path circles => ?_⟩
  · have found : circle? (looped.callSite (.plain owner)) =
      some ["Owner", "Part", "Part", "Owner"] := by decide +kernel
    exact ((owned.search {}).2.2.1 _).1 (circle?_eq_some found)
  · have passed : circle? (looped.callSiteForDescriptor 0) = none := by decide +kernel
    exact circle?_eq_none passed path (((wrapping.search {}).2.2.1 path).2 circles)

end Blueprint
end ServiceContainer
