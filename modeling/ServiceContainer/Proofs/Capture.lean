import ServiceContainer.Proofs.Verdict

/-! Captured scoped services. A singleton of a graph captures a scoped service if it reaches one,
through whatever lies between. Main statement: the verdict on a graph refuses it if and only if some
singleton captures one, and otherwise names the first scoped service that is reached from the top
without meeting a singleton. -/
namespace ServiceContainer.CallSite
open Relation

mutual
theorem of_children {P : CallSite → Prop}
    (step : ∀ callSite : CallSite, (∀ child ∈ callSite.children, P child) → P callSite) :
    ∀ callSite : CallSite, P callSite
  | .construct _ _ _ parameters => step _ (all_of_children step parameters)
  | .collect _ items => step _ (all_of_children step items)
  | .constant _ _ | .fallback _ _ | .factory _ _ | .own _ _ => step _ fun _ absurd => nomatch absurd
theorem all_of_children {P : CallSite → Prop}
    (step : ∀ callSite : CallSite, (∀ child ∈ callSite.children, P child) → P callSite) :
    ∀ callSites : List CallSite, ∀ callSite ∈ callSites, P callSite
  | [] => fun _ absurd => nomatch absurd
  | first :: rest =>
    List.forall_mem_cons.2 ⟨of_children step first, all_of_children step rest⟩
end

def Contains : CallSite → CallSite → Prop :=
  ReflTransGen fun parent child => child ∈ parent.children

/-- Some singleton of the graph reaches a scoped service. -/
def Captures (callSite : CallSite) : Prop :=
  ∃ singleton captive, callSite.Contains singleton ∧ singleton.site.location = .root ∧
    singleton.Contains captive ∧ captive.site.location = .scope

/-- The node is reached from the graph's root, and no singleton is met on the way. -/
def Opens (callSite node : CallSite) : Prop :=
  callSite.site.location ≠ .root ∧
    ReflTransGen (fun parent child => child ∈ parent.children ∧ child.site.location ≠ .root)
      callSite node

def Site.opening (site : Site) (node : CallSite) (beneath : List CallSite) : List CallSite :=
  if site.location = .root then [] else node :: beneath

mutual
/-- The nodes that are reached without meeting a singleton, each before those beneath it. -/
def openNodes : CallSite → List CallSite
  | .construct site activate cast parameters =>
    Site.opening site (.construct site activate cast parameters) (openAll parameters)
  | .collect site items => Site.opening site (.collect site items) (openAll items)
  | .constant site value => Site.opening site (.constant site value) []
  | .fallback site value => Site.opening site (.fallback site value) []
  | .factory site body => Site.opening site (.factory site body) []
  | .own site service => Site.opening site (.own site service) []
def openAll : List CallSite → List CallSite
  | [] => []
  | callSite :: rest => callSite.openNodes ++ openAll rest
end

def isScoped (callSite : CallSite) : Bool := callSite.site.location == .scope

def firstScoped (nodes : List CallSite) : Option String :=
  (nodes.find? isScoped).map (·.site.service.name)

variable {callSite node : CallSite}

theorem openNodes_eq (callSite : CallSite) : callSite.openNodes =
    if callSite.site.location = .root then [] else callSite :: openAll callSite.children := by
  cases callSite <;> rw [openNodes] <;> rfl

theorem mem_openAll_iff {callSites : List CallSite} :
    node ∈ openAll callSites ↔ ∃ callSite ∈ callSites, node ∈ callSite.openNodes := by
  induction callSites with
  | nil => simp [openAll]
  | cons callSite rest ih => simp [openAll, ih]

theorem opens_iff : callSite.Opens node ↔ callSite.site.location ≠ .root ∧
    (callSite = node ∨ ∃ child ∈ callSite.children, child.Opens node) := by
  unfold Opens
  rw [ReflTransGen.cases_head_iff]
  constructor
  · rintro ⟨own, rfl | ⟨child, ⟨member, unkept⟩, rest⟩⟩
    · exact ⟨own, .inl rfl⟩
    · exact ⟨own, .inr ⟨child, member, unkept, rest⟩⟩
  · rintro ⟨own, rfl | ⟨child, member, unkept, rest⟩⟩
    · exact ⟨own, .inl rfl⟩
    · exact ⟨own, .inr ⟨child, ⟨member, unkept⟩, rest⟩⟩

/-- The list has just the nodes that are reached without meeting a singleton. -/
theorem mem_openNodes_iff : node ∈ callSite.openNodes ↔ callSite.Opens node := by
  induction callSite using of_children with
  | step callSite ih =>
    rw [openNodes_eq, opens_iff]
    split
    · rename_i kept
      exact iff_of_false List.not_mem_nil fun opens => opens.1 kept
    · rename_i unkept
      rw [List.mem_cons, mem_openAll_iff, eq_comm, and_iff_right unkept]
      refine or_congr_right (exists_congr fun child => ?_)
      exact and_congr_right fun member => ih child member

theorem Opens.contains (opens : callSite.Opens node) : callSite.Contains node :=
  ReflTransGen.mono (fun _ _ step => step.1) _ _ opens.2

theorem captures_iff : callSite.Captures ↔
    (callSite.site.location = .root ∧ ∃ child ∈ callSite.children, ∃ captive,
      child.Contains captive ∧ captive.site.location = .scope) ∨
    ∃ child ∈ callSite.children, child.Captures := by
  constructor
  · rintro ⟨singleton, captive, within, root, reaches, scope⟩
    rcases ReflTransGen.cases_head within with rfl | ⟨child, member, rest⟩
    · rcases ReflTransGen.cases_head reaches with rfl | ⟨child, member, rest⟩
      · cases root.symm.trans scope
      · exact .inl ⟨root, child, member, captive, rest, scope⟩
    · exact .inr ⟨child, member, singleton, captive, rest, root, reaches, scope⟩
  · rintro (⟨root, child, member, captive, reaches, scope⟩ |
      ⟨child, member, singleton, captive, within, rest⟩)
    · exact ⟨callSite, captive, .refl, root, .head member reaches, scope⟩
    · exact ⟨singleton, captive, .head member within, rest⟩

/-- If no singleton captures it, a scoped service of a graph is met before any singleton. -/
theorem opens_of_contains (free : ¬callSite.Captures) (contains : callSite.Contains node)
    (scope : node.site.location = .scope) : callSite.Opens node := by
  induction contains using ReflTransGen.head_induction_on with
  | refl => exact ⟨by simp [scope], .refl⟩
  | @head parent child member reaches ih =>
    have unkept : parent.site.location ≠ .root := fun root =>
      free ⟨parent, node, .refl, root, .head member reaches, scope⟩
    refine opens_iff.2 ⟨unkept, .inr ⟨child, member, ih fun captures => free ?_⟩⟩
    exact captures_iff.2 (.inr ⟨child, member, captures⟩)

theorem Opens.exposed (opens : callSite.Opens node) (scope : node.site.location = .scope) :
    callSite.Exposed := by
  obtain ⟨own, reaches⟩ := opens
  induction reaches using ReflTransGen.head_induction_on with
  | refl => exact .here scope
  | @head parent child step _ ih =>
    cases place : parent.site.location with
    | root => exact absurd place own
    | scope => exact .here place
    | nowhere => exact .beneath place step.1 (ih step.2)

theorem Exposed.reaches (exposed : callSite.Exposed) :
    ∃ captive, callSite.Contains captive ∧ captive.site.location = .scope := by
  induction exposed with
  | @here callSite scope => exact ⟨callSite, .refl, scope⟩
  | beneath _ member _ ih =>
    obtain ⟨captive, contains, scope⟩ := ih
    exact ⟨captive, .head member contains, scope⟩

/-- Nothing is captured if and only if no singleton has an exposed child. -/
theorem sheltered_iff : callSite.Sheltered ↔ ¬callSite.Captures := by
  constructor
  · intro sheltered
    induction sheltered with
    | intro own _ ih =>
      rw [captures_iff]
      rintro (⟨root, child, member, captive, reaches, scope⟩ | ⟨child, member, captures⟩)
      · have opens := opens_of_contains (ih child member) reaches scope
        exact own root child member (opens.exposed scope)
      · exact ih child member captures
  · intro free
    induction callSite using of_children with
    | step callSite ih =>
      refine ⟨fun root child member exposed => free ?_, fun child member => ?_⟩
      · exact captures_iff.2 (.inl ⟨root, child, member, exposed.reaches⟩)
      · exact ih child member fun captures => free (captures_iff.2 (.inr ⟨child, member, captures⟩))

theorem firstScoped_append (nodes others : List CallSite) :
    firstScoped (nodes ++ others) = (firstScoped nodes).or (firstScoped others) := by
  rw [firstScoped, List.find?_append]
  cases found : nodes.find? isScoped <;> simp [firstScoped, found]

theorem firstScoped_eq_none_iff {nodes : List CallSite} :
    firstScoped nodes = none ↔ ∀ node ∈ nodes, node.site.location ≠ .scope := by
  simp [firstScoped, isScoped]

theorem exists_of_firstScoped {nodes : List CallSite} {name : String}
    (found : firstScoped nodes = some name) : ∃ node ∈ nodes, node.site.location = .scope := by
  obtain ⟨node, first, _⟩ := Option.map_eq_some_iff.1 found
  have scope : node.isScoped = true := List.find?_some first
  exact ⟨node, List.mem_of_find?_eq_some first, beq_iff_eq.1 scope⟩

/-- The verdict refuses a graph that captures, and names the first scoped service of another. -/
def Judged (callSite : CallSite) : Prop :=
  (callSite.Captures ∧ ∃ singleton captive,
    callSite.verdict = .error (.invalidLifetimeCapture singleton captive)) ∨
  (¬callSite.Captures ∧ callSite.verdict = .ok (firstScoped callSite.openNodes))

theorem judgedAll {callSites : List CallSite} (judged : ∀ callSite ∈ callSites, callSite.Judged) :
    ((∃ callSite ∈ callSites, callSite.Captures) ∧ ∃ singleton captive,
      verdictAll callSites = .error (.invalidLifetimeCapture singleton captive)) ∨
    ((∀ callSite ∈ callSites, ¬callSite.Captures) ∧
      verdictAll callSites = .ok (firstScoped (openAll callSites))) := by
  induction callSites with
  | nil => exact .inr ⟨by simp, rfl⟩
  | cons callSite rest ih =>
    have others := ih fun other member => judged other (List.mem_cons_of_mem _ member)
    rw [verdictAll, openAll, firstScoped_append]
    rcases judged callSite List.mem_cons_self with ⟨captures, singleton, captive, refused⟩ |
      ⟨free, passed⟩
    · rw [refused]
      exact .inl ⟨⟨callSite, List.mem_cons_self, captures⟩, singleton, captive, rfl⟩
    · rw [passed]
      rcases others with ⟨⟨other, member, captures⟩, singleton, captive, refused⟩ | ⟨clear, followed⟩
      · rw [refused]
        exact .inl ⟨⟨other, List.mem_cons_of_mem _ member, captures⟩, singleton, captive, rfl⟩
      · rw [followed]
        exact .inr ⟨List.forall_mem_cons.2 ⟨free, clear⟩, rfl⟩

theorem judged (callSite : CallSite) : callSite.Judged := by
  induction callSite using of_children with
  | step callSite ih =>
    rw [Judged, verdict_eq, openNodes_eq, captures_iff]
    rcases judgedAll ih with ⟨captures, singleton, captive, refused⟩ | ⟨free, passed⟩
    · rw [refused]
      exact .inl ⟨.inr captures, singleton, captive, rfl⟩
    · rw [passed]
      have none : ¬∃ child ∈ callSite.children, child.Captures := fun ⟨child, member, captures⟩ =>
        free child member captures
      change (_ ∧ ∃ singleton captive, callSite.site.verdict _ = _) ∨
        (_ ∧ callSite.site.verdict _ = _)
      unfold Site.verdict
      cases place : callSite.site.location with
      | scope =>
        refine .inr ⟨by simp [none], ?_⟩
        simp [firstScoped, isScoped, place]
      | nowhere =>
        refine .inr ⟨by simp [none], ?_⟩
        simp [firstScoped, isScoped, place]
      | root =>
        cases found : firstScoped (openAll callSite.children) with
        | none =>
          refine .inr ⟨?_, rfl⟩
          rintro (⟨-, child, member, captive, contains, scope⟩ | captures)
          · have opens := opens_of_contains (free child member) contains scope
            exact firstScoped_eq_none_iff.1 found captive
              (mem_openAll_iff.2 ⟨child, member, mem_openNodes_iff.2 opens⟩) scope
          · exact none captures
        | some dependency =>
          refine .inl ⟨.inl ⟨rfl, ?_⟩, _, _, rfl⟩
          obtain ⟨captive, listed, scope⟩ := exists_of_firstScoped found
          obtain ⟨child, member, met⟩ := mem_openAll_iff.1 listed
          exact ⟨child, member, captive, (mem_openNodes_iff.1 met).contains, scope⟩

end ServiceContainer.CallSite
