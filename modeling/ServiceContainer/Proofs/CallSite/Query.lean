import ServiceContainer.CallSite.Builder

/-! How a graph is made, as a tree of questions about other graphs. `plan` is the tree of a
target. Main statement: whatever answers the questions, and in whatever monad, `assemble` runs
the plan, so facts about plans are facts about every build. -/
namespace ServiceContainer

/-- Asks for graphs, one after the other, and goes on with the answers. -/
inductive Query (α : Type) where
  | done (result : α)
  | ask (target : Target) (next : Option CallSite → Query α)

namespace Query
variable {α β : Type}

def bind (query : Query α) (next : α → Query β) : Query β :=
  match query with
  | .done result => next result
  | .ask target rest => .ask target fun found => (rest found).bind next

instance : Monad Query where
  pure := .done
  bind := bind

theorem bind_done (query : Query α) : query.bind .done = query := by
  induction query with
  | done result => rfl
  | ask target rest ih => simp only [bind, ih]

theorem bind_bind {γ : Type} (query : Query α) (first : α → Query β) (second : β → Query γ) :
    (query.bind first).bind second = query.bind fun value => (first value).bind second := by
  induction query with
  | done result => rfl
  | ask target rest ih => simp only [bind, ih]

instance : LawfulMonad Query := LawfulMonad.mk' Query
  (fun query => bind_done query)
  (fun _ _ => rfl)
  (fun query first second => bind_bind query first second)

def request (target : Target) : ExceptT Failure Query (Option CallSite) :=
  ExceptT.mk (.ask target fun found => .done (.ok found))

section Run
variable {m : Type → Type} [Monad m] (build : Target → ExceptT Failure m (Option CallSite))

/-- Answers the questions by `build`, whose first failure ends the run. -/
def run : Query (Except Failure α) → ExceptT Failure m α
  | .done result => ExceptT.mk (pure result)
  | .ask target next => do
    let found ← build target
    (next found).run

variable [LawfulMonad m]

theorem run_request (target : Target) : run build (request target) = build target := by
  simp only [request, run, ExceptT.mk]
  exact bind_pure (build target)

theorem run_bind (query : ExceptT Failure Query α) (next : α → ExceptT Failure Query β) :
    run build (query >>= next : ExceptT Failure Query β) =
      run build query >>= fun value => run build (next value) := by
  change run build (Query.bind query (ExceptT.bindCont next)) = _
  induction query with
  | done result =>
    cases result with
    | ok value => exact (pure_bind value fun value => run build (next value)).symm
    | error failure =>
      apply ExceptT.ext
      rw [ExceptT.run_bind]
      change _ = (pure (Except.error failure) : m (Except Failure α)) >>= _
      rw [pure_bind]
      rfl
  | ask target rest ih =>
    simp only [bind, run, ih]
    exact (bind_assoc (build target) _ _).symm

theorem run_bindEach (bind : Constructor → ExceptT Failure Query (Binding β))
    (missing : Option String) (constructors : List Constructor) :
    run build (Constructor.bindEach bind missing constructors) =
      Constructor.bindEach (fun constructor => run build (bind constructor)) missing
        constructors := by
  induction constructors generalizing missing with
  | nil => rfl
  | cons constructor rest ih =>
    simp only [Constructor.bindEach, run_bind]
    congr 1
    funext binding
    cases binding with
    | bound result =>
      simp only [run_bind, ih]
      rfl
    | missing parameter => exact ih _

theorem run_selectAt (implementation : String) (constructors : List Constructor)
    (bind : Constructor → ExceptT Failure Query (Binding β)) (arity : Nat)
    (missing : Option String) :
    run build (Constructor.selectAt implementation constructors bind arity missing) =
      Constructor.selectAt implementation constructors
        (fun constructor => run build (bind constructor)) arity missing := by
  simp only [Constructor.selectAt, run_bind, run_bindEach]
  rfl

theorem run_selectBelow (implementation : String) (constructors : List Constructor)
    (bind : Constructor → ExceptT Failure Query (Binding β)) (missing : Option String)
    (bound : Nat) :
    run build (Constructor.selectBelow implementation constructors bind missing bound) =
      Constructor.selectBelow implementation constructors
        (fun constructor => run build (bind constructor)) missing bound := by
  induction bound generalizing missing with
  | zero => rfl
  | succ arity ih =>
    simp only [Constructor.selectBelow, run_bind, run_selectAt]
    congr 1
    funext ⟨chosen, missing⟩
    cases chosen with
    | some chosen => rfl
    | none => exact ih missing

theorem run_select (implementation : String) (constructors : List Constructor)
    (bind : Constructor → ExceptT Failure Query (Binding β)) :
    run build (Constructor.select implementation constructors bind) =
      Constructor.select implementation constructors
        (fun constructor => run build (bind constructor)) := by
  unfold Constructor.select
  cases constructors.find? (·.preferred) with
  | none => exact run_selectBelow build _ _ _ _ _
  | some preferred =>
    simp only [run_bind]
    congr 1
    funext binding
    cases binding <;> rfl

end Run
end Query

namespace Blueprint
open Query
variable (blueprint : Blueprint)

def plan (target : Target) : ExceptT Failure Query (Option CallSite) :=
  blueprint.assemble request target

variable {m : Type → Type} [Monad m] [LawfulMonad m]
  (build : Target → ExceptT Failure m (Option CallSite))

theorem run_bindParameters (parameters : List Parameter) :
    run build (bindParameters request parameters) = bindParameters build parameters := by
  induction parameters with
  | nil => rfl
  | cons parameter rest ih =>
    simp only [bindParameters, run_bind, run_request]
    congr 1
    funext found
    cases found.or (parameter.fallback.map (fallbackCallSite parameter.service)) with
    | none => rfl
    | some callSite =>
      simp only [run_bind, ih]
      congr 1
      funext binding
      cases binding <;> rfl

theorem run_constructCallSite (site : Site) (constructors : List Constructor)
    (cast : Option InterfaceCast) :
    run build (constructCallSite request site constructors cast) =
      constructCallSite build site constructors cast := by
  simp only [constructCallSite, run_bind, run_select, run_bindParameters]
  rfl

theorem run_callSiteOf (descriptor : Descriptor) (service : ServiceType) (slot : Nat) :
    run build (blueprint.callSiteOf request descriptor service slot) =
      blueprint.callSiteOf build descriptor service slot := by
  unfold callSiteOf
  cases descriptor.implementation with
  | fixed name value => rfl
  | produced name factory => rfl
  | constructed type cast =>
    simp only [← bind_pure_comp, run_bind, run_constructCallSite]
    rfl
  | openGeneric definition =>
    cases service with
    | generic closed definition arguments =>
      simp only [← bind_pure_comp, run_bind, run_constructCallSite]
      rfl
    | plain info => rfl
    | collection element => rfl

theorem run_callSiteAt (service : ServiceType) (position slot : Nat) :
    run build (blueprint.callSiteAt request service position slot) =
      blueprint.callSiteAt build service position slot := by
  unfold callSiteAt
  cases blueprint.registry.descriptors[position]? with
  | none => rfl
  | some descriptor => exact blueprint.run_callSiteOf build descriptor service slot

theorem run_collectMembers (element : ServiceType) (members : List (Nat × Nat)) :
    run build (collectMembers request element members) =
      collectMembers build element members := by
  induction members with
  | nil => rfl
  | cons member rest ih =>
    simp only [collectMembers, run_bind, run_request, ih]
    rfl

/-- Building a target is running its plan. -/
theorem run_plan (target : Target) :
    run build (blueprint.plan target) = blueprint.assemble build target := by
  cases target with
  | member service position slot => exact blueprint.run_callSiteAt build service position slot
  | single service =>
    simp only [plan, assemble]
    cases service.own? with
    | some own => rfl
    | none =>
      cases service.element with
      | some element =>
        simp only [collectCallSite, ← bind_pure_comp, run_bind, run_collectMembers]
        rfl
      | none =>
        cases blueprint.registry.single service with
        | none => rfl
        | some position => exact blueprint.run_callSiteAt build service position 0

end Blueprint
end ServiceContainer
