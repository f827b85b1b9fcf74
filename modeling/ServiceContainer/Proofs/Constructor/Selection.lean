import ServiceContainer.Constructor.Selection

/-! Properties of actions that hold of sequences when they hold of the steps. Main statement: if
the binding of every constructor has such a property, so has the choice among them. -/
namespace ServiceContainer
variable {m : Type → Type} [Monad m]

inductive Constructor.Refusal : Failure → Prop where
  | unresolvable (implementation parameter : String) :
      Refusal (.unresolvableConstructor implementation parameter)
  | ambiguous (implementation : String) (arity candidates : Nat) :
      Refusal (.ambiguousConstructor implementation arity candidates)

/-- Holds of results and refusals, and of a step followed by another. -/
structure Selective (P : ∀ {α : Type}, ExceptT Failure m α → Prop) : Prop where
  pure : ∀ {α : Type} (value : α), P (Pure.pure value)
  refuse : ∀ {α : Type} (failure : Failure), Constructor.Refusal failure →
    P (MonadExcept.throw failure : ExceptT Failure m α)
  bind : ∀ {α β : Type} {first : ExceptT Failure m α} {next : α → ExceptT Failure m β},
    P first → (∀ value, P (next value)) → P (first >>= next)

/-- Holds of results and failures, and of a step followed by another. -/
structure Compositional (P : ∀ {α : Type}, ExceptT Failure m α → Prop) : Prop where
  pure : ∀ {α : Type} (value : α), P (Pure.pure value)
  throw : ∀ {α : Type} (failure : Failure), P (MonadExcept.throw failure : ExceptT Failure m α)
  bind : ∀ {α β : Type} {first : ExceptT Failure m α} {next : α → ExceptT Failure m β},
    P first → (∀ value, P (next value)) → P (first >>= next)

namespace Selective
variable {P : ∀ {α : Type}, ExceptT Failure m α → Prop} {α β : Type}

theorem settle (closed : Selective P) (implementation : String) (arity : Nat)
    (bindable : List (Constructor × β)) :
    P (ExceptT.mk (Pure.pure (Constructor.settle implementation arity bindable))) := by
  cases bindable with
  | nil => exact closed.pure none
  | cons chosen others =>
    rw [Constructor.settle]
    split
    · exact closed.refuse _ (.ambiguous ..)
    · exact closed.pure (some chosen)

variable {bind : Constructor → ExceptT Failure m (Binding β)}

theorem bindEach (closed : Selective P) {constructors : List Constructor}
    (h : ∀ constructor ∈ constructors, P (bind constructor)) (missing : Option String) :
    P (Constructor.bindEach bind missing constructors) := by
  induction constructors generalizing missing with
  | nil => exact closed.pure _
  | cons constructor rest ih =>
    have others := ih fun other member => h other (List.mem_cons_of_mem _ member)
    rw [Constructor.bindEach]
    refine closed.bind (h constructor List.mem_cons_self) fun binding => ?_
    cases binding with
    | missing parameter => exact others _
    | bound result => exact closed.bind (others missing) fun _ => closed.pure _

theorem selectAt (closed : Selective P) {constructors : List Constructor}
    (h : ∀ constructor ∈ constructors, P (bind constructor)) (implementation : String)
    (arity : Nat) (missing : Option String) :
    P (Constructor.selectAt implementation constructors bind arity missing) := by
  have each : P (Constructor.bindEach bind missing (constructors.filter (·.arity == arity))) :=
    closed.bindEach (fun constructor member => h constructor (List.mem_filter.1 member).1) missing
  refine closed.bind each fun found => ?_
  exact closed.bind (closed.settle implementation arity found.1) fun _ => closed.pure _

theorem selectBelow (closed : Selective P) {constructors : List Constructor}
    (h : ∀ constructor ∈ constructors, P (bind constructor)) (implementation : String)
    (missing : Option String) (bound : Nat) :
    P (Constructor.selectBelow implementation constructors bind missing bound) := by
  induction bound generalizing missing with
  | zero => exact closed.refuse _ (.unresolvable ..)
  | succ arity ih =>
    rw [Constructor.selectBelow]
    refine closed.bind (closed.selectAt h implementation arity missing) fun ⟨chosen, later⟩ => ?_
    cases chosen with
    | none => exact ih later
    | some chosen => exact closed.pure _

theorem select (closed : Selective P) {constructors : List Constructor}
    (h : ∀ constructor ∈ constructors, P (bind constructor)) (implementation : String) :
    P (Constructor.select implementation constructors bind) := by
  unfold Constructor.select
  cases found : constructors.find? (·.preferred) with
  | none => exact closed.selectBelow h implementation none _
  | some preferred =>
    have first := h preferred (List.mem_of_find?_eq_some found)
    refine closed.bind first fun binding => ?_
    cases binding with
    | bound result => exact closed.pure _
    | missing parameter => exact closed.refuse _ (.unresolvable ..)

end Selective

namespace Compositional
variable {P : ∀ {α : Type}, ExceptT Failure m α → Prop} {β : Type}

theorem selective (closed : Compositional P) : Selective P where
  pure := closed.pure
  refuse failure _ := closed.throw failure
  bind := closed.bind

theorem select (closed : Compositional P) {bind : Constructor → ExceptT Failure m (Binding β)}
    {constructors : List Constructor} (h : ∀ constructor ∈ constructors, P (bind constructor))
    (implementation : String) : P (Constructor.select implementation constructors bind) :=
  closed.selective.select h implementation

end Compositional
end ServiceContainer
