import ServiceContainer.Constructor

/-! Choice of a constructor. A preferred constructor decides alone. Otherwise the greatest number
of parameters for which some constructor can be bound decides; its first bindable constructor
is chosen, and bindable constructors of another signature there make the choice ambiguous. -/
namespace ServiceContainer

inductive Binding (β : Type) where
  | bound (result : β)
  | missing (parameter : String)

namespace Constructor
variable {m : Type → Type} [Monad m] {β : Type}

/-- The parameter reported for a type that lists no constructor. -/
def noConstructors : String := "(no constructors)"

/-- Binds the constructors in order; yields those that can be bound, and the first parameter
missing so far. -/
def bindEach (bind : Constructor → ExceptT Failure m (Binding β)) (missing : Option String) :
    List Constructor → ExceptT Failure m (List (Constructor × β) × Option String)
  | [] => pure ([], missing)
  | constructor :: rest => do
    match ← bind constructor with
    | .bound result =>
      let (others, missing) ← bindEach bind missing rest
      pure ((constructor, result) :: others, missing)
    | .missing parameter => bindEach bind (missing.or (some parameter)) rest

/-- The choice among the bindable constructors of one arity: the first, if no other has a
different signature. -/
def settle (implementation : String) (arity : Nat) :
    List (Constructor × β) → Except Failure (Option (Constructor × β))
  | [] => .ok none
  | chosen :: others =>
    if others.any fun other => !other.1.sameSignature chosen.1 then
      .error (.ambiguousConstructor implementation arity (others.length + 1))
    else .ok (some chosen)

def selectAt (implementation : String) (constructors : List Constructor)
    (bind : Constructor → ExceptT Failure m (Binding β)) (arity : Nat) (missing : Option String) :
    ExceptT Failure m (Option (Constructor × β) × Option String) := do
  let (bindable, missing) ← bindEach bind missing (constructors.filter (·.arity == arity))
  let chosen ← ExceptT.mk (pure (settle implementation arity bindable))
  pure (chosen, missing)

/-- The choice among the constructors with fewer than `bound` parameters, the greatest number
first. -/
def selectBelow (implementation : String) (constructors : List Constructor)
    (bind : Constructor → ExceptT Failure m (Binding β)) (missing : Option String) :
    (bound : Nat) → ExceptT Failure m (Constructor × β)
  | 0 => throw (.unresolvableConstructor implementation (missing.getD noConstructors))
  | arity + 1 => do
    let (chosen, missing) ← selectAt implementation constructors bind arity missing
    match chosen with
    | some chosen => pure chosen
    | none => selectBelow implementation constructors bind missing arity

def greatestArity (constructors : List Constructor) : Nat :=
  constructors.foldl (fun greatest constructor => max greatest constructor.arity) 0

def select (implementation : String) (constructors : List Constructor)
    (bind : Constructor → ExceptT Failure m (Binding β)) : ExceptT Failure m (Constructor × β) :=
  match constructors.find? (·.preferred) with
  | some preferred => do
    match ← bind preferred with
    | .bound result => pure (preferred, result)
    | .missing parameter => throw (.unresolvableConstructor implementation parameter)
  | none => selectBelow implementation constructors bind none (greatestArity constructors + 1)

end Constructor
end ServiceContainer
