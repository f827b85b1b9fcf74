import ServiceContainer.Value

/-! User code as programs: trees that ask the container for something and go on with its reply.
Factories, constructor bodies, disposers and clients are all programs. -/
namespace ServiceContainer

inductive ScopeState
  | open
  | disposing
  | disposed
  deriving DecidableEq, Repr

def ScopeState.name : ScopeState → String
  | .open => "Open"
  | .disposing => "Disposing"
  | .disposed => "Disposed"

structure ScopeView where
  engine : EngineId
  isRoot : Bool
  root : ScopeId
  state : ScopeState
  tracked : Nat

inductive DisposalMode
  | sync
  | async
  deriving DecidableEq, Repr

structure Activator where
  engine : EngineId
  realization : Nat
  deriving DecidableEq, Repr

structure Argument where
  service : ServiceType
  value : Value

inductive Request where
  | resolve (scope : ScopeId) (service : ServiceType)
  | createScope (scope : ScopeId)
  | dispose (scope : ScopeId) (mode : DisposalMode)
  | inspect (scope : ScopeId)
  | activator (engine : EngineId) (service : ServiceType)
  | activate (activator : Activator) (scope : ScopeId)
  | prepare (engine : EngineId) (implementation : TypeInfo) (supplied : List ServiceType)
  | create (factory : FactoryId) (scope : ScopeId) (arguments : List Argument)
  | serial
  /-- Counts one more occasion under the given number. -/
  | tally (counter : Nat)
  | say (line : String)

@[reducible] def Request.Reply : Request → Type
  | .resolve _ _ => Except Failure (Option Value)
  | .createScope _ => ScopeId
  | .dispose _ _ => Except Failure Unit
  | .inspect _ => Option ScopeView
  | .activator _ _ => Except Failure (Option Activator)
  | .activate _ _ => Except Failure Value
  | .prepare _ _ _ => Except Failure FactoryId
  | .create _ _ _ => Except Failure Value
  | .serial => Nat
  | .tally _ => Nat
  | .say _ => Unit

inductive Program (α : Type) where
  | done (result : α)
  | ask (request : Request) (next : request.Reply → Program α)

namespace Program

def bind (program : Program α) (next : α → Program β) : Program β :=
  match program with
  | .done result => next result
  | .ask request rest => .ask request fun reply => (rest reply).bind next

instance : Monad Program where
  pure := .done
  bind := bind

def request (request : Request) : Program request.Reply := .ask request .done

theorem bind_assoc (program : Program α) (first : α → Program β) (second : β → Program γ) :
    (program.bind first).bind second = program.bind fun value => (first value).bind second := by
  induction program with
  | done result => rfl
  | ask request rest ih => simp only [bind, ih]

theorem bind_done (program : Program α) : program.bind .done = program := by
  induction program with
  | done result => rfl
  | ask request rest ih => simp only [bind, ih]

instance : LawfulMonad Program := LawfulMonad.mk' Program
  (fun program => bind_done program)
  (fun _ _ => rfl)
  (fun program first second => bind_assoc program first second)

end Program

structure Disposable where
  /-- The name of the type to dispose. -/
  service : String
  mode : DisposalMode
  cleanup : Program Unit

structure Produced where
  value : Value
  disposable : Option Disposable := none

abbrev Body := Program (Except Failure Produced)

end ServiceContainer
