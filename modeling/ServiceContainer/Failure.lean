/-! Why a container operation fails, and the message for each cause. -/
namespace ServiceContainer

inductive Failure where
  | notFound (service : String)
  | typeMismatch (service : String)
  /-- The services of a cycle; the first is repeated at the end. -/
  | circular (path : List String)
  | unresolvableConstructor (implementation parameter : String)
  | ambiguousConstructor (implementation : String) (arity candidates : Nat)
  /-- A singleton would keep a scoped service. -/
  | invalidLifetimeCapture (singleton dependency : String)
  | directScopedResolutionFromRoot (service dependency : String)
  | scopeDisposed
  /-- A factory or constructor body reported a failure. -/
  | activation (service message : String)
  | asyncDisposalRequired (service : String)
  | aggregate (failures : List Failure)
  deriving Inhabited

namespace Failure

def kind : Failure → String
  | .notFound _ => "NotFound"
  | .typeMismatch _ => "TypeMismatch"
  | .circular _ => "Circular"
  | .unresolvableConstructor _ _ => "UnresolvableConstructor"
  | .ambiguousConstructor _ _ _ => "AmbiguousConstructor"
  | .invalidLifetimeCapture _ _ => "InvalidLifetimeCapture"
  | .directScopedResolutionFromRoot _ _ => "DirectScopedResolutionFromRoot"
  | .scopeDisposed => "ScopeDisposed"
  | .activation _ _ => "Activation"
  | .asyncDisposalRequired _ => "AsyncDisposalRequired"
  | .aggregate _ => "Aggregate"

mutual
def message : Failure → String
  | .notFound service => "Service not found: " ++ service
  | .typeMismatch service => "Type mismatch for: " ++ service
  | .circular path => "Circular dependency: " ++ String.intercalate " -> " path
  | .unresolvableConstructor implementation parameter =>
    "Unable to resolve service for type '" ++ parameter ++
      "' while attempting to activate '" ++ implementation ++ "'"
  | .ambiguousConstructor implementation arity candidates =>
    "Unable to activate type '" ++ implementation ++ "': " ++ toString candidates ++
      " constructors with " ++ toString arity ++ " parameters are equally applicable"
  | .invalidLifetimeCapture singleton dependency =>
    "Cannot consume scoped service '" ++ dependency ++ "' from singleton '" ++ singleton ++ "'"
  | .directScopedResolutionFromRoot service dependency =>
    "Cannot resolve '" ++ service ++ "' from root provider because it requires scoped service '" ++
      dependency ++ "'"
  | .scopeDisposed => "Cannot access a disposed scope"
  | .activation service message => "Failed to activate '" ++ service ++ "': " ++ message
  | .asyncDisposalRequired service =>
    "'" ++ service ++ "' only supports async disposal. Use dispose_async() to dispose the scope"
  | .aggregate failures =>
    "Some services are not able to be constructed: " ++ String.intercalate " " (bracketed failures)
def bracketed : List Failure → List String
  | [] => []
  | failure :: rest => ("(" ++ failure.message ++ ")") :: bracketed rest
end

mutual
/-- The failures that are not aggregates, from left to right. -/
def flatten : Failure → List Failure
  | .aggregate failures => flattenAll failures
  | failure => [failure]
def flattenAll : List Failure → List Failure
  | [] => []
  | failure :: rest => failure.flatten ++ flattenAll rest
end

end Failure
end ServiceContainer
