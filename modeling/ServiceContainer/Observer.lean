import ServiceContainer.CallSite.Kind
import ServiceContainer.Failure
import ServiceContainer.Observer.Metrics
import ServiceContainer.Service.Identity
import ServiceContainer.Service.Lifetime

/-! What observers are told. Observers only listen: none of them changes what a container does. -/
namespace ServiceContainer

inductive Notice where
  | resolving (service : ServiceType)
  | resolved (service : ServiceType) (nanoseconds : Nat)
  | failed (service : ServiceType) (failure : Failure)
  | built (kind : SiteKind) (service : ServiceType) (lifetime : Lifetime)
  | scopeDisposed (isRoot : Bool) (disposed : Nat)

inductive Observer where
  /-- Logs every notice under its name. -/
  | recorder (name : String)
  /-- Logs resolutions that begin and succeed. -/
  | quiet
  /-- Counts in the metrics of the given number. -/
  | counter (metrics : Nat)
  | silent

namespace Notice

def boolText (b : Bool) : String := if b then "true" else "false"

def line : Notice → String
  | .resolving service => "resolving " ++ service.display
  | .resolved service _ => "resolved " ++ service.display
  | .failed service failure => "failed " ++ service.display ++ ": " ++ failure.kind
  | .built kind service lifetime =>
    "built " ++ kind.name ++ " " ++ service.display ++ " " ++ lifetime.name
  | .scopeDisposed isRoot disposed =>
    "disposed root=" ++ boolText isRoot ++ " count=" ++ toString disposed

def count (metrics : Metrics) : Notice → Metrics
  | .resolved _ nanoseconds => metrics.countResolved nanoseconds
  | .failed _ _ => metrics.countFailed
  | .built _ _ _ => metrics.countBuilt
  | .resolving _ | .scopeDisposed _ _ => metrics

end Notice

def Observer.line? (notice : Notice) : Observer → Option String
  | .recorder name => some (name ++ ": " ++ notice.line)
  | .quiet =>
    match notice with
    | .resolving _ | .resolved _ _ => some ("quiet: " ++ notice.line)
    | _ => none
  | .counter _ | .silent => none

end ServiceContainer
