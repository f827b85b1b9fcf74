/-! What a call site does. -/
namespace ServiceContainer

inductive SiteKind
  | constructor
  | factory
  | constant
  | enumerable
  | serviceProvider
  | scopeFactory
  | activatorFactory
  deriving DecidableEq, Repr

def SiteKind.name : SiteKind → String
  | .constructor => "Constructor"
  | .factory => "Factory"
  | .constant => "Constant"
  | .enumerable => "Enumerable"
  | .serviceProvider => "ServiceProvider"
  | .scopeFactory => "ScopeFactory"
  | .activatorFactory => "ActivatorFactory"

/-- Whether user code runs: only such sites are guarded against their own construction. -/
def SiteKind.constructs : SiteKind → Bool
  | .constructor | .factory => true
  | _ => false

end ServiceContainer
