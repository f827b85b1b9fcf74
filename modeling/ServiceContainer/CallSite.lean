import ServiceContainer.CallSite.Kind
import ServiceContainer.Descriptor

/-! Call sites: the plan for making a service, with the plans for all it needs beneath it. -/
namespace ServiceContainer

structure Site where
  service : ServiceType
  implementation : String
  lifetime : Lifetime
  location : CacheLocation
  /-- The key that a made value is cached and guarded under. -/
  key : CacheKey

inductive CallSite where
  | constant (site : Site) (value : Value)
  /-- The default of a parameter whose service is not registered. -/
  | fallback (site : Site) (value : Value)
  | factory (site : Site) (body : ScopeId → Body)
  | construct (site : Site) (activate : Arguments → Body) (cast : Option InterfaceCast)
      (parameters : List CallSite)
  | collect (site : Site) (items : List CallSite)
  | own (site : Site) (service : OwnService)

namespace CallSite

def site : CallSite → Site
  | .constant site _ => site
  | .fallback site _ => site
  | .factory site _ => site
  | .construct site _ _ _ => site
  | .collect site _ => site
  | .own site _ => site

def kind : CallSite → SiteKind
  | .constant _ _ => .constant
  | .fallback _ _ => .constant
  | .factory _ _ => .factory
  | .construct _ _ _ _ => .constructor
  | .collect _ _ => .enumerable
  | .own _ .scope => .serviceProvider
  | .own _ .scopeFactory => .scopeFactory
  | .own _ .activatorFactory => .activatorFactory

def children : CallSite → List CallSite
  | .construct _ _ _ parameters => parameters
  | .collect _ items => items
  | _ => []

/-- The request that a call site answers. Call sites of one provider with the same answer are
the same node, except that each fallback is a node of its own. -/
def answers? : CallSite → Option CacheKey
  | .fallback _ _ => none
  | callSite => some ⟨callSite.site.service, callSite.site.key.slot⟩

end CallSite
end ServiceContainer
