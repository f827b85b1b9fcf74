import ServiceContainer.CallSite
import ServiceContainer.Text.Record

/-! The descriptive texts of the container's objects. -/
namespace ServiceContainer
open Text

def showNumbered (service : ServiceType) (slot : Nat) : List (String × String) :=
  [("service_type", service.display), ("slot", toString slot)]

def CacheKey.describe (key : CacheKey) : String :=
  record "CacheKey" (showNumbered key.service key.slot)

def ServiceType.describeGeneric? : ServiceType → Option String
  | .generic closed definition arguments =>
    some (record "GenericType"
      [("closed", quoted closed.name), ("definition", quoted definition.name),
        ("arguments", list (arguments.map ServiceType.display))])
  | _ => none

def Descriptor.describe (descriptor : Descriptor) : String :=
  record "ServiceDescriptor"
    [("service_type", descriptor.service.display), ("lifetime", descriptor.lifetime.name),
      ("implementation",
        descriptor.implementation.kind ++ "(" ++ descriptor.implementation.name ++ ")")]

def Parameter.describe (parameter : Parameter) : String :=
  record "Parameter"
    [("service_type", parameter.service.display),
      ("has_default", flag parameter.fallback.isSome)]

def Constructor.describe (constructor : Constructor) : String :=
  record "Constructor"
    [("implementation", quoted constructor.implementation),
      ("parameters", list (constructor.parameters.map Parameter.describe)),
      ("preferred", flag constructor.preferred)]

def Site.describe (site : Site) (kind : SiteKind) (children : List String) : String :=
  record "CallSite"
    ([("service_type", site.service.display), ("kind", quoted kind.name),
      ("implementation", quoted site.implementation), ("lifetime", site.lifetime.name),
      ("cache", site.location.name)] ++
      if children.isEmpty then [] else [("children", list children)])

namespace CallSite

mutual
def describe : CallSite → String
  | .construct site _ _ parameters => site.describe .constructor (describeAll parameters)
  | .collect site items => site.describe .enumerable (describeAll items)
  | .constant site _ => site.describe .constant []
  | .fallback site _ => site.describe .constant []
  | .factory site _ => site.describe .factory []
  | .own site service => site.describe (CallSite.own site service).kind []
def describeAll : List CallSite → List String
  | [] => []
  | callSite :: rest => callSite.describe :: describeAll rest
end

end CallSite

def ScopeView.describe (view : ScopeView) : String :=
  record "Scope" [("is_root", flag view.isRoot), ("state", view.state.name)]

def describeProvider (root : ScopeView) : String :=
  record "ServiceProvider" [("root", root.describe)]

def describeScopeFactory (root : ScopeView) : String :=
  record "ScopeFactory" [("root", root.describe)]

def describeActivatorFactory : String := openRecord "ActivatorFactory" []

def describeActivator (service : ServiceType) : String :=
  record "ServiceActivator" [("service_type", service.display)]

def describeInstanceFactory (implementation : String) (supplied : List ServiceType) : String :=
  openRecord "InstanceFactory"
    [("implementation", quoted implementation), ("supplied", ServiceType.displayAll supplied)]

end ServiceContainer
