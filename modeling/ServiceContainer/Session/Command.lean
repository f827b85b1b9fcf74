import ServiceContainer.Describe
import ServiceContainer.Observer.Metrics
import ServiceContainer.Options
import ServiceContainer.Script.Registration

/-! Commands of a session and the answers to them. -/
namespace ServiceContainer.Session

open Script

/-- What a command acts on: a scope, or a provider, which stands for its root scope. -/
inductive Place where
  | scope (id : ScopeId)
  | provider (id : EngineId)

inductive Listener where
  | recorder (name : String)
  | quiet
  | metrics
  | silent

inductive Command where
  | add (registration : Registration)
  | tryAdd (registration : Registration)
  | extend (registrations : List Registration)
  | size
  | contains (service : ServiceType)
  | descriptors
  | observe (listener : Listener)
  /-- Without options nothing is checked. -/
  | build (options : Option Options)
  | options (provider : EngineId)
  | providerDescriptors (provider : EngineId)
  | isService (provider : EngineId) (service : ServiceType)
  | callSite (provider : EngineId) (service : ServiceType) (describe : Bool)
  /-- The child is created directly, or by a scope factory resolved as the given type. -/
  | createScope (place : Place) (factory : Option TypeInfo)
  | scopeInfo (place : Place)
  | sameScope (place : Place) (other : ScopeId)
  | dispose (place : Place) (mode : DisposalMode)
  | get (place : Place) (wanted : Wanted)
  | tryGet (place : Place) (wanted : Wanted)
  | resolve (place : Place) (wanted : Wanted)
  | getRequired (place : Place) (wanted : Wanted)
  | activator (place : Place) (wanted : Wanted)
  | activate (place : Place) (activator : Nat)
  | prepare (place : Place) (made : Concrete) (supplied : List ServiceType)
  | create (place : Place) (factory : Nat) (supplies : List Supply)
  | createInstance (place : Place) (made : Concrete) (supplies : List Supply)
  | argumentsInfo (supplies : List Supply)
  | constructors (type : TypeInfo)
  | metrics (index : Nat) (reset : Bool)

inductive Missing
  | scope
  | provider
  | activator
  | factory
  | metrics
  deriving DecidableEq, Repr

structure ScopeInfo where
  view : ScopeView
  description : String
  factoryDescription : String

inductive Answer where
  | size (count : Nat)
  | length (count : Nat)
  | added (added : Bool) (count : Nat)
  | truth (holds : Bool)
  | descriptors (descriptors : List Descriptor)
  | noted
  | built (provider : EngineId) (root : ScopeId)
  | failed (failure : Failure)
  | missing (what : Missing)
  | options (options : Options)
  | nothing
  | graph (root : CallSite) (described : Bool)
  | scope (id : ScopeId)
  | scopeInfo (info : ScopeInfo)
  | done
  | value (text : String)
  | aborted (message : String)
  | activator (number : Nat) (info factory : String)
  | factory (number : Nat) (info : String)
  | arguments (types : List ServiceType)
  | constructors (constructors : List Constructor)
  | metrics (metrics : Metrics)

end ServiceContainer.Session
