import ServiceContainer.Descriptor
import ServiceContainer.Script.Step

/-! Scripted registrations and constructors: the descriptors and constructors whose bodies are
step lists. -/
namespace ServiceContainer.Script

open Running

/-- What is done with an instance when it is disposed: a line in the log, and then the steps on
the scope that it holds. Failures of the steps are only recorded. -/
def cleanup (object : Object) (mode : DisposalMode) (held : Option ScopeId) (steps : List Step) :
    Program Unit := do
  say ((if mode == .sync then "dispose " else "adispose ") ++ object.text)
  match held with
  | none => pure ()
  | some scope =>
    if steps.isEmpty then pure ()
    else do
      let (result, notebook) ← (Step.takeAll object.type.name scope steps).run.run {}
      let recorded :=
        match result with
        | .ok _ => notebook.recorded
        | .error failure => notebook.recorded ++ [showFailure failure]
      say ("ondispose " ++ object.text ++ " [" ++ String.intercalate "," recorded ++ "]")

def produced (object : Object) (disposal : Option DisposalMode) (held : Option ScopeId)
    (steps : List Step) : Produced :=
  { value := .object object
    disposable := disposal.map fun mode =>
      { service := object.type.name, mode, cleanup := cleanup object mode held steps } }

def finish (made : Concrete) (tag : String) (notebook : Notebook) (body : Running Unit)
    (yield : Object → Notebook → Produced) : Body := do
  let (result, notebook) ← body.run.run notebook
  match result with
  | .error failure => pure (.error failure)
  | .ok _ =>
    let object ← made.make tag notebook.recorded
    pure (.ok (yield object notebook))

structure ScriptedConstructor where
  made : Concrete
  /-- The services taken, each with the tag of its default. -/
  parameters : List (Wanted × Option String) := []
  preferred : Bool := false
  disposal : Option DisposalMode := none
  tag : String
  onDispose : List Step := []
  /-- If there are no steps, every parameter is taken in order. -/
  body : Option (List BodyStep) := none

namespace ScriptedConstructor

/-- Only a parameter of a concrete type has a default. -/
def parameter : Wanted × Option String → Parameter
  | (.concrete made, some tag) =>
    { service := .plain made.type, fallback := some (.object (made.standIn tag)) }
  | (wanted, _) => { service := wanted.service }

def steps (scripted : ScriptedConstructor) : List BodyStep :=
  scripted.body.getD (scripted.parameters.map fun (wanted, _) => .next wanted)

def activate (scripted : ScriptedConstructor) (arguments : Arguments) : Body :=
  finish scripted.made scripted.tag { arguments }
    (BodyStep.takeAll scripted.made.type.name scripted.steps)
    fun object notebook => produced object scripted.disposal notebook.held scripted.onDispose

def toConstructor (scripted : ScriptedConstructor) : Constructor :=
  { implementation := scripted.made.type.name
    parameters := scripted.parameters.map parameter
    preferred := scripted.preferred
    activate := scripted.activate }

end ScriptedConstructor

inductive How where
  /-- A value made at once. -/
  | fixed (made : Concrete)
  | fixedInterface (interface : TypeInfo) (made : Concrete)
  | constructed (made : Concrete)
  | constructedInterface (interface : TypeInfo) (made : Concrete)
  | produced (made : Concrete) (disposal : Option DisposalMode)
  | producedInterface (interface : TypeInfo) (made : Concrete)
  | openGeneric (definition : TypeInfo)

structure Registration where
  how : How
  lifetime : Option Lifetime := none
  tag : Option String := none
  body : List Step := []
  onDispose : List Step := []
  /-- Registers under this service instead of its own. -/
  service : Option ServiceType := none
  /-- The implementation name of a factory or singleton value instead of its own. -/
  name : Option String := none

namespace Registration

/-- A factory body: the steps on the given scope, which the made instance then holds. -/
def factory (registration : Registration) (made : Concrete) (scope : ScopeId)
    (yield : Object → Produced) : Body :=
  finish made (registration.tag.getD "f") {} (Step.takeAll made.type.name scope registration.body)
    fun object _ => yield object

def lifetimeOr (registration : Registration) (lifetime : Lifetime) : Lifetime :=
  registration.lifetime.getD lifetime

/-- A value is a singleton, unless it is registered under another service or name. -/
def fixedLifetime (registration : Registration) : Lifetime :=
  if registration.service.isSome || registration.name.isSome then
    registration.lifetimeOr .singleton
  else .singleton

/-- The service, lifetime and implementation before the name is replaced. -/
def basic (registration : Registration) : Program Descriptor :=
  match registration.how with
  | .fixed made => do
    let object ← made.make (registration.tag.getD "i") []
    pure ⟨.plain made.type, registration.fixedLifetime,
      .fixed made.type.name (.object object)⟩
  | .fixedInterface interface made => do
    let object ← made.make (registration.tag.getD "i") []
    pure ⟨.plain interface, registration.fixedLifetime,
      .fixed interface.name (.view interface (.object object))⟩
  | .constructed made =>
    pure ⟨.plain made.type, registration.lifetimeOr .transient, .constructed made.type none⟩
  | .constructedInterface interface made =>
    pure ⟨.plain interface, registration.lifetimeOr .transient,
      .constructed made.type (some ⟨made.type, interface⟩)⟩
  | .produced made disposal =>
    pure ⟨.plain made.type, registration.lifetimeOr .transient,
      .produced made.type.name fun scope =>
        registration.factory made scope fun object =>
          Script.produced object disposal (some scope) registration.onDispose⟩
  | .producedInterface interface made =>
    pure ⟨.plain interface, registration.lifetimeOr .transient,
      .produced interface.name fun scope =>
        registration.factory made scope fun object => { value := .view interface (.object object) }⟩
  | .openGeneric definition =>
    pure ⟨.plain definition, registration.lifetimeOr .transient, .openGeneric definition⟩

def rename (name : String) (descriptor : Descriptor) : Descriptor :=
  match descriptor.implementation, descriptor.lifetime with
  | .produced _ factory, _ => { descriptor with implementation := .produced name factory }
  | .fixed _ value, .singleton => { descriptor with implementation := .fixed name value }
  | _, _ => descriptor

def descriptor (registration : Registration) : Program Descriptor := do
  let basic ← registration.basic
  let placed := { basic with service := registration.service.getD basic.service }
  pure (registration.name.elim placed (rename · placed))

end Registration
end ServiceContainer.Script
