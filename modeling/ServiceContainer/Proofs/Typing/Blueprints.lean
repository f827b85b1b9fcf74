import ServiceContainer.Proofs.Typing.Programs
import ServiceContainer.Registry
import ServiceContainer.Script.Registration

/-! Typed registrations, and constructors whose bodies take their arguments in the declared order.
Main statement: such a body neither lacks nor refuses an argument, whatever fitting ones it is
given. -/
namespace ServiceContainer

/-- The next argument as the wanted service. One of another type is used up. -/
def Arguments.next (arguments : Arguments) (wanted : Script.Wanted) :
    Except Failure Value × Arguments :=
  match arguments.take with
  | .ok (value, rest) => (wanted.accept value, rest)
  | .error failure => (.error failure, arguments)

theorem Script.BodyStep.run_takeNext (wanted : Wanted) (notebook : Notebook) :
    (takeNext wanted).run.run notebook =
      pure ((notebook.arguments.next wanted).1,
        { notebook with arguments := (notebook.arguments.next wanted).2 }) := by
  change (ExceptT.run ((ExceptT.mk (pure notebook.arguments.take) : Running _) >>= _)).run
    notebook = _
  unfold Arguments.next
  cases notebook.arguments.take <;> rfl

variable [Interfaces]

structure Produced.Typed (good : Value → Prop) (known : Known) (produced : Produced) : Prop where
  value : good produced.value
  cleanup : ∀ disposable ∈ produced.disposable, disposable.cleanup.Typed (fun _ _ => True) known

theorem Produced.typed_lasting (good : Value → Prop) : Lasting (Produced.Typed good) :=
  fun _ _ _ grown typed => ⟨typed.value, fun disposable comes =>
    (typed.cleanup disposable comes).mono lasting_true grown⟩

/-- The body makes good values, or fails honestly. -/
def Body.Makes (good : Value → Prop) (known : Known) (body : Body) : Prop :=
  Program.Typed (fun known => Honestly (Produced.Typed good known)) known body

theorem Body.Makes.mono {good : Value → Prop} {known more : Known} {body : Body}
    (makes : body.Makes good known) (grown : known ≤ more) : body.Makes good more :=
  Program.Typed.mono makes (Produced.typed_lasting good).honestly grown

theorem Body.Makes.weaken {good other : Value → Prop} {known : Known} {body : Body}
    (makes : body.Makes good known) (weaker : ∀ value, good value → other value) :
    body.Makes other known :=
  Program.Typed.weaken makes fun _ _ holds =>
    holds.mono fun _ typed => ⟨weaker _ typed.value, typed.cleanup⟩

/-- The body takes arguments for the services in their order, each in the way that fits the service,
and makes good values of them. -/
inductive Takes (good : Value → Prop) : Known → List ServiceType → (Arguments → Body) → Prop where
  | rest {known : Known} {services : List ServiceType} {body : Arguments → Body}
      (makes : ∀ arguments, (body arguments).Makes good known) : Takes good known services body
  | next {known : Known} {service : ServiceType} {services : List ServiceType}
      {wanted : Script.Wanted} {body : Except Failure Value → Arguments → Body}
      (suits : wanted.Suits)
      (same : (wanted.service.canonical == service.canonical) = true)
      (further : ∀ value : Value, value.Fits service → Takes good known services (body (.ok value))) :
      Takes good known (service :: services) fun arguments =>
        body (arguments.next wanted).1 (arguments.next wanted).2
  | remaining {known : Known} {services : List ServiceType} {body : Nat → Arguments → Body}
      (further : ∀ count, Takes good known services (body count)) :
      Takes good known services fun arguments => body arguments.remaining arguments
  | ask {known : Known} {services : List ServiceType} {request : Request}
      {next : request.Reply → Arguments → Body} (proper : request.Proper known)
      (further : ∀ reply, request.Expects known reply →
        Takes good (known.learn request reply) services (next reply)) :
      Takes good known services fun arguments => .ask request fun reply => next reply arguments

namespace Takes
variable {good : Value → Prop} {known more : Known} {services : List ServiceType}
  {body : Arguments → Body}

theorem mono (takes : Takes good known services body) (grown : known ≤ more) :
    Takes good more services body := by
  induction takes generalizing more with
  | rest makes => exact .rest fun arguments => (makes arguments).mono grown
  | next suits same _ ih => exact .next suits same fun value fits => ih value fits grown
  | remaining _ ih => exact .remaining fun count => ih count grown
  | @ask known services request next proper _ ih =>
    refine .ask (proper.mono grown) fun reply expected => ?_
    exact ih reply (expected.anti grown) (Known.learn_mono grown request reply)

/-- A body that takes fitting arguments so, never lacks one and never refuses one. -/
theorem makes (takes : Takes good known services body) {arguments : Arguments}
    (fit : List.Forall₂ Value.Fits (arguments.values.drop arguments.position) services) :
    (body arguments).Makes good known := by
  induction takes generalizing arguments with
  | rest makes => exact makes arguments
  | @next known service services wanted body suits same _ ih =>
    generalize left : arguments.values.drop arguments.position = values at fit
    cases fit with
    | @cons value _ values _ fits fit =>
      have there : arguments.values[arguments.position]? = some value := by
        rw [← List.head?_drop, left]
        rfl
      have after : arguments.values.drop (arguments.position + 1) = values := by
        rw [← List.tail_drop, left]
        rfl
      have accepted := Script.Wanted.accept_of_fits suits ((Value.fits_congr same).2 fits)
      have taken : arguments.next wanted =
          (.ok value, { arguments with position := arguments.position + 1 }) := by
        simp only [Arguments.next, Arguments.take, there, accepted]
      dsimp only
      rw [taken]
      exact ih value fits (after.symm ▸ fit)
  | remaining _ ih => exact ih arguments.remaining fit
  | ask proper _ ih => exact .ask proper fun reply expected => ih reply expected fit

end Takes

/-- The defaults of the parameters are what they stand in for, and the body makes the type. -/
structure Constructor.Typed (known : Known) (type : TypeId) (constructor : Constructor) : Prop where
  fallbacks : ∀ parameter ∈ constructor.parameters, ∀ value ∈ parameter.fallback,
    value.Fits parameter.service
  takes : Takes (fun value => value.typeId = some type) known constructor.signature
    constructor.activate

/-- Only types that are no interfaces list constructors, each of them constructors of itself. -/
def Catalog.Typed (known : Known) (catalog : Catalog) : Prop :=
  ∀ row ∈ catalog.rows, Interfaces.includes row.1 = false ∧
    ∀ constructor ∈ row.2, constructor.Typed known row.1

/-- The registration is one of those that are typed: of a value or factory for its type, of a type
with constructors, of one exposed through an interface, or of an open definition. -/
inductive Descriptor.Typed (known : Known) : Descriptor → Prop where
  | fixed {type : TypeInfo} {name : String} {value : Value} {lifetime : Lifetime}
      (isA : value.IsA type.id) : Typed known ⟨.plain type, lifetime, .fixed name value⟩
  | produced {type : TypeInfo} {name : String} {factory : ScopeId → Body} {lifetime : Lifetime}
      (makes : ∀ scope, (factory scope).Makes (·.IsA type.id) known) :
      Typed known ⟨.plain type, lifetime, .produced name factory⟩
  | constructed {type : TypeInfo} {lifetime : Lifetime} :
      Typed known ⟨.plain type, lifetime, .constructed type none⟩
  | exposed {type interface : TypeInfo} {lifetime : Lifetime}
      (held : Interfaces.includes interface.id = true) :
      Typed known ⟨.plain interface, lifetime, .constructed type (some ⟨type, interface⟩)⟩
  | openGeneric {definition : TypeInfo} {lifetime : Lifetime} :
      Typed known ⟨.plain definition, lifetime, .openGeneric definition⟩

structure Blueprint.Typed (known : Known) (blueprint : Blueprint) : Prop where
  registry : ∀ descriptor ∈ blueprint.registry.descriptors, descriptor.Typed known
  catalog : blueprint.catalog.Typed known

section Monotone
variable {known more : Known}

theorem Constructor.Typed.mono {type : TypeId} {constructor : Constructor}
    (typed : constructor.Typed known type) (grown : known ≤ more) : constructor.Typed more type :=
  ⟨typed.fallbacks, typed.takes.mono grown⟩

theorem Descriptor.Typed.mono {descriptor : Descriptor} (typed : descriptor.Typed known)
    (grown : known ≤ more) : descriptor.Typed more := by
  cases typed with
  | fixed isA => exact .fixed isA
  | produced makes => exact .produced fun scope => (makes scope).mono grown
  | constructed => exact .constructed
  | exposed held => exact .exposed held
  | openGeneric => exact .openGeneric

theorem Blueprint.Typed.mono {blueprint : Blueprint} (typed : blueprint.Typed known)
    (grown : known ≤ more) : blueprint.Typed more where
  registry descriptor listed := (typed.registry descriptor listed).mono grown
  catalog row listed := ⟨(typed.catalog row listed).1, fun constructor member =>
    ((typed.catalog row listed).2 constructor member).mono grown⟩

theorem Catalog.Typed.constructor {catalog : Catalog} (typed : catalog.Typed known)
    {type : TypeId} {constructor : Constructor} (listed : constructor ∈ catalog.constructors type) :
    Interfaces.includes type = false ∧ constructor.Typed known type := by
  unfold Catalog.constructors at listed
  cases found : catalog.rows.lookup type with
  | none => simp [found] at listed
  | some row =>
    obtain ⟨before, after, split, _⟩ := List.lookup_eq_some_iff.1 found
    have member : (type, row) ∈ catalog.rows := by simp [split]
    rw [found] at listed
    exact ⟨(typed _ member).1, (typed _ member).2 constructor listed⟩

end Monotone

namespace Script
variable {known : Known}

theorem produced_typed (object : Object) (disposal : Option DisposalMode) (held : Option ScopeId) :
    Produced.Typed (·.typeId = some object.type.id) known (produced object disposal held []) := by
  refine ⟨rfl, fun disposable comes => ?_⟩
  obtain ⟨mode, _, rfl⟩ := Option.map_eq_some_iff.1 comes
  refine .ask trivial fun _ _ => ?_
  cases held <;> exact .done trivial

def Notebook.after (notebook : Notebook) (value : Value) (arguments : Arguments) : Notebook where
  recorded := notebook.recorded ++ [value.render]
  arguments
  held :=
    match value with
    | .scope scope => some scope
    | _ => notebook.held

omit [Interfaces] in
theorem finish_next (made : Concrete) (tag name : String) (wanted : Wanted) (rest : List BodyStep)
    (yield : Object → Notebook → Produced) (notebook : Notebook) :
    finish made tag notebook (BodyStep.takeAll name (.next wanted :: rest)) yield =
      match (notebook.arguments.next wanted).1 with
      | .ok value =>
        finish made tag (notebook.after value (notebook.arguments.next wanted).2)
          (BodyStep.takeAll name rest) yield
      | .error failure => pure (.error failure) := by
  have taken : (BodyStep.takeAll name (.next wanted :: rest)).run.run notebook =
      match (notebook.arguments.next wanted).1 with
      | .ok value =>
        (BodyStep.takeAll name rest).run.run
          (notebook.after value (notebook.arguments.next wanted).2)
      | .error failure =>
        pure (.error failure, { notebook with arguments := (notebook.arguments.next wanted).2 }) := by
    have first : (BodyStep.takeAll name (.next wanted :: rest)).run.run notebook =
        ((BodyStep.takeNext wanted).run.run notebook >>= fun ended =>
          ExceptT.bindCont (fun value => do
            BodyStep.hold value
            Running.note value.render) ended.1 ended.2) >>= fun ended =>
          ExceptT.bindCont (fun _ => BodyStep.takeAll name rest) ended.1 ended.2 := rfl
    rw [first, BodyStep.run_takeNext]
    cases (notebook.arguments.next wanted).1 with
    | error failure => rfl
    | ok value => cases value <;> rfl
  rw [finish, taken]
  cases (notebook.arguments.next wanted).1 <;> rfl

theorem takes_finish {wanteds : List Wanted} {services : List ServiceType}
    (orders : List.Forall₂ (fun (wanted : Wanted) (service : ServiceType) =>
      wanted.Suits ∧ (wanted.service.canonical == service.canonical) = true) wanteds services)
    (made : Concrete) (tag name : String) (disposal : Option DisposalMode) (notebook : Notebook) :
    Takes (fun value => value.typeId = some made.type.id) known services fun arguments =>
      finish made tag { notebook with arguments } (BodyStep.takeAll name (wanteds.map .next))
        fun object notebook => produced object disposal notebook.held [] := by
  induction orders generalizing notebook with
  | nil =>
    refine .rest fun arguments => .ask trivial fun (serial : Nat) _ => .ask trivial fun _ _ => .done ?_
    exact produced_typed { type := made.type, serial := some serial, text := _ } disposal notebook.held
  | @cons wanted service wanteds services suits _ ih =>
    let further : Except Failure Value → Arguments → Body := fun taken arguments =>
      match taken with
      | .ok value =>
        finish made tag (notebook.after value arguments) (BodyStep.takeAll name (wanteds.map .next))
          fun object notebook => produced object disposal notebook.held []
      | .error failure => pure (.error failure)
    have each : ∀ value : Value, value.Fits service →
        Takes (fun value => value.typeId = some made.type.id) known services (further (.ok value)) :=
      fun value _ => ih (notebook.after value notebook.arguments)
    simp only [List.map_cons, finish_next]
    exact .next suits.1 suits.2 each

namespace ScriptedConstructor
variable {scripted : ScriptedConstructor}

omit [Interfaces] in
theorem service_parameter (declared : Wanted × Option String) :
    (parameter declared).service = declared.1.service := by
  obtain ⟨wanted, tag⟩ := declared
  cases wanted <;> cases tag <;> rfl

theorem fits_fallback {declared : Wanted × Option String} (suits : declared.1.Suits) :
    ∀ value ∈ (parameter declared).fallback, value.Fits (parameter declared).service := by
  obtain ⟨wanted, tag⟩ := declared
  cases wanted with
  | concrete made =>
    cases tag with
    | none => rintro _ ⟨⟩
    | some tag =>
      rintro _ ⟨⟩
      exact (Value.isA_concrete suits).2 rfl
  | _ => cases tag <;> rintro _ ⟨⟩

theorem typed (plain : scripted.body = none) (quiet : scripted.onDispose = [])
    (suits : ∀ declared ∈ scripted.parameters, declared.1.Suits) :
    scripted.toConstructor.Typed known scripted.made.type.id where
  fallbacks parameter listed := by
    obtain ⟨declared, member, rfl⟩ := List.mem_map.1 listed
    exact fits_fallback (suits declared member)
  takes := by
    have orders : List.Forall₂ (fun (wanted : Wanted) (service : ServiceType) =>
        wanted.Suits ∧ (wanted.service.canonical == service.canonical) = true)
        (scripted.parameters.map (·.1)) scripted.toConstructor.signature := by
      rw [Constructor.signature, toConstructor, List.map_map, List.forall₂_map_left_iff,
        List.forall₂_map_right_iff, List.forall₂_same]
      exact fun declared member => ⟨suits declared member, by
        rw [Function.comp, service_parameter]
        exact BEq.rfl⟩
    have takes : Takes _ known _ _ :=
      takes_finish orders scripted.made scripted.tag scripted.made.type.name scripted.disposal {}
    have steps : scripted.steps = (scripted.parameters.map (·.1)).map .next := by
      rw [ScriptedConstructor.steps, plain, List.map_map]
      rfl
    unfold toConstructor activate
    rw [steps, quiet]
    exact takes

end ScriptedConstructor
end Script
end ServiceContainer
