import ServiceContainer.Proofs.CallSite.Shape
import ServiceContainer.Proofs.Constructor.Selection

/-! What builds ask for. Main statements: what holds of the builds of all that a target needs, holds
of its own; so a plan asks only for what its target needs, for parameters of the constructors of what
it makes and for members of the collection it is about, whatever the answers. -/
namespace ServiceContainer
namespace Query
variable {α β : Type}

def Only (allowed : Target → Prop) : Query α → Prop
  | .done _ => True
  | .ask target next => allowed target ∧ ∀ found, (next found).Only allowed

namespace Only
variable {allowed : Target → Prop}

theorem pure (value : α) : Only allowed (Pure.pure value : ExceptT Failure Query α) := trivial

theorem mk (outcome : Except Failure α) :
    Only allowed (ExceptT.mk (Pure.pure outcome) : ExceptT Failure Query α) := trivial

theorem request {target : Target} (permitted : allowed target) :
    Only allowed (Query.request target) := ⟨permitted, fun _ => trivial⟩

theorem bind {query : ExceptT Failure Query α} {next : α → ExceptT Failure Query β}
    (first : Only allowed query) (rest : ∀ value, Only allowed (next value)) :
    Only allowed (query >>= next : ExceptT Failure Query β) := by
  change Only allowed (Query.bind query (ExceptT.bindCont next))
  induction query with
  | done outcome =>
    cases outcome with
    | ok value => exact rest value
    | error failure => trivial
  | ask target tail ih => exact ⟨first.1, fun found => ih found (first.2 found)⟩

theorem mono {other : Target → Prop} {query : Query α} (h : query.Only allowed)
    (weaker : ∀ target, allowed target → other target) : query.Only other := by
  induction query with
  | done result => trivial
  | ask target next ih => exact ⟨weaker _ h.1, fun found => ih found (h.2 found)⟩

theorem compositional (allowed : Target → Prop) :
    Compositional fun {_} query => Only allowed query where
  pure := pure
  throw failure := mk (.error failure)
  bind := bind

end Only
end Query

inductive Descriptor.Makes (descriptor : Descriptor) (service : ServiceType) : TypeInfo → Prop where
  | constructed {type : TypeInfo} {cast : Option InterfaceCast}
      (implemented : descriptor.implementation = .constructed type cast) :
      descriptor.Makes service type
  | opened {closed definition opened : TypeInfo} {arguments : List ServiceType}
      (generic : service = .generic closed definition arguments)
      (implemented : descriptor.implementation = .openGeneric opened) :
      descriptor.Makes service closed

namespace Blueprint
open Query
variable {blueprint : Blueprint}

/-- The target depends on the other: on a parameter of a constructor of what the target's
registration makes, or on a member of the collection. -/
inductive Needs (blueprint : Blueprint) : Target → Target → Prop where
  | parameter {target : Target} {service : ServiceType} {position slot : Nat}
      {descriptor : Descriptor} {type : TypeInfo} {constructor : Constructor} {parameter : Parameter}
      (picked : blueprint.registry.Picks target service position slot)
      (registered : blueprint.registry.descriptors[position]? = some descriptor)
      (made : descriptor.Makes service type)
      (listed : constructor ∈ blueprint.catalog.constructors type.id)
      (declared : parameter ∈ constructor.parameters) :
      Needs blueprint target (.single parameter.service)
  | member {service element : ServiceType} {position slot : Nat} (foreign : service.own? = none)
      (collection : service.element = some element)
      (listed : (position, slot) ∈ blueprint.registry.all element) :
      Needs blueprint (.single service) (.member element position slot)

section Steps
variable {m : Type → Type} [Monad m] {P : ∀ {α : Type}, ExceptT Failure m α → Prop}
  {build : Target → ExceptT Failure m (Option CallSite)}

theorem bindParameters_of (closed : Selective P) {parameters : List Parameter}
    (h : ∀ parameter ∈ parameters, P (build (.single parameter.service))) :
    P (bindParameters build parameters) := by
  induction parameters with
  | nil => exact closed.pure _
  | cons parameter rest ih =>
    have others := ih fun other member => h other (List.mem_cons_of_mem _ member)
    rw [bindParameters]
    refine closed.bind (h parameter List.mem_cons_self) fun found => ?_
    cases found.or (parameter.fallback.map (fallbackCallSite parameter.service)) with
    | none => exact closed.pure _
    | some callSite =>
      refine closed.bind others fun binding => ?_
      cases binding <;> exact closed.pure _

theorem constructCallSite_of (closed : Selective P) {constructors : List Constructor}
    (h : ∀ constructor ∈ constructors, ∀ parameter ∈ constructor.parameters,
      P (build (.single parameter.service))) (site : Site) (cast : Option InterfaceCast) :
    P (constructCallSite build site constructors cast) := by
  refine closed.bind (closed.select (fun constructor listed => ?_) _) fun _ => closed.pure _
  exact bindParameters_of closed (h constructor listed)

variable [LawfulMonad m]

theorem callSiteAt_of (closed : Selective P) {target : Target} {service : ServiceType}
    {position slot : Nat} (h : ∀ asked, blueprint.Needs target asked → P (build asked))
    (picked : blueprint.registry.Picks target service position slot) :
    P (blueprint.callSiteAt build service position slot) := by
  unfold callSiteAt
  cases registered : blueprint.registry.descriptors[position]? with
  | none => exact closed.pure _
  | some descriptor =>
    simp only [callSiteOf]
    cases implemented : descriptor.implementation with
    | fixed name value => exact closed.pure _
    | produced name factory => exact closed.pure _
    | constructed type cast =>
      dsimp only
      rw [← bind_pure_comp]
      refine closed.bind (constructCallSite_of closed ?_ _ _) fun _ => closed.pure _
      intro constructor listed parameter declared
      exact h _ (.parameter picked registered (.constructed implemented) listed declared)
    | openGeneric opened =>
      cases service with
      | plain info => exact closed.pure _
      | collection element => exact closed.pure _
      | generic type definition arguments =>
        dsimp only
        rw [← bind_pure_comp]
        refine closed.bind (constructCallSite_of closed ?_ _ _) fun _ => closed.pure _
        intro constructor listed parameter declared
        exact h _ (.parameter picked registered (.opened rfl implemented) listed declared)

omit [LawfulMonad m] in
theorem collectMembers_of (closed : Selective P) {element : ServiceType}
    {members : List (Nat × Nat)}
    (h : ∀ member ∈ members, P (build (.member element member.1 member.2))) :
    P (collectMembers build element members) := by
  induction members with
  | nil => exact closed.pure _
  | cons member rest ih =>
    have others := ih fun other listed => h other (List.mem_cons_of_mem _ listed)
    rw [collectMembers]
    refine closed.bind (h member List.mem_cons_self) fun found => ?_
    exact closed.bind others fun _ => closed.pure _

/-- What holds of the builds of all that a target needs, holds of its own. -/
theorem assemble_of (closed : Selective P) {target : Target}
    (h : ∀ asked, blueprint.Needs target asked → P (build asked)) :
    P (blueprint.assemble build target) := by
  cases target with
  | member service position slot => exact callSiteAt_of closed h (.member service position slot)
  | single service =>
    simp only [assemble]
    cases foreign : service.own? with
    | some own => exact closed.pure _
    | none =>
      cases collection : service.element with
      | some element =>
        dsimp only [collectCallSite]
        rw [← bind_pure_comp]
        refine closed.bind (closed.bind ?_ fun _ => closed.pure _) fun _ => closed.pure _
        exact collectMembers_of closed fun member listed => h _ (.member foreign collection listed)
      | none =>
        cases last : blueprint.registry.single service with
        | none => exact closed.pure _
        | some position => exact callSiteAt_of closed h (.single foreign collection last)

end Steps

theorem needs_plan (target : Target) : Only (blueprint.Needs target) (blueprint.plan target) :=
  assemble_of (Only.compositional _).selective fun _ needed => Only.request needed

theorem selective_refusals (answers : Target → Option CallSite → Prop) :
    Selective fun {α} (query : ExceptT Failure Query α) => ∀ failure,
      Yields answers query (.error failure) → Constructor.Refusal failure where
  pure _ _ yields := by cases Yields.pure_iff.1 yields
  refuse _ refused _ yields := by
    cases Yields.throw_iff.1 yields
    exact refused
  bind first rest failure yields := by
    obtain failed | ⟨value, _, failed⟩ := Yields.bind_error yields
    · exact first failure failed
    · exact rest value failure failed

theorem refusal_of_plan {answers : Target → Option CallSite → Prop} {target : Target}
    {failure : Failure} (failed : (blueprint.plan target).Yields answers (.error failure)) :
    Constructor.Refusal failure := by
  refine assemble_of (selective_refusals answers) (fun asked _ other yields => ?_) failure failed
  obtain _ | ⟨_, rest⟩ := yields
  cases rest

/-- What the plan of a target can ask for: the parameters of listed constructors, and the members
of a collection. -/
inductive MayAsk (blueprint : Blueprint) (target : Target) : Target → Prop where
  | parameter {type : TypeId} {constructor : Constructor} {parameter : Parameter}
      (listed : constructor ∈ blueprint.catalog.constructors type)
      (declared : parameter ∈ constructor.parameters) :
      MayAsk blueprint target (.single parameter.service)
  | member {service element : ServiceType} {position slot : Nat} (asked : target = .single service)
      (collection : service.element = some element)
      (member : (position, slot) ∈ blueprint.registry.all element) :
      MayAsk blueprint target (.member element position slot)

theorem Needs.mayAsk {target asked : Target} (needed : blueprint.Needs target asked) :
    blueprint.MayAsk target asked := by
  cases needed with
  | parameter _ _ _ listed declared => exact .parameter listed declared
  | member _ collection listed => exact .member rfl collection listed

theorem only_plan (target : Target) : Only (blueprint.MayAsk target) (blueprint.plan target) :=
  (needs_plan target).mono fun _ needed => needed.mayAsk

end Blueprint
end ServiceContainer
