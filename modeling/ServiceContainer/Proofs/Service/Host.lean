import ServiceContainer.Proofs.Registry

/-! Types as a host language has them. There a type determines its name, and a closed generic what it
is made of, so services that are equal are the same. Main statement: in a registry of such services
a slot of a service stands for one registration, whichever way the service is asked for. -/
namespace ServiceContainer

/-- What a host language says of its types: the name of each, and the open definition and the
arguments of those that are closed generics. -/
structure Host where
  name : TypeId → String
  generic : TypeId → Option (TypeInfo × List ServiceType)
  /-- None of the container's own types is generic. -/
  plainOwn : ∀ own : OwnService, generic own.id = none

namespace Host

/-- The service is described as the host describes its type. -/
def Speaks (host : Host) : ServiceType → Prop
  | .plain info => info.name = host.name info.id
  | .generic closed definition arguments =>
    closed.name = host.name closed.id ∧ host.generic closed.id = some (definition, arguments)
  | .collection element => host.Speaks element

/-- Only services that the host describes are registered or taken as parameters. -/
structure Describes (host : Host) (blueprint : Blueprint) : Prop where
  registered : ∀ descriptor ∈ blueprint.registry.descriptors, host.Speaks descriptor.service
  taken : ∀ (type : TypeId) (constructor : Constructor),
    constructor ∈ blueprint.catalog.constructors type →
    ∀ parameter ∈ constructor.parameters, host.Speaks parameter.service

theorem Speaks.eq {host : Host} : ∀ {a b : ServiceType}, host.Speaks a → host.Speaks b →
    (a == b) = true → a = b
  | .plain ⟨a, _⟩, .plain ⟨b, _⟩, first, second, same => by
    have ids : a = b := by simpa [BEq.beq, ServiceType.same] using same
    subst ids
    simp_all [Speaks]
  | .generic ⟨a, _⟩ _ _, .generic ⟨b, _⟩ _ _, first, second, same => by
    have ids : a = b := by simpa [BEq.beq, ServiceType.same] using same
    subst ids
    obtain ⟨name, made⟩ := first
    obtain ⟨other, again⟩ := second
    have parts := Option.some.inj (made.symm.trans again)
    simp_all
  | .collection a, .collection b, first, second, same => by
    have elements : (a == b) = true := same
    rw [Speaks.eq (a := a) (b := b) first second elements]
  | .plain _, .generic _ _ _, _, _, same | .plain _, .collection _, _, _, same => by cases same
  | .generic _ _ _, .plain _, _, _, same | .generic _ _ _, .collection _, _, _, same => by cases same
  | .collection _, .plain _, _, _, same | .collection _, .generic _ _ _, _, _, same => by cases same

theorem Speaks.name_congr {host : Host} {a b : ServiceType} (first : host.Speaks a)
    (second : host.Speaks b) (same : (a.canonical == b.canonical) = true) : a.name = b.name := by
  have named : ∀ {one other : TypeInfo}, one.name = host.name one.id →
      other.name = host.name other.id → (one == other) = true → one.name = other.name := by
    intro one other described again equal
    rw [described, again, show one.id = other.id from eq_of_beq equal]
  cases a with
  | plain info =>
    cases b with
    | plain other => exact named first second same
    | generic other _ _ => exact named first second.1 same
    | collection _ => cases same
  | generic info _ _ =>
    cases b with
    | plain other => exact named first.1 second same
    | generic other _ _ => exact named first.1 second.1 same
    | collection _ => cases same
  | collection element =>
    cases b with
    | plain _ | generic _ _ _ => cases same
    | collection other => rw [first.eq second same]

/-- Whether the service is a type under the name that the host gives it, or a collection of such. -/
def calls (host : Host) : ServiceType → Bool
  | .plain info => info.name == host.name info.id
  | .generic _ _ _ => false
  | .collection element => host.calls element

theorem speaks_of_calls {host : Host} : ∀ {service : ServiceType},
    host.calls service = true → host.Speaks service
  | .plain _, called => eq_of_beq called
  | .generic _ _ _, called => nomatch called
  | .collection element, called =>
    have within : host.Speaks element := speaks_of_calls called
    within

theorem Speaks.element {host : Host} {service element : ServiceType} (speaks : host.Speaks service)
    (collection : service.element = some element) : host.Speaks element := by
  cases service with
  | collection inner =>
    cases collection
    exact speaks
  | plain info => cases collection
  | generic closed definition arguments => cases collection

theorem Speaks.own?_generic {host : Host} {closed definition : TypeInfo}
    {arguments : List ServiceType} (speaks : host.Speaks (.generic closed definition arguments)) :
    (ServiceType.generic closed definition arguments).own? = none := by
  change OwnService.ofId? closed.id = none
  unfold OwnService.ofId?
  rw [List.find?_eq_none]
  intro own _ same
  have ids : own.id = closed.id := by simpa using same
  have plain := host.plainOwn own
  rw [ids, speaks.2] at plain
  cases plain

end Host

namespace Registry

/-- No registration stands for one of the container's own services or for a collection. -/
def Foreign (registry : Registry) : Prop :=
  ∀ descriptor ∈ registry.descriptors,
    descriptor.service.own? = none ∧ descriptor.service.element = none

def Uncollected (registry : Registry) : Prop :=
  ∀ descriptor ∈ registry.descriptors, descriptor.service.element = none

def DefinesTypes (registry : Registry) : Prop :=
  ∀ descriptor ∈ registry.descriptors, descriptor.isOpenGeneric = true →
    descriptor.service.element = none

variable {registry : Registry}

theorem Foreign.uncollected (foreign : registry.Foreign) : registry.Uncollected :=
  fun descriptor listed => (foreign descriptor listed).2

theorem Uncollected.definesTypes (uncollected : registry.Uncollected) : registry.DefinesTypes :=
  fun descriptor listed _ => uncollected descriptor listed

namespace Uncollected
variable (uncollected : registry.Uncollected) {service : ServiceType} {position slot : Nat}
include uncollected

theorem of_exact (listed : position ∈ registry.exactFor service) : service.element = none := by
  obtain ⟨descriptor, registered, filed⟩ := mem_positions.1 listed
  have alone := uncollected descriptor (List.mem_of_getElem? registered)
  have same : (descriptor.service.canonical == service.canonical) = true := by
    unfold isFiledUnder at filed
    exact (Bool.and_eq_true_iff.1 filed).2
  change ServiceType.same _ _ = true at same
  cases kind : descriptor.service <;> cases service <;>
    simp_all [ServiceType.same, ServiceType.canonical, ServiceType.element]

theorem of_mem_all (member : (position, slot) ∈ registry.all service) : service.element = none := by
  obtain exact | opened := List.mem_append.1 (List.mem_of_getElem? (mem_all.1 member))
  · exact uncollected.of_exact (List.mem_reverse.1 exact)
  · have listed := List.mem_reverse.1 opened
    cases service with
    | generic closed definition arguments => rfl
    | plain info => cases listed
    | collection element => cases listed

end Uncollected

/-- A service that no open definition serves, is served by exact registrations. -/
theorem DefinesTypes.exact_of_mem_all (types : registry.DefinesTypes)
    {service : ServiceType} {position slot : Nat} (unopened : registry.openFor service = [])
    (member : (position, slot) ∈ registry.all service) :
    ∃ descriptor, registry.descriptors[position]? = some descriptor ∧
      descriptor.isOpenGeneric = false := by
  have listed := List.mem_of_getElem? (mem_all.1 member)
  rw [served, unopened, List.reverse_nil, List.append_nil, List.mem_reverse] at listed
  obtain ⟨descriptor, registered, filed⟩ := mem_positions.1 listed
  refine ⟨descriptor, registered, Bool.not_eq_true _ ▸ fun opened => ?_⟩
  -- An open definition with no number of its own would be a registration of a collection.
  have alone := types descriptor (List.mem_of_getElem? registered) opened
  cases kind : descriptor.service <;>
    simp_all [isFiledUnder, Descriptor.openId, ServiceType.typeId, ServiceType.element]

theorem Foreign.of_exact (foreign : registry.Foreign) {service : ServiceType} {position : Nat}
    (listed : position ∈ registry.exactFor service) :
    service.own? = none ∧ service.element = none := by
  obtain ⟨descriptor, registered, filed⟩ := mem_positions.1 listed
  obtain ⟨strange, alone⟩ := foreign descriptor (List.mem_of_getElem? registered)
  have same : (descriptor.service.canonical == service.canonical) = true := by
    unfold isFiledUnder at filed
    exact (Bool.and_eq_true_iff.1 filed).2
  change ServiceType.same _ _ = true at same
  unfold ServiceType.own? at strange ⊢
  cases kind : descriptor.service <;> cases service <;>
    simp_all [ServiceType.same, ServiceType.canonical, ServiceType.typeId, ServiceType.element,
      BEq.beq]

theorem Foreign.of_mem_all (foreign : registry.Foreign) {host : Host} {service : ServiceType}
    (speaks : host.Speaks service) {position slot : Nat}
    (member : (position, slot) ∈ registry.all service) :
    service.own? = none ∧ service.element = none := by
  have served := List.mem_of_getElem? (mem_all.1 member)
  obtain exact | opened := List.mem_append.1 served
  · exact foreign.of_exact (List.mem_reverse.1 exact)
  · have listed := List.mem_reverse.1 opened
    cases service with
    | generic closed definition arguments => exact ⟨speaks.own?_generic, rfl⟩
    | plain info => cases listed
    | collection element => cases listed

theorem single_of_mem_all {service : ServiceType} {position : Nat}
    (member : (position, 0) ∈ registry.all service) : registry.single service = some position := by
  rw [single_eq]
  exact mem_all.1 member

end Registry
end ServiceContainer
