import ServiceContainer.Proofs.CallSite.Keys
import ServiceContainer.Proofs.Engine.Announcement
import ServiceContainer.Proofs.Typing.Blueprints

/-! Typed graphs. Main statement: whatever graphs a memo holds for typed registrations, they are
typed. -/
namespace ServiceContainer
variable [Interfaces]

/-- The key that instances are kept under has the service itself, but for its generic form. -/
def Site.Agrees (site : Site) : Prop := (site.key.service.canonical == site.service.canonical) = true

/-- All that the graph makes, and makes it from, is what is expected. -/
inductive CallSite.Typed (known : Known) : CallSite → Prop where
  | constant {site : Site} {value : Value} (agrees : site.Agrees) (fits : value.Fits site.service) :
      Typed known (.constant site value)
  | fallback {site : Site} {value : Value} (agrees : site.Agrees) (fits : value.Fits site.service) :
      Typed known (.fallback site value)
  | factory {site : Site} {body : ScopeId → Body} (agrees : site.Agrees)
      (makes : ∀ scope, (body scope).Makes (·.Fits site.service) known) :
      Typed known (.factory site body)
  | construct {site : Site} {activate : Arguments → Body} {cast : Option InterfaceCast}
      {parameters : List CallSite} {type : TypeId} {services : List ServiceType}
      (agrees : site.Agrees)
      (takes : Takes (fun value => value.typeId = some type) known services activate)
      (bound : List.Forall₂ (fun (child : CallSite) service => (child.site.service == service) = true)
        parameters services)
      (bare : cast = none → ∀ value : Value, value.typeId = some type → value.Fits site.service)
      (exposed : ∀ means ∈ cast, means.concrete.id = type ∧
        ∀ value, (Value.view means.interface value).Fits site.service)
      (children : ∀ child ∈ parameters, Typed known child) :
      Typed known (.construct site activate cast parameters)
  | collect {site : Site} {items : List CallSite} {element : ServiceType} (agrees : site.Agrees)
      (collection : site.service = .collection element)
      (members : ∀ item ∈ items, (item.site.service == element) = true)
      (children : ∀ item ∈ items, Typed known item) : Typed known (.collect site items)
  | own {site : Site} {service : OwnService} (agrees : site.Agrees)
      (provides : site.service.own? = some service) : Typed known (.own site service)

namespace CallSite.Typed
variable {known more : Known} {callSite : CallSite}

theorem mono (typed : callSite.Typed known) (grown : known ≤ more) : callSite.Typed more := by
  induction typed with
  | constant agrees fits => exact .constant agrees fits
  | fallback agrees fits => exact .fallback agrees fits
  | factory agrees makes => exact .factory agrees fun scope => (makes scope).mono grown
  | construct agrees takes bound bare exposed _ ih =>
    exact .construct agrees (takes.mono grown) bound bare exposed ih
  | collect agrees collection members _ ih => exact .collect agrees collection members ih
  | own agrees provides => exact .own agrees provides

end CallSite.Typed

namespace Value
variable {value : Value} {type : TypeInfo}

theorem fits_of_typeId (concrete : Interfaces.includes type.id = false)
    (isA : value.typeId = some type.id) : value.Fits (.plain type) :=
  (isA_concrete concrete).2 isA

theorem fits_view (held : Interfaces.includes type.id = true) (inner : Value) :
    (Value.view type inner).Fits (.plain type) :=
  (isA_interface held).2 ⟨type, inner, rfl, beq_self_eq_true type.id⟩

end Value

namespace Memo
open Blueprint
variable {blueprint : Blueprint} {memo : Memo} {known : Known} {callSite : CallSite}

/-- The graph is the memo's answer to some request, or a default that fits its parameter. -/
def Supplies (memo : Memo) (callSite : CallSite) : Prop :=
  (∃ key, memo.lookup key = some (some callSite)) ∨
    ∃ service value, callSite = fallbackCallSite service value ∧ value.Fits service

theorem Sound.supplies (sound : Memo.Sound blueprint memo) {parameters : List Parameter}
    {callSites : List CallSite} (bound : List.Forall₂ (Binds memo.Records) parameters callSites)
    (fallbacks : ∀ parameter ∈ parameters, ∀ value ∈ parameter.fallback,
      value.Fits parameter.service) :
    List.Forall₂ (fun (child : CallSite) service => (child.site.service == service) = true) callSites
        (parameters.map (·.service)) ∧ ∀ child ∈ callSites, memo.Supplies child := by
  induction bound with
  | nil => exact ⟨.nil, by simp⟩
  | @cons parameter child parameters callSites binds _ ih =>
    obtain ⟨services, supplied⟩ :=
      ih fun other member => fallbacks other (List.mem_cons_of_mem _ member)
    have first : (child.site.service == parameter.service) = true ∧ memo.Supplies child := by
      cases binds with
      | found answered => exact ⟨sound.makes answered, .inl ⟨_, answered⟩⟩
      | fallback _ default =>
        exact ⟨BEq.rfl, .inr ⟨_, _, rfl, fallbacks parameter List.mem_cons_self _ default⟩⟩
    refine ⟨.cons first.1 services, fun other member => ?_⟩
    obtain rfl | member := List.mem_cons.1 member
    · exact first.2
    · exact supplied other member

theorem Sound.typed_of_assembled (sound : Memo.Sound blueprint memo)
    (typed : blueprint.Typed known) {target : Target} (lists : blueprint.registry.Lists target)
    (assembled : blueprint.Assembles memo.Records target callSite)
    (children : ∀ child ∈ callSite.children, memo.Supplies child → child.Typed known) :
    callSite.Typed known := by
  have described : ∀ {position : Nat} {descriptor : Descriptor},
      blueprint.registry.descriptors[position]? = some descriptor → descriptor.Typed known :=
    fun registered => typed.registry _ (List.mem_of_getElem? registered)
  -- A registration that is not open is filed under the service itself, but for its generic form.
  have filed : ∀ {service : ServiceType} {position slot : Nat} {descriptor : Descriptor},
      blueprint.registry.Picks target service position slot →
      blueprint.registry.descriptors[position]? = some descriptor →
      descriptor.isOpenGeneric = false →
      (descriptor.service.canonical == service.canonical) = true :=
    fun picked registered closed => (Registry.slot_of_exact registered closed (picked.served lists)).1
  cases assembled with
  | own _ provides => exact .own BEq.rfl provides
  | @collect service element founds _ collection answered =>
    obtain rfl : service = .collection element := by
      cases service <;> cases collection
      rfl
    have supplied : ∀ item ∈ founds.flatMap Option.toList, ∃ slot,
        memo.lookup ⟨element, slot⟩ = some (some item) := by
      intro item member
      obtain ⟨found, listed, present⟩ := List.mem_flatMap.1 member
      obtain rfl : found = some item := Option.mem_toList.1 present
      obtain ⟨member, _, recorded⟩ := exists_of_forall₂ answered listed
      exact ⟨member.2, recorded⟩
    refine .collect BEq.rfl rfl (fun item member => ?_) fun item member => ?_
    · obtain ⟨slot, recorded⟩ := supplied item member
      exact sound.makes recorded
    · obtain ⟨slot, recorded⟩ := supplied item member
      exact children item member (.inl ⟨_, recorded⟩)
  | @fixed service position slot descriptor name value picked registered implemented =>
    have same := filed picked registered (by simp [Descriptor.isOpenGeneric, implemented])
    cases described registered with
    | fixed isA =>
      cases implemented
      exact .constant same ((Value.fits_congr same).1 isA)
    | produced _ | constructed | exposed _ | openGeneric => cases implemented
  | @produced service position slot descriptor name factory picked registered implemented =>
    have same := filed picked registered (by simp [Descriptor.isOpenGeneric, implemented])
    cases described registered with
    | produced makes =>
      cases implemented
      exact .factory same fun scope =>
        (makes scope).weaken fun _ isA => (Value.fits_congr same).1 isA
    | fixed _ | constructed | exposed _ | openGeneric => cases implemented
  | @constructed service position slot descriptor type cast chosen parameters picked registered
      implemented listed bound =>
    have same := filed picked registered (by simp [Descriptor.isOpenGeneric, implemented])
    obtain ⟨concrete, constructor⟩ := typed.catalog.constructor listed
    obtain ⟨services, supplied⟩ := sound.supplies bound constructor.fallbacks
    cases described registered with
    | constructed =>
      cases implemented
      refine .construct same constructor.takes services (fun _ value isA => ?_) (by simp)
        fun child member => children child member (supplied child member)
      exact (Value.fits_congr same).1 (Value.fits_of_typeId concrete isA)
    | exposed held =>
      cases implemented
      refine .construct same constructor.takes services (by rintro ⟨⟩) ?_
        fun child member => children child member (supplied child member)
      rintro _ ⟨⟩
      exact ⟨rfl, fun value => (Value.fits_congr same).1 (Value.fits_view held value)⟩
    | fixed _ | produced _ | openGeneric => cases implemented
  | @opened position slot descriptor definition closed opened arguments chosen parameters picked
      registered implemented listed bound =>
    obtain ⟨concrete, constructor⟩ := typed.catalog.constructor listed
    obtain ⟨services, supplied⟩ := sound.supplies bound constructor.fallbacks
    have agrees : (registeredSite descriptor (.generic closed definition arguments) slot
        closed.name).Agrees := by
      simp [Site.Agrees, registeredSite, instanceKey, Descriptor.isOpenGeneric, implemented]
    exact .construct agrees constructor.takes services
      (fun _ value isA => Value.fits_of_typeId concrete isA) (by simp)
      fun child member => children child member (supplied child member)

/-- Among supplied graphs, one is typed if all that it needs are. -/
theorem Sound.typed_of_children (sound : Memo.Sound blueprint memo) (typed : blueprint.Typed known)
    (supplied : memo.Supplies callSite)
    (children : ∀ child ∈ callSite.children, memo.Supplies child → child.Typed known) :
    callSite.Typed known := by
  obtain ⟨key, recorded⟩ | ⟨service, value, rfl, fits⟩ := supplied
  · obtain ⟨target, lists, assembled, _, _⟩ := sound.assembles recorded
    exact sound.typed_of_assembled typed lists assembled children
  · exact .fallback BEq.rfl fits

mutual
theorem Sound.typed_of_supplied (sound : Memo.Sound blueprint memo)
    (typed : blueprint.Typed known) :
    ∀ callSite : CallSite, memo.Supplies callSite → callSite.Typed known
  | .constant _ _, supplied | .fallback _ _, supplied | .factory _ _, supplied
  | .own _ _, supplied => sound.typed_of_children typed supplied (by rintro _ ⟨⟩)
  | .construct _ _ _ parameters, supplied =>
    sound.typed_of_children typed supplied (sound.typed_of_suppliedAll typed parameters)
  | .collect _ items, supplied =>
    sound.typed_of_children typed supplied (sound.typed_of_suppliedAll typed items)
theorem Sound.typed_of_suppliedAll (sound : Memo.Sound blueprint memo)
    (typed : blueprint.Typed known) : ∀ callSites : List CallSite,
      ∀ child ∈ callSites, memo.Supplies child → child.Typed known
  | [] => by simp
  | callSite :: rest => by
    have first := sound.typed_of_supplied typed callSite
    have others := sound.typed_of_suppliedAll typed rest
    intro child member supplied
    obtain rfl | member := List.mem_cons.1 member
    · exact first supplied
    · exact others child member supplied
end

end Memo

/-- The graphs that an engine has realized for typed registrations are typed. -/
theorem Engine.Sound.typed {engine : Engine} {known : Known} (sound : engine.Sound)
    (typed : engine.blueprint.Typed known) {realization : Realization}
    (listed : realization ∈ engine.realizations) : realization.callSite.Typed known := by
  obtain ⟨service, recorded⟩ := sound.realized realization listed
  exact sound.memo.typed_of_supplied typed _ (.inl ⟨_, recorded⟩)

end ServiceContainer
