import ServiceContainer.Proofs.CallSite.Congruence
import ServiceContainer.Proofs.CallSite.Following
import ServiceContainer.Proofs.CallSite.Made

/-! Services that are made by a constructor of their type. Main statement: such a service has a graph
if and only if each graph that the choice among the constructors asks for is found by itself, and
then it is made by the chosen constructor from these. -/
namespace ServiceContainer
namespace Blueprint
open Query
variable {blueprint : Blueprint}

def selection (blueprint : Blueprint) (type : TypeInfo) :
    ExceptT Failure Query (Constructor × List CallSite) :=
  Constructor.select type.name (blueprint.catalog.constructors type.id) fun constructor =>
    bindParameters request constructor.parameters

/-- A single request for the service gets the registration, which is of the type. -/
structure Activates (blueprint : Blueprint) (service : ServiceType) (descriptor : Descriptor)
    (type : TypeInfo) (cast : Option InterfaceCast) : Prop where
  picked : ∃ position, blueprint.registry.Picks (.single service) service position 0 ∧
    blueprint.registry.descriptors[position]? = some descriptor
  implemented : descriptor.implementation = .constructed type cast

def activated (service : ServiceType) (descriptor : Descriptor) (type : TypeInfo)
    (cast : Option InterfaceCast) (choice : Constructor × List CallSite) : CallSite :=
  .construct (registeredSite descriptor service 0 type.name) choice.1.activate cast choice.2

section Activations
variable {host : Host} {service : ServiceType} {descriptor : Descriptor} {type : TypeInfo}
  {cast : Option InterfaceCast} {memo later : Memo} {found : Option CallSite}
  {choice : Constructor × List CallSite}

theorem only_selection (describes : host.Describes blueprint) (type : TypeInfo) :
    Only (blueprint.Proper host) (blueprint.selection type) := by
  refine (Only.compositional _).select (fun constructor listed => ?_) _
  refine bindParameters_of (Only.compositional _).selective fun parameter declared => ?_
  exact Only.request ⟨describes.taken _ _ listed _ declared, trivial⟩

variable (activates : blueprint.Activates service descriptor type cast)
include activates

theorem Activates.plan_eq (speaks : host.Speaks service) {target : Target}
    (proper : blueprint.Proper host target) (same : (target.key == ⟨service, 0⟩) = true) :
    blueprint.plan target =
      (fun choice => some (activated service descriptor type cast choice)) <$>
        blueprint.selection type := by
  obtain ⟨⟨position, picked, registered⟩, implemented⟩ := activates
  have picks : blueprint.registry.Picks target service position 0 := by
    have served : (position, 0) ∈ blueprint.registry.all service := picked.served trivial
    obtain ⟨services, slots⟩ := CacheKey.beq_iff.1 same
    obtain ⟨described, lists⟩ := proper
    cases target with
    | single other =>
      cases Host.Speaks.eq described speaks services
      exact picked
    | member other place slot =>
      cases Host.Speaks.eq described speaks services
      have first : slot = 0 := slots
      subst first
      cases Registry.position_unique lists served
      exact .member ..
  rw [picks.plan_eq, callSiteAt, registered]
  simp only [callSiteOf, implemented, constructCallSite, ← bind_pure_comp, bind_assoc, pure_bind]
  rfl

variable (speaks : host.Speaks service)
include speaks

theorem Activates.plan_single : blueprint.plan (.single service) =
    (fun choice => some (activated service descriptor type cast choice)) <$>
      blueprint.selection type := by
  have proper : blueprint.Proper host (.single service) := ⟨speaks, trivial⟩
  exact activates.plan_eq speaks proper BEq.rfl

theorem Activates.exists_known (built : memo.Built blueprint) (spoken : memo.Spoken host)
    (known : memo.lookup ⟨service, 0⟩ = some found) :
    ∃ choice, Yields memo.Records (blueprint.selection type) (.ok choice) ∧
      found = some (activated service descriptor type cast choice) := by
  obtain ⟨filed, same, stored⟩ := Table.mem_entries known
  obtain ⟨target, lists, rfl, yields⟩ := built.filed _ stored
  have described : host.Speaks target.key.service := spoken _ stored
  have proper : blueprint.Proper host target := by cases target <;> exact ⟨described, lists⟩
  rw [activates.plan_eq speaks proper same, Yields.map_ok_iff] at yields
  obtain ⟨choice, selected, rfl⟩ := yields
  exact ⟨choice, selected, rfl⟩

/-- The graph that is found for the service is made by the choice among the constructors, if each
graph that this asks for is found by itself. -/
theorem Activates.exists_choice (built : memo.Built blueprint) (spoken : memo.Spoken host)
    (located : blueprint.Locates [] (.single service) memo found later) :
    ∃ choice between,
      Follows (blueprint.Locates []) (blueprint.selection type) memo (.ok choice) between ∧
        found = some (activated service descriptor type cast choice) ∧ between.Grows later := by
  cases located with
  | known recorded =>
    obtain ⟨choice, selected, rfl⟩ := activates.exists_known speaks built spoken recorded
    exact ⟨choice, memo, .of_yields selected fun _ _ known => .known known, rfl, .refl memo⟩
  | @built _ _ _ between _ unknown _ planned =>
    have left : between.lookup ⟨service, 0⟩ = none :=
      (planned.kept (.single service) List.mem_cons_self).trans unknown
    rw [activates.plan_single speaks, finds_plan_iff, Follows.map_ok_iff] at planned
    obtain ⟨choice, follows, rfl⟩ := planned
    refine ⟨choice, between, follows.mono fun _ _ found _ under => ?_, rfl, Memo.grows_insert left⟩
    exact Finds.drop under ⟨found, rfl⟩

theorem Activates.exists_located (describes : host.Describes blueprint)
    (built : memo.Built blueprint) (spoken : memo.Spoken host) {between : Memo}
    (follows : Follows (blueprint.Locates []) (blueprint.selection type) memo (.ok choice) between) :
    ∃ later, blueprint.Locates [] (.single service) memo
        (some (activated service descriptor type cast choice)) later ∧ between.Grows later := by
  cases known : memo.lookup ⟨service, 0⟩ with
  | some found =>
    obtain ⟨other, selected, rfl⟩ := activates.exists_known speaks built spoken known
    have again : Follows (blueprint.Locates []) (blueprint.selection type) memo (.ok other) memo :=
      .of_yields selected fun _ _ known => .known known
    obtain ⟨same, rfl⟩ := follows.unique locates_unique again
    cases same
    exact ⟨between, .known known, .refl between⟩
  | none =>
    have asks : ∀ last, memo.Grows last → ∀ other, blueprint.Proper host other →
        (other.key == (Target.single service).key) = true → ∀ asked,
          Reaches last.Records (blueprint.selection type) asked →
            Reaches last.Records (blueprint.plan other) asked := by
      intro last _ other proper same asked reaches
      rw [activates.plan_eq speaks proper same]
      exact reaches.of_map
    obtain ⟨beneath, left⟩ :=
      follows_beneath describes asks (only_selection describes type) follows known
    have planned : blueprint.Finds [.single service] (.plan (blueprint.plan (.single service))) memo
        (.ok (some (activated service descriptor type cast choice))) between := by
      rw [activates.plan_single speaks]
      exact finds_plan_iff.2 (Follows.map_ok_iff.2 ⟨choice, beneath, rfl⟩)
    exact ⟨_, .built known rfl planned, Memo.grows_insert left⟩

end Activations
end Blueprint
end ServiceContainer
