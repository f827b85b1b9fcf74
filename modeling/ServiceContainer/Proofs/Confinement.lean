import ServiceContainer.Proofs.Uniqueness

/-! Scoped services and the root. Main statement: while lifetimes are checked, a provider's root is
never the owner of a scoped construction, and its cache has no entry for a scoped registration. -/
namespace ServiceContainer
namespace World

/-- The cache has an entry only for what was begun at some time, and is to be kept. -/
def Filed (world : World) : Prop :=
  ∀ cell, world.cached cell ≠ none → ∃ engine key location owner,
    .entered engine key location owner ∈ world.journal ∧
      ((⟨engine, key, owner⟩ : Frame) == cell) = true ∧ location ≠ .nowhere

namespace Filed
variable {world later : World}

theorem of_cached (filed : world.Filed) (grown : world.journal <:+ later.journal) {cell : Frame}
    (before : world.cached cell ≠ none) : ∃ engine key location owner,
      .entered engine key location owner ∈ later.journal ∧
        ((⟨engine, key, owner⟩ : Frame) == cell) = true ∧ location ≠ .nowhere := by
  obtain ⟨engine, key, location, owner, entered, rest⟩ := filed cell before
  exact ⟨engine, key, location, owner, grown.subset entered, rest⟩

theorem step (filed : world.Filed) (step : world.Step later) : later.Filed := by
  have grown := step.extends.journal
  cases step using Step.casesAside with
  | aside _ aside =>
    intro cell listed
    rw [aside.cached] at listed
    exact filed.of_cached grown listed
  | @close scope disposing _ =>
    intro cell listed
    have hosted : world.Hosts scope (world.scope scope).engine := .of_state (by simp [disposing])
    rw [cached_close hosted] at listed
    split at listed
    · exact absurd rfl listed
    · exact filed.of_cached grown listed
  | @enter callSite owner offered _ _ _ _ =>
    intro cell listed
    by_cases kept : callSite.site.location = .nowhere
    · have same : world.begin callSite.site owner =
          world.enter (world.scope owner).engine callSite.site owner := if_pos kept
      rw [same] at listed
      exact filed.of_cached grown listed
    · cases same : world.frame callSite.site owner == cell with
      | true =>
        refine ⟨_, callSite.site.key, callSite.site.location, owner, ?_, same, kept⟩
        rw [journal_begin]
        exact List.mem_cons_self
      | false =>
        rw [cached_begin_of_ne offered.hosts same] at listed
        exact filed.of_cached grown listed
  | @complete site owner value making =>
    intro cell listed
    refine filed.of_cached grown fun absent => listed ?_
    by_cases kept : site.location = .nowhere
    · have same : (world.record (.completed (world.scope owner).engine site.key owner value)).keep
          site owner value = world.record (.completed (world.scope owner).engine site.key owner
            value) := if_pos kept
      rw [finish, complete, same]
      exact absent
    · cases same : world.frame site owner == cell with
      | true =>
        rw [← cached_congr same] at absent ⊢
        rw [cached_finish making.hosted kept, absent]
        rfl
      | false => rw [cached_finish_of_ne making.hosted same, absent]
  | leave _ | handOut _ => exact fun cell listed => filed.of_cached grown listed

theorem steps (filed : world.Filed) (steps : world.Steps later) : later.Filed := by
  induction steps with
  | refl => exact filed
  | tail _ step ih => exact ih.step step

theorem start (metrics : List Metrics) : Filed { metrics } := by
  intro cell listed
  exact absurd (by simp [World.cached, World.scope, Table.lookup]) listed

end Filed

theorem Reachable.filed {world : World} (reached : world.Reachable) : world.Filed := by
  obtain ⟨metrics, steps, _⟩ := reached.steps
  exact (Filed.start metrics).steps steps

section Rooted
variable {world : World} (regular : world.Regular) {id : EngineId} {position : Nat}
  {service : ServiceType} {callSite : CallSite} {descriptor : Descriptor}
include regular

theorem Regular.location_eq (planned : world.Plans id position service callSite)
    (registered : (world.engine id).blueprint.registry.descriptors[position]? = some descriptor)
    {key : CacheKey} {location : CacheLocation} {owner : ScopeId}
    (entered : .entered id key location owner ∈ world.journal)
    (same : (key == callSite.site.key) = true) : location = descriptor.lifetime.location := by
  obtain ⟨other, warrants⟩ := regular.planned id key location owner entered
  obtain ⟨held, constructs, rfl, rfl, _, _, _⟩ := warrants
  obtain ⟨_, _, again⟩ := held.plans (regular.formed.engine_sound id).memo constructs
  obtain ⟨_, _, described⟩ := again.described constructs
  obtain ⟨_, _, filed, _⟩ := planned.filed
  cases described.toFiles.position_congr filed same
  cases registered.symm.trans described.registered
  exact described.location

variable {root : ScopeId} (top : world.IsRootOf root id)
  (checked : (world.engine id).options.validateScopes = true)
  (lawful : (world.engine id).memo.Lawful)
include top checked lawful

theorem Regular.not_entered (key : CacheKey) : .entered id key .scope root ∉ world.journal := by
  intro entered
  obtain ⟨callSite, warrants⟩ := regular.planned id key .scope root entered
  obtain ⟨_, unexposed⟩ := warrants.clear checked lawful
  exact unexposed top (.here warrants.located)

theorem Regular.lookup_eq_none (filed : world.Filed)
    (planned : world.Plans id position service callSite)
    (registered : (world.engine id).blueprint.registry.descriptors[position]? = some descriptor)
    (lifetime : descriptor.lifetime = .scoped) :
    (world.scope root).cache.lookup callSite.site.key = none := by
  have entry : world.cached ⟨id, callSite.site.key, root⟩ =
      (world.scope root).cache.lookup callSite.site.key := if_pos top.hosts.listed.2
  rw [← entry]
  by_contra listed
  obtain ⟨engine, key, location, owner, entered, same, _⟩ := filed _ listed
  obtain ⟨rfl, keys, rfl⟩ := Frame.beq_iff.1 same
  have kept : location = .scope := by
    rw [regular.location_eq planned registered entered keys, lifetime]
    rfl
  rw [kept] at entered
  exact regular.not_entered top checked lawful key entered

end Rooted

section Sample

/-- Asks the root for the first service in vain, and then a child scope. -/
def insisting (service : TypeInfo) : EngineId → ScopeId → Program Unit := fun id root => do
  let _ ← Program.request (.resolve root (.plain service))
  resolving [service] id root

def guards (world : World) : Bool :=
  (world.engine 0).options.validateScopes && decide (world.shapes[0]? = some (0, none)) &&
    (world.engine 0).memo.entries.all fun entry => match entry.1.service with
      | .generic _ _ _ => false
      | _ => true

theorem lawful_of_guards {world : World} (guarded : world.guards = true) :
    (world.engine 0).options.validateScopes = true ∧ world.IsRootOf 0 0 ∧
      (world.engine 0).memo.Lawful := by
  obtain ⟨options, plain⟩ := Bool.and_eq_true_iff.1 guarded
  obtain ⟨checked, top⟩ := Bool.and_eq_true_iff.1 options
  have root : world.shapes[0]? = some (0, none) := of_decide_eq_true top
  refine ⟨checked, root, fun closed definition arguments slot known => ?_⟩
  obtain ⟨found, recorded⟩ := Option.ne_none_iff_exists'.1 known
  obtain ⟨entry, listed, _⟩ := Option.map_eq_some_iff.1 recorded
  have same := List.find?_some listed
  have strange := List.all_eq_true.1 plain entry (List.mem_of_find?_eq_some listed)
  obtain ⟨⟨service, _⟩, _⟩ := entry
  obtain ⟨services, _⟩ := CacheKey.beq_iff.1 same
  cases service with
  | generic _ _ _ => cases strange
  | plain _ | collection _ => cases services

end Sample

/-- While a provider checks lifetimes, and at any time of any run, no construction that is to be
kept in a scope has begun with the provider's root as its owner, and the root's cache has no entry
under the key of a scoped registration. The container's own types are taken not to be generic. -/
theorem Reachable.scoped_confined {before world : World} (reached : before.Reachable)
    (steps : before.Steps world) {id : EngineId} {root : ScopeId} (top : world.IsRootOf root id)
    (checked : (world.engine id).options.validateScopes = true)
    (lawful : (world.engine id).memo.Lawful) :
    (∀ key, .entered id key .scope root ∉ world.journal) ∧
    ∀ position descriptor service callSite,
      (world.engine id).blueprint.registry.descriptors[position]? = some descriptor →
      descriptor.lifetime = .scoped → world.Plans id position service callSite →
      (world.scope root).cache.lookup callSite.site.key = none := by
  have regular := reached.regular.steps steps
  have filed := reached.filed.steps steps
  refine ⟨regular.not_entered top checked lawful, ?_⟩
  intro position descriptor service callSite registered lifetime planned
  exact regular.lookup_eq_none top checked lawful filed planned registered lifetime

/-- The root is refused a scoped service, which a child scope then makes for itself. -/
theorem scoped_confined_child :
    ∃ world position descriptor service callSite,
      Container.serve 2 (disposing .scoped) { validateScopes := true } [] (insisting kept) {} =
        .ok (some ((), world)) ∧
      World.IsRootOf world 0 0 ∧ (world.engine 0).options.validateScopes = true ∧
      (world.engine 0).memo.Lawful ∧
      (world.engine 0).blueprint.registry.descriptors[position]? = some descriptor ∧
      descriptor.lifetime = .scoped ∧ world.Plans 0 position service callSite ∧
      (world.made (· == ⟨0, callSite.site.key, 1⟩)).length = 1 ∧
      (∀ key, .entered 0 key .scope 0 ∉ world.journal) ∧
      (world.scope 0).cache.lookup callSite.site.key = none := by
  obtain ⟨world, served, shown⟩ := exists_of_served
    (Container.serve 2 (disposing .scoped) { validateScopes := true } [] (insisting kept) {})
    (fun world => shows .scoped 1 1 world && guards world) (by decide +kernel)
  obtain ⟨shown, guarded⟩ := Bool.and_eq_true_iff.1 shown
  have reached := Container.reachable_of_serve (.start []) served
  obtain ⟨position, descriptor, service, callSite, registered, lifetime, _, planned, counted⟩ :=
    exists_of_shows shown reached
  obtain ⟨checked, top, lawful⟩ := lawful_of_guards guarded
  obtain ⟨outside, absent⟩ := reached.scoped_confined .refl top checked lawful
  exact ⟨world, position, descriptor, service, callSite, served, top, checked, lawful, registered,
    lifetime, planned, counted, outside,
    absent position descriptor service callSite registered lifetime planned⟩

end World
end ServiceContainer
