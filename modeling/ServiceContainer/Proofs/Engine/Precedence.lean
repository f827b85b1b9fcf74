import ServiceContainer.Proofs.CallSite.Fresh
import ServiceContainer.Proofs.Execution.Runs

/-! Requests that the engine answers by itself: for the container's own services and for
collections. Their graphs stand in the memo under the keys of the first slot, and so do those of
registrations of these very services. Main statement: whichever graph is made first remains the
answer, so the engine's own one does if no registration could be, or has been, built before it. -/
namespace ServiceContainer

/-- Requests that are not meant to be answered by a registration. -/
inductive ServiceType.Reserved : ServiceType → Prop where
  | own {info : TypeInfo} {own : OwnService} (provides : OwnService.ofId? info.id = some own) :
      Reserved (.plain info)
  | collection (element : ServiceType) : Reserved (.collection element)

theorem Registry.all_congr {registry : Registry} {service other : ServiceType}
    (reserved : service.Reserved) (same : (other == service) = true) :
    registry.all other = registry.all service := by
  have exact := registry.exactFor_congr (ServiceType.canonical_congr same)
  have closed : registry.openFor other = registry.openFor service := by
    cases reserved <;> cases other <;> first | rfl | cases same
  rw [all, all, exact, closed]

namespace Blueprint
open Query
variable {blueprint : Blueprint} {memo later : Memo} {service other : ServiceType}

/-- The engine's own answer to a request that found one memo and left the other: the call site of
its own service, or the collection of what the members have been found to be; a collection only
fails as one of its members does. -/
inductive Decides (blueprint : Blueprint) (memo later : Memo) (service : ServiceType) :
    Except Failure (Option CallSite) → Prop where
  | own {other : ServiceType} {own : OwnService} (same : (other == service) = true)
      (provides : service.own? = some own) :
      Decides blueprint memo later service (.ok (some (ownCallSite other own)))
  | collect {element : ServiceType} {founds : List (Option CallSite)}
      (same : (ServiceType.collection element == service) = true)
      (members : List.Forall₂
        (fun member found => later.Records (.member element member.1 member.2) found)
        (blueprint.registry.all element) founds) :
      Decides blueprint memo later service
        (.ok (some (.collect (collectionSite (.collection element) element)
          (founds.flatMap Option.toList))))
  | fail {element : ServiceType} {position slot fuel : Nat} {between : Memo} {failure : Failure}
      (collection : service = .collection element)
      (listed : (position, slot) ∈ blueprint.registry.all element)
      (bounded : fuel + 1 = blueprint.chainBound service) (grown : memo.Grows between)
      (sound : Memo.Sound blueprint between)
      (failed : (blueprint.buildWithin fuel [⟨service, 0⟩] (.member element position slot)).run
        between = (.error failure, later)) :
      Decides blueprint memo later service (.error failure)

/-- The answer is what a registration of the service itself yields. -/
inductive Displaces (blueprint : Blueprint) (memo : Memo) (service : ServiceType) :
    Except Failure (Option CallSite) → Prop where
  | registered {other : ServiceType} {position : Nat} {found : Option CallSite}
      (same : (other == service) = true) (listed : (position, 0) ∈ blueprint.registry.all other)
      (yields : (blueprint.plan (.member other position 0)).Yields memo.Records (.ok found)) :
      Displaces blueprint memo service (.ok found)

/-- A plan for a single request looks for no registration of a reserved service. -/
theorem decides_of_plan (reserved : service.Reserved) (same : (other == service) = true)
    {found : Option CallSite}
    (yields : (blueprint.plan (.single other)).Yields later.Records (.ok found)) :
    blueprint.Decides memo later service (.ok found) := by
  cases reserved with
  | @own info own provides =>
    cases other with
    | generic closed definition arguments => cases same
    | collection element => cases same
    | plain named =>
      have ids : named.id = info.id := eq_of_beq same
      have provided : (ServiceType.plain named).own? = some own := by
        rw [← provides, ← ids]
        rfl
      simp only [plan, assemble, provided] at yields
      cases Yields.pure_iff.1 yields
      exact .own same provides
  | collection element =>
    cases other with
    | plain info => cases same
    | generic closed definition arguments => cases same
    | collection inner =>
      obtain ⟨collected, made, rfl⟩ := Yields.map_ok_iff.1 yields
      obtain ⟨items, gathered, made⟩ := Yields.bind_ok_iff.1 made
      cases Yields.pure_iff.1 made
      obtain ⟨founds, members, rfl⟩ := forall₂_of_collectMembers gathered
      exact .collect same members

theorem decides_of_sound (sound : Memo.Sound blueprint later) (reserved : service.Reserved)
    {found : Option CallSite} (recorded : later.lookup ⟨service, 0⟩ = some found) :
    blueprint.Decides memo later service (.ok found) ∨
      blueprint.Displaces later service (.ok found) := by
  obtain ⟨target, lists, same, yields⟩ := sound _ _ recorded
  cases target with
  | single other =>
    exact .inl (decides_of_plan reserved (CacheKey.beq_iff.1 same).1 yields)
  | member other position slot =>
    obtain ⟨services, first⟩ := CacheKey.beq_iff.1 same
    have last : slot = 0 := first
    subst last
    exact .inr (.registered services lists yields)

theorem not_displaces (reserved : service.Reserved) (vacant : blueprint.registry.all service = [])
    (result : Except Failure (Option CallSite)) : ¬ blueprint.Displaces memo service result := by
  rintro ⟨same, listed, _⟩
  rw [Registry.all_congr reserved same, vacant] at listed
  cases listed

/-- The first member that fails is the last that is built. -/
theorem exists_failing_member {chain : Chain} {build : Target → Build (Option CallSite)}
    (explores : blueprint.Explores chain build) {element : ServiceType} {members : List (Nat × Nat)}
    (listed : ∀ member ∈ members, member ∈ blueprint.registry.all element)
    (sound : Memo.Sound blueprint memo) {failure : Failure}
    (failed : (collectMembers build element members).run memo = (.error failure, later)) :
    ∃ member ∈ members, ∃ between, memo.Grows between ∧ Memo.Sound blueprint between ∧
      (build (.member element member.1 member.2)).run between = (.error failure, later) := by
  induction members generalizing memo with
  | nil => cases failed
  | cons member rest ih =>
    have lists : blueprint.registry.Lists (.member element member.1 member.2) :=
      listed member List.mem_cons_self
    obtain ⟨found, between, first, failed⟩ | ⟨_, first, ended⟩ := Stateful.run_bind_eq failed
    · obtain ⟨evolved, _⟩ := explores _ lists memo sound _ _ first
      obtain ⟨_, _, _, ended⟩ | ⟨_, others, ended⟩ := Stateful.run_bind_eq failed
      · cases ended
      · cases ended
        have inside := fun other member => listed other (List.mem_cons_of_mem _ member)
        obtain ⟨other, member, last, grown, kept, failed⟩ := ih inside evolved.sound others
        exact ⟨other, List.mem_cons_of_mem _ member, last, evolved.grows.trans grown, kept, failed⟩
    · cases ended
      exact ⟨member, List.mem_cons_self, memo, .refl memo, sound, first⟩

theorem decides_fresh (sound : Memo.Sound blueprint memo) (reserved : service.Reserved)
    (unknown : memo.lookup ⟨service, 0⟩ = none) {result : Except Failure (Option CallSite)}
    (asked : (blueprint.callSite service).run memo = (result, later)) :
    blueprint.Decides memo later service result := by
  obtain ⟨fuel, bounded⟩ := Nat.exists_eq_add_one.2 (blueprint.chainBound_pos service)
  have explores : blueprint.Explores [⟨service, 0⟩] (blueprint.buildWithin fuel [⟨service, 0⟩]) :=
    explores_buildWithin fuel _
  rw [callSite, bounded] at asked
  obtain ⟨between, ended, rfl⟩ := run_of_unknown unknown rfl asked
  have only : (blueprint.plan (.single service)).Only blueprint.registry.Lists :=
    (only_plan _).mono fun _ asked => asked.lists
  obtain ⟨evolved, yields⟩ := explores.run only sound ended
  cases result with
  | ok found =>
    have absent : between.lookup (Target.single service).key = none :=
      (evolved.kept ⟨service, 0⟩ List.mem_cons_self).trans unknown
    have grows : between.Grows (between.insert _ found) := Memo.grows_insert absent
    have recorded := (yields found rfl).mono fun asked answer => grows asked.key answer
    exact decides_of_plan reserved BEq.rfl recorded
  | error failure =>
    rw [run_plan] at ended
    cases reserved with
    | @own info own provides =>
      have provided : (ServiceType.plain info).own? = some own := provides
      simp only [assemble, provided] at ended
      cases ended
    | collection element =>
      have gathering : (blueprint.collectCallSite (blueprint.buildWithin fuel
          [⟨.collection element, 0⟩]) (.collection element) element >>= fun collected =>
            pure (some collected)).run memo = (.error failure, between) := ended
      obtain ⟨_, _, _, last⟩ | ⟨_, collected, same⟩ := Stateful.run_bind_eq gathering
      · cases last
      · cases same
        obtain ⟨_, _, _, last⟩ | ⟨_, gathered, same⟩ := Stateful.run_bind_eq collected
        · cases last
        · cases same
          obtain ⟨_, listed, last, grown, kept, failed⟩ :=
            exists_failing_member explores (fun _ listed => listed) sound gathered
          exact .fail rfl listed bounded.symm grown kept failed

end Blueprint

namespace World
open Blueprint
variable {world : World} {id : EngineId} {service : ServiceType}

section Sample

def scopeType : TypeInfo := ⟨OwnService.scope.id, "Scope"⟩

/-- Registrations of the container's own scope and of a collection, which nothing should reach. -/
def claiming : Blueprint where
  registry := ⟨[⟨.plain scopeType, .scoped, .produced "Claim" fun _ => pure (.error .scopeDisposed)⟩,
    ⟨.collection (.plain scopeType), .scoped,
      .produced "Claims" fun _ => pure (.error .scopeDisposed)⟩]⟩

def asking (world : World) (services : List ServiceType) : World :=
  services.foldl (fun world service =>
    world.withEngine 0 ((Engine.callSite service).run (world.engine 0)).2) world

theorem Reachable.asking (reached : world.Reachable) (services : List ServiceType) :
    (world.asking services).Reachable := by
  induction services generalizing world with
  | nil => exact reached
  | cons service rest ih => exact ih (.graph reached (Run.run_onEngine 0 _ world))

def afterAsking (blueprint : Blueprint) (services : List ServiceType) : World :=
  match Container.build blueprint {} [] {} with
  | .ok (_, _, world) => world.asking services
  | .error _ => {}

theorem reachable_afterAsking (blueprint : Blueprint) (services : List ServiceType) :
    (afterAsking blueprint services).Reachable := by
  unfold afterAsking
  split
  · rename_i built
    exact (Reachable.build (.start []) built).asking _
  · exact .start []

def kindAfter (options : Options) (before : List ServiceType) (service : ServiceType) :
    Option SiteKind := do
  let (_, _, world) ← (Container.build claiming options [] {}).toOption
  let (result, _) ← (Run.onEngine 0 (Engine.callSite service)).run (world.asking before)
  let found ← result.toOption
  found.map (·.kind)

theorem exists_of_kindAfter (options : Options) (before : List ServiceType) {kind : SiteKind}
    (answered : kindAfter options before service = some kind) :
    ∃ world later callSite, Reachable world ∧
      (Run.onEngine 0 (Engine.callSite service)).run world = some (.ok (some callSite), later) ∧
      callSite.kind = kind := by
  unfold kindAfter at answered
  cases built : Container.build claiming options [] {} with
  | error failure =>
    rw [built] at answered
    cases answered
  | ok provider =>
    obtain ⟨_, _, world⟩ := provider
    rw [built] at answered
    have asked := Run.run_onEngine 0 (Engine.callSite service) (world.asking before)
    have reached : (world.asking before).Reachable := (Reachable.build (.start []) built).asking before
    cases ended : (Engine.callSite service).run ((world.asking before).engine 0) with
    | mk result engine =>
      rw [ended] at asked
      simp only [Except.toOption, bind, Option.bind_some, asked] at answered
      cases result with
      | error failure => cases answered
      | ok found =>
        obtain ⟨callSite, rfl, same⟩ := Option.map_eq_some_iff.1 answered
        exact ⟨_, _, callSite, reached, asked, same⟩

end Sample

/-- The engine decides about its own services and about collections, unless a registration of this
very service has been built before; whatever the answer is, it remains. -/
theorem Reachable.reserved_answer (reached : world.Reachable) (provided : id < world.engines.length)
    (reserved : service.Reserved) :
    ∃ result later, (Run.onEngine id (Engine.callSite service)).run world = some (result, later) ∧
      (Decides (world.engine id).blueprint (world.engine id).memo (later.engine id).memo service
          result ∨
        Displaces (world.engine id).blueprint (later.engine id).memo service result) ∧
      ((world.engine id).blueprint.registry.all service = [] ∨
          (world.engine id).memo.lookup ⟨service, 0⟩ = none →
        Decides (world.engine id).blueprint (world.engine id).memo (later.engine id).memo service
          result) ∧
      ∀ found, result = .ok found → ∀ last, later.Steps last →
        (Engine.callSite service).run (last.engine id) = (.ok found, last.engine id) := by
  have sound := reached.wellFormed.engine_sound id
  have listed : world.engines[id]? ≠ none := by simp [provided]
  cases asked : (Engine.callSite service).run (world.engine id) with
  | mk result engine =>
    obtain ⟨⟨kept, grown⟩, recorded⟩ := sound.callSite asked
    have ran := Run.run_onEngine id (Engine.callSite service) world
    rw [asked] at ran
    have left : ((world.withEngine id engine).engine id).memo = engine.memo := by
      rw [engine_withEngine, if_pos ⟨rfl, listed⟩]
    have decided : (world.engine id).memo.lookup ⟨service, 0⟩ = none →
        Decides (world.engine id).blueprint (world.engine id).memo engine.memo service result := by
      intro unknown
      rw [Engine.run_callSite] at asked
      cases built : ((world.engine id).blueprint.callSite service).run (world.engine id).memo with
      | mk outcome memo =>
        rw [Engine.run_onMemo built] at asked
        cases asked
        exact decides_fresh sound.memo reserved unknown built
    have answered : Decides (world.engine id).blueprint (world.engine id).memo engine.memo service
        result ∨ Displaces (world.engine id).blueprint engine.memo service result := by
      cases result with
      | ok found =>
        rw [← grown.blueprint]
        exact decides_of_sound kept.memo reserved (recorded found rfl)
      | error failure =>
        cases known : (world.engine id).memo.lookup ⟨service, 0⟩ with
        | none => exact .inl (decided known)
        | some found =>
          rw [Engine.run_callSite_of_known known] at asked
          cases asked
    refine ⟨result, world.withEngine id engine, ran, left ▸ answered, ?_, ?_⟩
    · rw [left]
      rintro (vacant | unknown)
      · exact answered.resolve_right (not_displaces reserved vacant result)
      · exact decided unknown
    · intro found ended last steps
      refine Engine.run_callSite_of_known (steps.extends.memo id _ _ ?_)
      rw [left]
      exact recorded found ended

/-- Before anything is built, a registration of the container's own scope is of no account. -/
theorem reserved_answer_first :
    ∃ world result later, Container.build claiming {} [] {} = .ok (0, 0, world) ∧
      0 < world.engines.length ∧ (ServiceType.plain scopeType).Reserved ∧
      (world.engine 0).memo.lookup ⟨.plain scopeType, 0⟩ = none ∧
      (Run.onEngine 0 (Engine.callSite (.plain scopeType))).run world = some (result, later) ∧
      Decides (world.engine 0).blueprint (world.engine 0).memo (later.engine 0).memo
        (.plain scopeType) result := by
  obtain ⟨world, built, provided, unknown⟩ : ∃ world,
      Container.build claiming {} [] {} = .ok (0, 0, world) ∧ 0 < world.engines.length ∧
        (world.engine 0).memo.lookup ⟨.plain scopeType, 0⟩ = none :=
    ⟨_, rfl, Nat.one_pos, rfl⟩
  have provides : OwnService.ofId? scopeType.id = some .scope := rfl
  have reserved : (ServiceType.plain scopeType).Reserved := .own provides
  obtain ⟨result, later, asked, _, decided, _⟩ :=
    (Reachable.build (.start []) built).reserved_answer provided reserved
  exact ⟨world, result, later, built, provided, reserved, unknown, asked, decided (.inr unknown)⟩

/-- A registration takes the place of the container's own scope when it is collected first, and of a
collection when it is checked at the build. -/
theorem reserved_displaced :
    (∃ world later callSite, Reachable world ∧
      (Run.onEngine 0 (Engine.callSite (.plain scopeType))).run world =
        some (.ok (some callSite), later) ∧ callSite.kind = .factory) ∧
    ∃ world later callSite, Reachable world ∧
      (Run.onEngine 0 (Engine.callSite (.collection (.plain scopeType)))).run world =
        some (.ok (some callSite), later) ∧ callSite.kind = .factory := by
  constructor
  · exact exists_of_kindAfter {} [.collection (.plain scopeType)] (by decide +kernel)
  · exact exists_of_kindAfter { validateOnBuild := true } [] (by decide +kernel)

end World
end ServiceContainer
