import ServiceContainer.Proofs.Typing.Requests

/-! Type soundness. Main statement: wherever typed registrations and typed clients lead, every value is
of the service that it is kept, made or asked for, and no failure is one of types. -/
namespace ServiceContainer
namespace World

section Hosted
variable [Interfaces] {world later : World}

/-- The worlds that providers with typed registrations, typed clients of them, and questions about
their graphs lead to. -/
inductive Arises : World → Prop where
  | start (metrics : List Metrics) : Arises { metrics }
  | build {world later : World} {blueprint : Blueprint} {options : Options}
      {observers : List Observer} {id : EngineId} {root : ScopeId} (arisen : Arises world)
      (typed : blueprint.Typed world.known)
      (built : Container.build blueprint options observers world = .ok (id, root, later)) :
      Arises later
  | run {α : Type} {world later : World} {fuel : Nat} {program : Program α} {result : α}
      (arisen : Arises world) (typed : program.Typed (fun _ _ => True) world.known)
      (ran : Container.run fuel program world = some (result, later)) : Arises later
  | graph {world later : World} {id : EngineId} {service : ServiceType}
      {result : Except Failure (Option CallSite)} (arisen : Arises world)
      (asked : (Run.onEngine id (Engine.callSite service)).run world = some (result, later)) :
      Arises later

theorem Typed.build (typed : world.Typed) {blueprint : Blueprint} {options : Options}
    {observers : List Observer} {id : EngineId} {root : ScopeId}
    (well : blueprint.Typed world.known)
    (built : Container.build blueprint options observers world = .ok (id, root, later)) :
    world.Develops later := by
  obtain ⟨engine, made, rfl⟩ := Container.exists_of_build built
  obtain ⟨sound, grown⟩ := Engine.sound_of_build made
  have same : engine.blueprint = blueprint := grown.blueprint
  have provided := typed.addEngine sound (same ▸ well)
  exact provided.trans (provided.1.addScope (by simp) none)

theorem Typed.graph (typed : world.Typed) {id : EngineId} {service : ServiceType}
    {result : Except Failure (Option CallSite)}
    (asked : (Run.onEngine id (Engine.callSite service)).run world = some (result, later)) :
    world.Develops later := by
  have gives : Engine.Gives (fun _ _ => True) (world.engine id) (Engine.callSite service) := by
    intro result engine ran
    refine ⟨((typed.engine_sound id).callSite ran).1, ?_⟩
    cases result with
    | ok _ => trivial
    | error failure => exact Engine.candid_callSite service _ failure engine ran
  exact (Run.delivers_onEngine typed id gives result later asked).2.1

theorem Arises.typed (arisen : world.Arises) : world.Typed := by
  induction arisen with
  | start metrics => exact typed_start metrics
  | build _ well built typed => exact (typed.build well built).1
  | run _ well ran typed => exact (Container.run_typed typed lasting_true well _ _ ran).2.1.1
  | graph _ asked typed => exact (typed.graph asked).1

open Resolver in
/-- Every value that the world keeps or gives is of the service that it is kept or asked for, and no
failure is of a wrong type or an argument that was not declared. -/
structure TypeSound (world : World) : Prop where
  builds : ∀ blueprint options observers failure,
    Container.build blueprint options observers world = .error failure → failure.Honest
  cached : ∀ scope key value, (world.scope scope).cache.lookup key = some (some value) →
    value.Fits key.service
  journal : ∀ event ∈ world.journal, event.Typed
  graphs : ∀ id key callSite, (world.engine id).memo.lookup key = some (some callSite) →
    (callSite.site.service == key.service) = true ∧ callSite.Typed world.known
  /-- Any part of a typed graph makes what it is for. -/
  makes : ∀ callSite : CallSite, callSite.Typed world.known → ∀ fuel scope result last,
    (Run.interpret (Container.perform fuel) callSite scope).run world = some (result, last) →
      Honestly (·.Fits callSite.site.service) result
  /-- Proper requests get the replies that are expected, and so do all that are nested in them. -/
  replies : ∀ fuel (request : Request) reply last, request.Proper world.known →
    Container.perform fuel request world = some (reply, last) →
      request.Expects world.known reply ∧ Container.strict fuel request world = some (reply, last)
  /-- So do all requests of typed programs. -/
  runs : ∀ {α : Type} (good : Known → α → Prop) (program : Program α), Lasting good →
    program.Typed good world.known → ∀ fuel result last,
      Container.run fuel program world = some (result, last) →
        good last.known result ∧ program.exec (Container.strict fuel) world = some (result, last)
  gets : ∀ wanted : Script.Wanted, wanted.Suits → ∀ fuel scope result last,
    Container.run fuel (wanted.get scope).run world = some (result, last) ∨
      Container.run fuel (wanted.tryGet scope).run world = some (result, last) →
    Honestly (fun found => ∀ value ∈ found, value.Fits wanted.service) result
  activates : ∀ fuel service origin scope result last,
    Container.run fuel (do
      match ← activator origin service with
      | some made => some <$> activate made scope
      | none => pure none : Asking (Option Value)).run world = some (result, last) →
    Honestly (fun found => ∀ value ∈ found, value.Fits service) result
  creates : ∀ fuel scope (type : TypeInfo) arguments result last,
    (∀ argument ∈ arguments, argument.value.Fits argument.service) →
    Container.run fuel (createInstance scope type arguments).run world = some (result, last) →
    Honestly (·.typeId = some type.id) result

theorem Typed.asked (typed : world.Typed) {good : Known → α → Prop} (lasting : Lasting good)
    {asking : Asking α} (well : Asking.Typed good world.known asking) {fuel : Nat}
    {result : Except Failure α}
    (ran : Container.run fuel asking.run world = some (result, later)) :
    Honestly (good later.known) result :=
  (Container.run_typed typed lasting.honestly well result later ran).2.2

/-- Typed registrations and typed clients only lead to worlds that are sound. -/
theorem Arises.type_sound (arisen : world.Arises) : world.TypeSound where
  builds blueprint options observers failure failed := by
    unfold Container.build at failed
    cases made : Engine.build blueprint options observers with
    | ok engine =>
      rw [made] at failed
      cases failed
    | error cause =>
      rw [made] at failed
      cases failed
      exact Engine.honest_of_build made
  cached scope key value held := (arisen.typed.scopes scope).cached key value held
  journal := arisen.typed.journal
  graphs id key callSite recorded :=
    have sound := (arisen.typed.engine_sound id).memo
    ⟨sound.makes recorded,
      sound.typed_of_supplied (arisen.typed.blueprint id) callSite (.inl ⟨key, recorded⟩)⟩
  makes callSite well fuel scope result last ran :=
    (Run.delivers_interpret (Container.serves_perform fuel) callSite scope world arisen.typed well
      result last ran).2.2
  replies fuel request reply last proper answered := by
    obtain ⟨same, developed, expected, _⟩ :=
      Container.serves_perform fuel request world arisen.typed proper reply last answered
    exact ⟨expected.anti developed.2, same⟩
  runs good program lasting well fuel result last ran := by
    obtain ⟨same, _, holds⟩ := Container.run_typed arisen.typed lasting well result last ran
    exact ⟨holds, same⟩
  gets wanted suits fuel scope result last ran := by
    have lasting : Lasting fun _ (found : Option Value) =>
        ∀ value ∈ found, value.Fits wanted.service := fun _ _ _ _ fits => fits
    obtain ran | ran := ran
    · exact arisen.typed.asked lasting (get_typed scope suits) ran
    · exact arisen.typed.asked lasting (optional_typed scope suits) ran
  activates fuel service origin scope result last ran := by
    have lasting : Lasting fun _ (found : Option Value) => ∀ value ∈ found, value.Fits service :=
      fun _ _ _ _ fits => fits
    refine arisen.typed.asked lasting ?_ ran
    refine Asking.bind_typed (activator_typed origin service) fun more found _ knows => ?_
    cases found with
    | none => exact Asking.pure_typed (by simp)
    | some made =>
      dsimp only
      rw [← bind_pure_comp]
      refine Asking.bind_typed (activate_typed scope (knows made rfl)) fun _ value _ fits => ?_
      exact Asking.pure_typed (by simpa using fits)
  creates fuel scope type arguments result last fits ran :=
    arisen.typed.asked (fun _ _ _ _ made => made) (createInstance_typed scope fits) ran

end Hosted

section Sample

def desk : TypeInfo := ⟨firstFreeTypeId + 3, "Desk"⟩

def shelves : TypeInfo := ⟨firstFreeTypeId + 4, "Shelf<>"⟩

def shelf : TypeInfo := ⟨firstFreeTypeId + 5, "Shelf<Kept>"⟩

@[reducible] def furnishing : Interfaces where
  includes id := id == desk.id
  own service := by cases service <;> rfl

attribute [local instance] furnishing

def staff : List Script.ScriptedConstructor := [
  { made := ⟨kept, "kept"⟩, tag := "k" },
  { made := ⟨shelf, "shelf"⟩, tag := "s"
    parameters := [(.concrete ⟨closer, "closer"⟩, some "spare")] },
  { made := ⟨user, "user"⟩, tag := "u"
    parameters := [
      (.generic shelf shelves [.plain closer], none),
      (.all ⟨listTypeId, "List"⟩ (.interface desk), none),
      (.interface desk, none)] }]

/-- One type is exposed through the desk, and another one closes an open registration. -/
def office : Blueprint where
  registry := ⟨[
    ⟨.plain desk, .scoped, .constructed kept (some ⟨kept, desk⟩)⟩,
    ⟨.plain shelves, .singleton, .openGeneric shelves⟩,
    ⟨.plain user, .transient, .constructed user none⟩]⟩
  catalog := ⟨staff.map fun scripted => (scripted.made.type.id, [scripted.toConstructor])⟩

theorem typed_office (known : Known) : office.Typed known where
  registry descriptor listed := by
    simp only [office, List.mem_cons, List.not_mem_nil, or_false] at listed
    obtain rfl | rfl | rfl := listed
    · exact .exposed rfl
    · exact .openGeneric
    · exact .constructed
  catalog row listed := by
    obtain ⟨scripted, member, rfl⟩ := List.mem_map.1 listed
    have plain : Interfaces.includes scripted.made.type.id = false ∧ scripted.body = none ∧
        scripted.onDispose = [] ∧ ∀ declared ∈ scripted.parameters, declared.1.Suits := by
      simp only [staff, List.mem_cons, List.not_mem_nil, or_false] at member
      obtain rfl | rfl | rfl := member <;>
        simp [Script.Wanted.Suits, Interfaces.includes, desk, shelf, closer, kept, user,
          firstFreeTypeId]
    refine ⟨plain.1, fun constructor only => ?_⟩
    rw [List.mem_singleton.1 only]
    exact Script.ScriptedConstructor.typed plain.2.1 plain.2.2.1 plain.2.2.2

/-- A user is made in the child scope, of a shelf with a stand-in, of all desks and of the one desk. -/
def employs (world : World) : Bool :=
  match Container.perform 2 (.resolve 1 (.plain user)) world with
  | some (.ok (some _), _) => true
  | _ => false

/-- In the office, a user is made of a shelf from an open registration and of desks. -/
theorem type_sound_office :
    ∃ world last value, Container.serve 2 office {} [] (resolving []) {} =
        .ok (some ((), world)) ∧ world.TypeSound ∧
      Container.perform 2 (.resolve 1 (.plain user)) world = some (.ok (some value), last) ∧
      value.Fits (.plain user) := by
  obtain ⟨world, served, shown⟩ := exists_of_served
    (Container.serve 2 office {} [] (resolving []) {}) employs (by decide +kernel)
  obtain ⟨id, root, between, built, ran⟩ := Container.exists_of_serve served
  have client : (resolving [] id root).Typed (fun _ _ => True) between.known :=
    .ask trivial fun _ _ => .done trivial
  have arisen : world.Arises := ((Arises.start []).build (typed_office _) built).run client ran
  have sound := arisen.type_sound
  unfold employs at shown
  split at shown
  · rename_i value last answered
    obtain ⟨fits, _⟩ := sound.replies 2 (.resolve 1 (.plain user)) _ last trivial answered
    exact ⟨world, last, value, served, sound, answered, fits value rfl⟩
  · cases shown

end Sample

end World
end ServiceContainer
