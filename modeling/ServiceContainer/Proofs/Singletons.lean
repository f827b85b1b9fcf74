import ServiceContainer.Proofs.Invocations

/-! Who asks for a singleton. Main statement: once it is realized, a singleton is resolved in the same
way for every open scope of its provider, and all that it needs is made for the root. -/
namespace ServiceContainer

namespace Run
variable {handler : Handler} {world : World} {id : EngineId} {realization : Nat} {root : ScopeId}
  {callSite : CallSite}

theorem run_supply_closed {kind : SiteKind} {site : Site} {produce : Run Produced}
    (kept : site.location = .root) (closed : (world.scope root).state ≠ .open) :
    (supply handler id kind site root produce).run world = some (.error .scopeDisposed, world) := by
  refine run_bind_error ?_
  unfold provide
  rw [kept]
  exact run_bind_error (by rw [run_ensureOpen, if_neg closed])

theorem run_watched_fail (service : ServiceType) (failure : Failure) : ∃ last,
    (watched id service (executing id realization (throw failure))).run world =
      some (.error failure, last) ∧ world.Notified id last := by
  unfold watched
  rw [run_look]
  split
  · exact ⟨_, run_executing _, .withEngine ..⟩
  · have told := World.Notified.notify id world (.resolving service)
    exact ⟨_, rfl, (told.trans (.withEngine ..)).trans (.notify ..)⟩

theorem run_supplying_root {confined : Bool} (answers : handler.Unfolds confined)
    (sound : world.Sound) (lawful : (world.engine id).Sound)
    (graph : world.graph? id realization = some callSite) (rooted : world.IsRootOf root id) :
    (supplying handler id realization callSite root).run world =
      (watched id callSite.site.service
        (executing id realization (endow handler id root callSite))).run world := by
  refine run_watched_congr fun later engines scopes => ?_
  have known : later.engine id = world.engine id := by rw [World.engine, World.engine, engines]
  have still : (later.withEngine id
      ((Engine.nextPlan realization).run (later.engine id)).2).IsRootOf root id := by
    rw [World.IsRootOf, World.shapes, World.scopes_withEngine, scopes]
    exact rooted
  obtain ⟨realized, listed, rfl⟩ := Option.map_eq_some_iff.1 graph
  rw [run_executing, run_executing]
  have kept : later.Sound := fun id engine listed => sound id engine (engines ▸ listed)
  refine run_supply_root answers lawful.memo (lawful.holds (List.mem_of_getElem? listed))
    (kept.withEngine fun _ => ?_) still
  rw [known]
  exact (lawful.nextPlan realization).1.1

/-- A root that is not open supplies no singleton, and observers are told so. -/
theorem run_supplying_closed (kept : callSite.site.location = .root)
    (closed : (world.scope root).state ≠ .open) : ∃ last, world.Notified id last ∧ ∀ handler,
      (supplying handler id realization callSite root).run world =
        some (.error .scopeDisposed, last) := by
  obtain ⟨last, failed, told⟩ : ∃ last,
      (watched id callSite.site.service
        (executing id realization (throw .scopeDisposed))).run world =
          some (.error .scopeDisposed, last) ∧ world.Notified id last := run_watched_fail ..
  refine ⟨last, told, fun handler => ?_⟩
  refine (run_watched_congr fun later engines scopes => ?_).trans failed
  rw [run_executing, run_executing]
  refine run_supply_closed kept ?_
  rw [World.scope_of_scopes (World.scopes_withEngine ..), World.scope_of_scopes scopes]
  exact closed

end Run

namespace World
variable {world : World}

section Sample

/-- Names for the types of the samples, and for scopes. -/
def household : Host :=
  { Container.office with
    name := fun id => (([kept, closer, user, ⟨OwnService.scope.id, "Scope"⟩].find? (·.id == id)).map
      (·.name)).getD "" }

/-- A scoped service that is the scope it is made for, and a singleton made of that and of its scope. -/
def settling : Blueprint where
  registry := ⟨[
    ⟨.plain kept, .scoped, .produced kept.name fun scope => pure (.ok { value := .scope scope })⟩,
    ⟨.plain user, .singleton, .constructed user none⟩]⟩
  catalog := ⟨[(user.id, [{
    implementation := user.name
    parameters := [⟨.plain kept, none⟩, ⟨.plain ⟨OwnService.scope.id, "Scope"⟩, none⟩]
    activate := fun arguments => pure (.ok { value := .list arguments.values }) }])]⟩

def realizing (service : TypeInfo) (world : World) : Option World :=
  match (Run.onEngine 0 (Engine.realize (.plain service))).run world with
  | some (.ok (some 0), later) => some later
  | _ => none

theorem asked_of_realizing {later : World} {service : TypeInfo}
    (realizes : world.realizing service = some later) :
    (Run.onEngine 0 (Engine.realize (.plain service))).run world =
      some (.ok (some 0), later) := by
  unfold realizing at realizes
  split at realizes
  · rename_i asked
    exact Option.some.inj realizes ▸ asked
  · cases realizes

def settles (world : World) : Bool :=
  decide (0 < world.engines.length) &&
  [0, 1].all (fun scope => decide ((world.scope scope).state = .open) &&
    (world.scope scope).engine == 0) &&
  (world.realizing user).any (fun later =>
    (later.graph? 0 0).any (fun callSite => decide (callSite.site.location = .root)) &&
      (later.engine 0).memo.entries.all fun entry => household.calls entry.1.service) &&
  match Container.perform 2 (.resolve 1 (.plain user)) world with
  | some (.ok (some (.list [.scope 0, .scope 0])), _) => true
  | _ => false

end Sample

/-- A singleton that a provider has realized, or realizes now, is resolved in the same way for all its
open scopes: with the same reply, the same events and the same world after it, whatever user code
does. All that it needs is made for the root, which is what user code is given for it. If the root
is not open, nothing is made. -/
theorem Reachable.singleton_indifferent {before : World} (reached : before.Reachable)
    (moves : before.Moves world) {id : EngineId} (provided : id < before.engines.length)
    {service : ServiceType} {realization : Nat} {later : World}
    (asked : (Run.onEngine id (Engine.realize service)).run world =
      some (.ok (some realization), later))
    {host : Host} (spoken : (later.engine id).memo.Spoken host)
    {callSite : CallSite} (graph : later.graph? id realization = some callSite)
    (kept : callSite.site.location = .root) {a b : ScopeId}
    (opened : (world.scope a).state = .open) (mine : (world.scope a).engine = id)
    (open_ : (world.scope b).state = .open) (also : (world.scope b).engine = id) :
    ∃ root, world.IsRootOf root id ∧ world.rootOf a = root ∧ world.rootOf b = root ∧
      (∀ handler,
        Container.respond handler (.resolve a service) world =
          Container.respond handler (.resolve b service) world ∧
        Container.respond handler (.activate ⟨id, realization⟩ a) later =
          Container.respond handler (.activate ⟨id, realization⟩ b) later) ∧
      (∀ fuel, Container.perform (fuel + 1) (.resolve a service) world =
        (some <$> Run.watched id callSite.site.service (Run.executing id realization
          (Run.endow (Container.perform fuel) id root callSite))).run later) ∧
      ((world.scope root).state ≠ .open → ∃ last, world.Notified id last ∧ ∀ handler,
        Container.respond handler (.resolve a service) world =
          some (.error .scopeDisposed, last)) := by
  have formed := moves.steps.wellFormed reached.wellFormed
  obtain ⟨after, told⟩ := move_of_asked formed asked
  have within := after.steps.wellFormed formed
  have settled : (later.engine id).Settled host := reached.settled (moves.tail after) provided
  have top : world.IsRootOf (world.rootOf a) id :=
    mine ▸ formed.isRootOf_rootOf (.of_state (by simp [opened]))
  have other : world.IsRootOf (world.rootOf b) id :=
    also ▸ formed.isRootOf_rootOf (.of_state (by simp [open_]))
  have same : world.rootOf b = world.rootOf a := formed.alone id _ _ other top
  have still : later.IsRootOf (world.rootOf a) id := after.steps.extends.isRootOf top
  have invokes : ∀ handler scope, (world.scope scope).state = .open →
      (world.scope scope).engine = id → world.rootOf scope = world.rootOf a →
      (Run.invoke handler id realization scope).run later =
        (Run.supplying handler id realization callSite (world.rootOf a)).run later := by
    intro handler scope opened mine rooted
    have found := scope_of_scopes told.scopes scope
    have grants := settled.grants_root spoken (mem_of_graph graph) kept (later.isRoot scope)
    refine Run.run_invoke_owned settled spoken ⟨graph, found ▸ mine, ?_⟩ grants (found ▸ opened)
    rw [ownerFor_of_scopes told.scopes, kept]
    exact rooted
  have resolves : ∀ handler scope, (world.scope scope).state = .open →
      (world.scope scope).engine = id → world.rootOf scope = world.rootOf a →
      Container.respond handler (.resolve scope service) world =
        (some <$> Run.supplying handler id realization callSite (world.rootOf a)).run later :=
    fun handler scope opened mine rooted => (Run.run_resolve_realized asked opened mine).trans
      (Run.run_map_congr (invokes handler scope opened mine rooted) some)
  refine ⟨world.rootOf a, top, rfl, same, fun handler => ⟨?_, ?_⟩, fun fuel => ?_, fun closed => ?_⟩
  · exact (resolves handler a opened mine rfl).trans (resolves handler b open_ also same).symm
  · have found := fun scope => scope_of_scopes told.scopes scope
    have activates : ∀ scope, (world.scope scope).engine = id →
        (Run.activate handler ⟨id, realization⟩ scope).run later =
          (Run.invoke handler id realization scope).run later :=
      fun scope mine => Run.run_activate_mine (found scope ▸ mine)
    have equal := (invokes handler a opened mine rfl).trans (invokes handler b open_ also same).symm
    exact (activates a mine).trans (equal.trans (activates b also).symm)
  · refine (resolves _ a opened mine rfl).trans (Run.run_map_congr ?_ some)
    exact Run.run_supplying_root (Container.unfolds_perform fuel) within.sound settled.sound graph still
  · rw [← scope_of_scopes told.scopes] at closed
    obtain ⟨last, heard, failed⟩ := Run.run_supplying_closed kept closed
    refine ⟨last, told.trans heard, fun handler => (resolves handler a opened mine rfl).trans ?_⟩
    rw [map_eq_pure_bind]
    exact Run.run_bind_error (failed handler)

/-- Though a child scope asks, the scoped part of the singleton is made for the root, which is also the
scope that the singleton gets. -/
theorem singleton_indifferent_settling :
    ∃ (world last : World), Container.serve 2 settling {} [] (resolving []) {} =
        .ok (some ((), world)) ∧
      Container.perform 2 (.resolve 1 (.plain user)) world =
        some (.ok (some (.list [.scope 0, .scope 0])), last) ∧
      Container.perform 2 (.resolve 0 (.plain user)) world =
        some (.ok (some (.list [.scope 0, .scope 0])), last) := by
  obtain ⟨world, served, shown⟩ := exists_of_served
    (Container.serve 2 settling {} [] (resolving []) {}) settles (by decide +kernel)
  obtain ⟨shown, resolved⟩ := Bool.and_eq_true_iff.1 shown
  obtain ⟨shown, realized⟩ := Bool.and_eq_true_iff.1 shown
  obtain ⟨provided, scopes⟩ := Bool.and_eq_true_iff.1 shown
  have reached := Container.reachable_of_serve (.start []) served
  obtain ⟨later, realizes, shown⟩ := (Option.any_eq_true ..).1 realized
  obtain ⟨located, called⟩ := Bool.and_eq_true_iff.1 shown
  obtain ⟨callSite, graph, kept⟩ := (Option.any_eq_true ..).1 located
  have openly : ∀ scope ∈ [0, 1],
      (world.scope scope).state = .open ∧ (world.scope scope).engine = 0 := fun scope listed =>
    have shown := Bool.and_eq_true_iff.1 (List.all_eq_true.1 scopes scope listed)
    ⟨of_decide_eq_true shown.1, eq_of_beq shown.2⟩
  obtain ⟨open_, also⟩ := openly 0 (by simp)
  obtain ⟨opened, mine⟩ := openly 1 (by simp)
  obtain ⟨_, _, _, _, same, _⟩ := reached.singleton_indifferent .refl (of_decide_eq_true provided)
    (asked_of_realizing realizes) (Memo.spoken_of_calls called) graph (of_decide_eq_true kept)
    opened mine open_ also
  split at resolved
  · rename_i last performed
    exact ⟨world, last, served, performed, (same _).1.symm.trans performed⟩
  · cases resolved

end World
end ServiceContainer
