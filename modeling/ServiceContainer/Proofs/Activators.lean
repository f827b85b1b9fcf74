import ServiceContainer.Proofs.Singletons
import ServiceContainer.Resolver

/-! Activators. What is published for a service stays published, and so an activator keeps the graph
that the service had when it was made. Main statement: at any later time, to activate for a scope of
the same provider is to resolve the service for it, and a scope of another provider is refused. -/
namespace ServiceContainer
open Stateful

theorem Engine.Settled.run_realize {host : Host} {engine : Engine} (settled : engine.Settled host)
    {service : ServiceType} {number : Nat} {callSite : CallSite}
    (listed : (engine.realizations.map (·.callSite))[number]? = some callSite)
    (makes : (callSite.site.service == service) = true) :
    (realize service).run engine = (.ok (some number), engine) := by
  have published := settled.published.numbered number callSite listed
  rw [engine.published.lookup_congr makes] at published
  rw [realize, run_get_bind, published]
  rfl

namespace Run
variable {handler : Handler} {world : World} {id : EngineId} {service : ServiceType}
  {realization : Nat} {callSite : CallSite} {scope : ScopeId}

theorem run_map (run : Run α) (f : α → β) (world : World) :
    (f <$> run).run world = (run.run world).map fun ended => (ended.1.map f, ended.2) := by
  rw [map_eq_pure_bind]
  change (run.run world).bind _ = _
  cases run.run world with
  | none => rfl
  | some ended =>
    obtain ⟨result, later⟩ := ended
    cases result <;> rfl

theorem activator_eq_some {activator : Activator} {later : World}
    (made : (Run.activator id service).run world = some (.ok (some activator), later)) :
    activator.engine = id ∧ (onEngine id (Engine.realize service)).run world =
      some (.ok (some activator.realization), later) := by
  obtain ⟨realized, between, asked, rest⟩ | ⟨_, _, failed⟩ := bind_eq_some made
  · obtain ⟨found, rfl⟩ := Prod.mk.inj (Option.some.inj rest)
    obtain ⟨_, rfl, rfl⟩ := Option.map_eq_some_iff.1 (Except.ok.inj found)
    exact ⟨rfl, asked⟩
  · cases failed

theorem run_resolve_again {host : Host} (settled : (world.engine id).Settled host)
    (graph : world.graph? id realization = some callSite)
    (makes : (callSite.site.service == service) = true) (mine : (world.scope scope).engine = id) :
    (resolve handler scope service).run world =
      (some <$> activate handler ⟨id, realization⟩ scope).run world := by
  have listed : ((world.engine id).realizations.map (·.callSite))[realization]? = some callSite := by
    rw [List.getElem?_map]
    exact graph
  have asked : (onEngine id (Engine.realize service)).run world =
      some (.ok (some realization), world) := by
    rw [run_onEngine, settled.run_realize listed makes, World.withEngine_same settled.sent]
  rw [run_map_congr (run_activate_mine mine) some]
  by_cases opened : (world.scope scope).state = .open
  · exact run_resolve_realized asked opened mine
  · have closed : (ensureOpen scope).run world = some (.error .scopeDisposed, world) := by
      rw [run_ensureOpen, if_neg opened]
    have refused : (invoke handler id realization scope).run world =
        some (.error .scopeDisposed, world) := run_bind_error closed
    rw [run_map, refused]
    exact run_bind_error closed

theorem run_activate_foreign (graph : world.graph? id realization = some callSite)
    (foreign : (world.scope scope).engine ≠ id) :
    (activate handler ⟨id, realization⟩ scope).run world =
      some (.error (.activation callSite.site.service.name
        "scope belongs to a different provider"), world) := by
  have named : activatorName world ⟨id, realization⟩ = callSite.site.service.name := by
    rw [activatorName, graph]
    rfl
  rw [activate, run_look, named]
  exact run_bind_error (by rw [run_checkEngine, if_neg foreign])

end Run

namespace Resolver

/-- What a typed activator gives: the activated value, if it is as the check says. -/
def activateAs (activator : Activator) (scope : ScopeId) (check : Value → Except Failure Value) :
    Asking Value := do
  lift (check (← activate activator scope))

def tryTake (scope : ScopeId) (service : ServiceType) (check : Value → Except Failure Value) :
    Asking (Option Value) := do
  match ← resolveAny scope service with
  | some value => some <$> lift (check value)
  | none => pure none

end Resolver

namespace Container
variable {fuel : Nat} {scope : ScopeId}

theorem run_activateAs (activator : Activator) (check : Value → Except Failure Value)
    (world : World) : run fuel (Resolver.activateAs activator scope check).run world =
      (perform fuel (.activate activator scope) world).map fun ended =>
        (ended.1.bind check, ended.2) := by
  change (perform fuel (.activate activator scope) world).bind _ = _
  cases perform fuel (.activate activator scope) world with
  | none => rfl
  | some ended =>
    obtain ⟨result, later⟩ := ended
    cases result <;> rfl

theorem run_required (service : ServiceType) (name : String) (check : Value → Except Failure Value)
    (world : World) : run fuel (do
      Resolver.lift (Resolver.required name (← Resolver.tryTake scope service check)) :
        Asking Value).run world =
      (perform fuel (.resolve scope service) world).map fun ended =>
        (ended.1.bind fun found => found.elim (.error (.notFound name)) check, ended.2) := by
  change (perform fuel (.resolve scope service) world).bind _ = _
  cases perform fuel (.resolve scope service) world with
  | none => rfl
  | some ended =>
    obtain ⟨result, later⟩ := ended
    cases result with
    | error failure => rfl
    | ok found =>
      cases found with
      | none => rfl
      | some value =>
        change run fuel (do
          Resolver.lift (Resolver.required name (← some <$> Resolver.lift (check value))) :
            Asking Value).run later = some (check value, later)
        cases check value <;> rfl

theorem run_get (type : TypeInfo) (world : World) : run fuel (Resolver.get scope type).run world =
    (perform fuel (.resolve scope (.plain type)) world).map fun ended =>
      (ended.1.bind fun found => found.elim (.error (.notFound type.name)) (·.as type), ended.2) :=
  run_required (.plain type) type.name (·.as type) world

theorem run_getInterface (interface : TypeInfo) (world : World) :
    run fuel (Resolver.getInterface scope interface).run world =
      (perform fuel (.resolve scope (.plain interface)) world).map fun ended =>
        (ended.1.bind fun found =>
          found.elim (.error (.notFound interface.name)) (·.asInterface interface), ended.2) :=
  run_required (.plain interface) interface.name (·.asInterface interface) world

/-- If a request for the service is answered like an activation, typed requests for it are, too. -/
theorem run_eq_activateAs {activator : Activator} {service : ServiceType} {world : World}
    (same : perform fuel (.resolve scope service) world =
      (perform fuel (.activate activator scope) world).map fun ended => (ended.1.map some, ended.2))
    (check : Value → Except Failure Value) (name : String) :
    ((perform fuel (.resolve scope service) world).map fun ended =>
      (ended.1.bind fun found => found.elim (.error (.notFound name)) check, ended.2)) =
        run fuel (Resolver.activateAs activator scope check).run world := by
  rw [run_activateAs, same, Option.map_map]
  congr 1
  funext ended
  obtain ⟨result, later⟩ := ended
  cases result <;> rfl

end Container

namespace World
variable {before start created : World} {id : EngineId} {service : ServiceType}
  {activator : Activator}

theorem move_of_activator (formed : start.WellFormed)
    (made : (Run.activator id service).run start = some (.ok (some activator), created)) :
    start.Move created :=
  (move_of_asked formed (Run.activator_eq_some made).2).1

section Sample

/-- An activator is made, then a scope disposes of itself while it resolves the service, and another
provider is built. -/
def revisits (start : World) : Bool :=
  decide (0 < start.engines.length) &&
  match (Run.activator 0 (.plain user)).run start with
  | some (.ok (some _), created) =>
    match Container.run 3 (resolving [user] 0 0) created with
    | some (_, between) =>
      match Container.build settling {} [] between with
      | .ok (_, root, last) =>
        decide ((last.scope 1).engine = 0) && decide ((last.scope 2).engine = 0) &&
          decide ((last.scope 2).state = .disposed) && decide ((last.scope root).engine ≠ 0)
      | .error _ => false
    | none => false
  | _ => false

end Sample

/-- Whenever an activator of a service is made, it keeps a graph of that service. At any later time, to
activate for a scope of the provider is to resolve the service for it: user code does the same, the
reply is the same value or the same failure, and so is the world after it with all that happened. So it
is for typed requests. A scope of another provider is refused, and nothing changes. -/
theorem Reachable.activator_resolves (reached : before.Reachable) (moves : before.Moves start)
    (provided : id < before.engines.length)
    (made : (Run.activator id service).run start = some (.ok (some activator), created)) :
    activator.engine = id ∧ ∃ callSite, (callSite.site.service == service) = true ∧
      ∀ world, created.Moves world →
        world.graph? id activator.realization = some callSite ∧
        (∀ scope, (world.scope scope).engine = id →
          (∀ handler, Container.respond handler (.resolve scope service) world =
            (Container.respond handler (.activate activator scope) world).map fun ended =>
              (ended.1.map some, ended.2)) ∧
          ∀ fuel type, service = .plain type →
            Container.run fuel (Resolver.get scope type).run world =
              Container.run fuel (Resolver.activateAs activator scope (·.as type)).run world ∧
            Container.run fuel (Resolver.getInterface scope type).run world =
              Container.run fuel
                (Resolver.activateAs activator scope (·.asInterface type)).run world) ∧
        ∀ scope, (world.scope scope).engine ≠ id → ∀ handler,
          Container.respond handler (.activate activator scope) world =
            some (.error (.activation callSite.site.service.name
              "scope belongs to a different provider"), world) := by
  obtain ⟨host⟩ : Nonempty Host := ⟨fun _ => "", fun _ => none, fun _ => rfl⟩
  have formed := moves.steps.wellFormed reached.wellFormed
  obtain ⟨rfl, asked⟩ := Run.activator_eq_some made
  obtain ⟨callSite, graph, known⟩ :=
    Run.graph_of_realize formed (moves.extends.options _ provided).1 asked
  have move := move_of_activator formed made
  have makes := ((move.steps.wellFormed formed).engine_sound _).memo.makes known
  refine ⟨rfl, callSite, makes, fun world later => ?_⟩
  have settled : (world.engine activator.engine).Settled host :=
    reached.settled ((moves.tail move).trans later) provided
  have kept := later.extends.graph? graph
  have resolves : ∀ scope, (world.scope scope).engine = activator.engine → ∀ handler,
      Container.respond handler (.resolve scope service) world =
        (Container.respond handler (.activate activator scope) world).map fun ended =>
          (ended.1.map some, ended.2) := fun scope mine handler =>
    (Run.run_resolve_again settled kept makes mine).trans (Run.run_map ..)
  refine ⟨kept, fun scope mine => ⟨resolves scope mine, fun fuel type plain => ?_⟩,
    fun scope foreign handler => Run.run_activate_foreign kept foreign⟩
  subst plain
  have same : Container.perform fuel (.resolve scope (.plain type)) world =
      (Container.perform fuel (.activate activator scope) world).map fun ended =>
        (ended.1.map some, ended.2) := by
    cases fuel with
    | zero => rfl
    | succ fuel => exact resolves scope mine (Container.perform fuel)
  rw [Container.run_get, Container.run_getInterface]
  exact ⟨Container.run_eq_activateAs same _ _, Container.run_eq_activateAs same _ _⟩

/-- The activator resolves for an older scope, and for one that has been disposed since, like any
request, but not for the other provider's root. -/
theorem activator_resolves_later :
    ∃ (start created between last : World) (activator : Activator) (other : EngineId) (root : ScopeId)
      (name : String),
      Container.serve 2 (disposing .scoped) {} [] (resolving []) {} = .ok (some ((), start)) ∧
      (Run.activator 0 (.plain user)).run start = some (.ok (some activator), created) ∧
      Container.run 3 (resolving [user] 0 0) created = some ((), between) ∧
      Container.build settling {} [] between = .ok (other, root, last) ∧
      (last.scope 2).state = .disposed ∧
      Container.run 3 (Resolver.get 1 user).run last =
        Container.run 3 (Resolver.activateAs activator 1 (·.as user)).run last ∧
      Container.run 3 (Resolver.get 2 user).run last =
        Container.run 3 (Resolver.activateAs activator 2 (·.as user)).run last ∧
      Container.perform 1 (.activate activator root) last =
        some (.error (.activation name "scope belongs to a different provider"), last) := by
  obtain ⟨start, served, shown⟩ := exists_of_served
    (Container.serve 2 (disposing .scoped) {} [] (resolving []) {}) revisits (by decide +kernel)
  have reached := Container.reachable_of_serve (.start []) served
  obtain ⟨provided, shown⟩ := Bool.and_eq_true_iff.1 shown
  split at shown
  · rename_i activator created made
    split at shown
    · rename_i between ran
      split at shown
      · rename_i other root last built
        obtain ⟨shown, foreign⟩ := Bool.and_eq_true_iff.1 shown
        obtain ⟨shown, closed⟩ := Bool.and_eq_true_iff.1 shown
        obtain ⟨mine, also⟩ := Bool.and_eq_true_iff.1 shown
        obtain ⟨_, callSite, _, resolves⟩ :=
          reached.activator_resolves .refl (of_decide_eq_true provided) made
        have formed : created.WellFormed :=
          (move_of_activator reached.wellFormed made).steps.wellFormed reached.wellFormed
        have moves := (Container.leads_run 3 _ created formed _ _ ran).moves.tail
          (move_of_build built).1
        obtain ⟨_, same, refused⟩ := resolves last moves
        refine ⟨start, created, between, last, activator, other, root, callSite.site.service.name,
          served, made, ran, built, of_decide_eq_true closed, ?_, ?_, ?_⟩
        · exact ((same 1 (of_decide_eq_true mine)).2 3 user rfl).1
        · exact ((same 2 (of_decide_eq_true also)).2 3 user rfl).1
        · exact refused root (of_decide_eq_true foreign) (Container.perform 0)
      · cases shown
    · cases shown
  · cases shown

end World
end ServiceContainer
