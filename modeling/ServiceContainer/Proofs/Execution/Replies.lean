import ServiceContainer.Proofs.Execution.Runs

/-! Replies. Main statement: an instance with which a request for a service or an activation replies
is one that was handed out for the graph of the service. -/
namespace ServiceContainer
namespace Run
variable {handler : Handler} {world last : World} {scope : ScopeId} {value : Value}

theorem obtained_of_deliver {kind : SiteKind} {site : Site} {produce : ScopeId → Run Produced}
    (constructs : kind.constructs = true)
    (h : (deliver handler kind site scope produce).run world = some (.ok value, last)) :
    .obtained (world.scope scope).engine site.key (world.ownerFor site.location scope) value ∈
      last.journal := by
  have delivered : (do
      let value ← provide handler (world.scope scope).engine kind site
        (world.ownerFor site.location scope) (produce (world.ownerFor site.location scope))
      if kind.constructs then
        record (.obtained (world.scope scope).engine site.key (world.ownerFor site.location scope)
          value)
      pure value : Run Value).run world = some (.ok value, last) := h
  obtain ⟨provided, later, _, rest⟩ | ⟨failure, _, failed⟩ := bind_eq_some delivered
  · simp only [constructs, if_true] at rest
    cases rest
    exact List.mem_cons_self
  · cases failed

theorem obtained_of_interpret {callSite : CallSite} (constructs : callSite.kind.constructs = true)
    (h : (interpret handler callSite scope).run world = some (.ok value, last)) :
    .obtained (world.scope scope).engine callSite.site.key
      (world.ownerFor callSite.site.location scope) value ∈ last.journal := by
  rw [interpret_eq] at h
  exact obtained_of_deliver constructs h

/-- Between notices to the observers, the graph is interpreted for the scope, with the value. -/
inductive Interprets (handler : Handler) (engine : EngineId) (scope : ScopeId) (callSite : CallSite)
    (value : Value) (world last : World) : Prop where
  | intro {start finish : World} (before : world.Notified engine start)
      (reached : world.Reaches start) (offered : start.Offers scope callSite)
      (ran : (interpret handler callSite scope).run start = some (.ok value, finish))
      (after : finish.Notified engine last) (ended : finish.Reaches last)

theorem Interprets.reaches (answers : ∀ request, Leads (handler request))
    (formed : world.WellFormed) {engine : EngineId} {callSite : CallSite}
    (interprets : Interprets handler engine scope callSite value world last) :
    world.Reaches last := by
  obtain ⟨_, reached, offered, ran, _, ended⟩ := interprets
  have within := reached.wellFormed formed
  exact (reached.trans (reaches_interpret answers callSite scope _ within offered _ _ ran)).trans ended

theorem Interprets.obtained {engine : EngineId} {callSite : CallSite}
    (interprets : Interprets handler engine scope callSite value world last)
    (mine : (world.scope scope).engine = engine) (constructs : callSite.kind.constructs = true) :
    .obtained engine callSite.site.key (world.ownerFor callSite.site.location scope) value ∈
      last.journal := by
  obtain ⟨before, _, _, ran, after, _⟩ := interprets
  have obtained := obtained_of_interpret constructs ran
  rw [World.scope_of_scopes before.scopes, mine, World.ownerFor_of_scopes before.scopes] at obtained
  exact after.suffix.subset obtained

theorem notified_of_onEngine {engine : EngineId} {action : EngineAction α}
    {result : Except Failure α} (asked : (onEngine engine action).run world = some (result, last)) :
    world.Notified engine last := by
  obtain ⟨_, rfl⟩ := Prod.mk.inj (Option.some.inj ((run_onEngine ..).symm.trans asked))
  exact .withEngine ..

/-- Who asks an engine for something gets what the engine returns, and the engine is as it leaves
itself, with all notices sent. -/
theorem engine_of_onEngine {id : EngineId} (provided : id < world.engines.length)
    {action : EngineAction α} {result : Except Failure α}
    (asked : (onEngine id action).run world = some (result, last)) :
    result = (action.run (world.engine id)).1 ∧
      last.engine id = { (action.run (world.engine id)).2 with outbox := [] } := by
  have listed : world.engines[id]? ≠ none := by simp [provided]
  rw [run_onEngine] at asked
  cases asked
  exact ⟨rfl, by rw [World.engine_withEngine, if_pos ⟨rfl, listed⟩]⟩

theorem interprets_of_execution (formed : world.WellFormed) {engine : EngineId}
    (hosted : world.Hosts scope engine) {realization : Nat} {callSite : CallSite}
    (graph : world.graph? engine realization = some callSite)
    (clear : world.Clear engine scope callSite)
    (h : (execution handler engine realization scope).run world = some (.ok value, last)) :
    Interprets handler engine scope callSite value world last := by
  rw [run_execution] at h
  have steady := formed.engine_sound engine
  obtain ⟨⟨sound, grown⟩, follows⟩ := steady.nextPlan realization
  have planned := world.reaches_withEngine engine sound grown (.plan realization)
  have told := World.Notified.withEngine world engine
    ((Engine.nextPlan realization).run (world.engine engine)).2
  have offered := planned.extends.offers formed.toHoused
    ⟨engine, hosted, (formed.graph graph).1, clear⟩
  dsimp only at h
  generalize world.withEngine engine
    ((Engine.nextPlan realization).run (world.engine engine)).2 = later at h planned told offered
  cases chosen : ((Engine.nextPlan realization).run (world.engine engine)).1 with
  | none =>
    rw [chosen] at h
    cases h
  | some plan =>
    rw [chosen] at h
    obtain ⟨realized, listed, following⟩ := follows plan chosen
    have held := steady.holds (List.mem_of_getElem? listed)
    have same : realized.callSite = callSite := by
      rw [World.graph?, listed] at graph
      exact Option.some.inj graph
    dsimp only at h
    rw [follow_eq steady.memo held following, same] at h
    exact ⟨told, planned, offered, h, .refl last engine, .refl last⟩

theorem run_observed (engine : EngineId) (service : ServiceType) (run : Run Value)
    (world : World) : (observed engine service run).run world =
      (run.run (World.notify engine world (.resolving service))).map fun ended =>
        (ended.1, World.notify engine ended.2 (match ended.1 with
          | .ok _ => .resolved service 0
          | .error failure => .failed service failure)) := by
  change (run.run (World.notify engine world (.resolving service))).bind _ = _
  cases run.run (World.notify engine world (.resolving service)) with
  | none => rfl
  | some ended =>
    obtain ⟨result, later⟩ := ended
    cases result <;> rfl

/-- An invocation interprets the graph of its realization, which has passed the check for the
scope. -/
theorem interprets_of_invoke (formed : world.WellFormed) {engine : EngineId}
    (mine : (world.scope scope).engine = engine) {realization : Nat}
    (h : (invoke handler engine realization scope).run world = some (.ok value, last)) :
    ∃ callSite, world.graph? engine realization = some callSite ∧
      ((Engine.validateResolution callSite (world.isRoot scope)).run (world.engine engine)).1 =
        .ok () ∧
      Interprets handler engine scope callSite value world last := by
  obtain ⟨_, later, checked, rest⟩ | ⟨_, _, failed⟩ := bind_eq_some h
  · obtain ⟨rfl, opened⟩ := ensureOpen_eq_some checked
    have hosted : later.Hosts scope engine := mine ▸ .of_state (by simp [opened])
    rw [run_look] at rest
    cases graph : later.graph? engine realization with
    | none =>
      rw [graph] at rest
      cases rest
    | some callSite =>
      rw [graph] at rest
      obtain ⟨_, ready, validated, h⟩ | ⟨_, _, failed⟩ := bind_eq_some rest
      · obtain ⟨reached, clear⟩ := reaches_validateResolution formed graph validated
        have clear := reached.extends.clear formed.toHoused hosted (clear rfl)
        have formed := reached.wellFormed formed
        have hosted := reached.extends.hosts hosted
        have grown := reached.extends.graph? graph
        have told := notified_of_onEngine validated
        have passed := congrArg Prod.fst (Option.some.inj ((run_onEngine ..).symm.trans validated))
        refine ⟨callSite, rfl, passed, ?_⟩
        split at h
        · obtain ⟨before, further, offered, ran, after, ended⟩ :=
            interprets_of_execution formed hosted grown clear h
          exact ⟨told.trans before, reached.trans further, offered, ran, after, ended⟩
        · rw [run_observed] at h
          obtain ⟨⟨_, between⟩, ran, same⟩ := Option.map_eq_some_iff.1 h
          cases same
          have heard := ready.reaches_notify engine (.resolving callSite.site.service)
          have clear := heard.extends.clear formed.toHoused hosted clear
          obtain ⟨before, further, offered, ran, after, ended⟩ :=
            interprets_of_execution (heard.wellFormed formed) (heard.extends.hosts hosted)
              (heard.extends.graph? grown) clear ran
          exact ⟨(told.trans (.notify ..)).trans before, (reached.trans heard).trans further,
            offered, ran, after.trans (.notify ..),
            ended.trans (between.reaches_notify engine (.resolved callSite.site.service 0))⟩
      · cases failed
  · cases failed

/-- A realization that a service gets is of the graph that the service has from then on. -/
theorem graph_of_realize (formed : world.WellFormed) {engine : EngineId}
    (provided : engine < world.engines.length) {service : ServiceType} {realization : Nat}
    (h : (onEngine engine (Engine.realize service)).run world = some (.ok (some realization), last)) :
    ∃ callSite, last.graph? engine realization = some callSite ∧
      (last.engine engine).memo.lookup ⟨service, 0⟩ = some (some callSite) := by
  obtain ⟨realized, after⟩ := engine_of_onEngine provided h
  obtain ⟨⟨sound, _⟩, published⟩ := (formed.engine_sound engine).realize rfl
  obtain ⟨found, place, known⟩ := sound.provided service realization (published _ realized.symm)
  refine ⟨found.callSite, ?_, ?_⟩
  · rw [World.graph?, after]
    exact Option.map_eq_some_iff.2 ⟨found, place, rfl⟩
  · rw [after]
    exact known

theorem interprets_of_resolve (formed : world.WellFormed) {service : ServiceType}
    (h : (resolve handler scope service).run world = some (.ok (some value), last)) :
    (world.scope scope).state = .open ∧ ∃ realization later callSite,
      (onEngine (world.scope scope).engine (Engine.realize service)).run world =
        some (.ok (some realization), later) ∧
      later.graph? (world.scope scope).engine realization = some callSite ∧
      ((Engine.validateResolution callSite (later.isRoot scope)).run
        (later.engine (world.scope scope).engine)).1 = .ok () ∧
      Interprets handler (world.scope scope).engine scope callSite value later last := by
  obtain ⟨_, later, checked, rest⟩ | ⟨_, _, failed⟩ := bind_eq_some h
  · obtain ⟨rfl, opened⟩ := ensureOpen_eq_some checked
    have hosted : later.Hosts scope (later.scope scope).engine := .of_state (by simp [opened])
    rw [run_look] at rest
    obtain ⟨found, ready, realized, rest⟩ | ⟨_, _, failed⟩ := bind_eq_some rest
    · have reached := leads_onEngine (later.scope scope).engine
        (fun _ => .realize service) later formed _ _ realized
      cases found with
      | none => cases rest
      | some realization =>
        dsimp only at rest
        rw [← bind_pure_comp] at rest
        obtain ⟨_, after, invoked, ended⟩ | ⟨_, _, failed⟩ := bind_eq_some rest
        · cases ended
          obtain ⟨callSite, graph, passed, interprets⟩ := interprets_of_invoke
            (reached.wellFormed formed) (hosted.engine_eq reached.extends) invoked
          exact ⟨opened, realization, ready, callSite, realized, graph, passed, interprets⟩
        · cases failed
    · cases failed
  · cases failed

/-- The instance that a scope resolves a service to was handed out for the service's graph. -/
theorem exists_of_resolve (answers : ∀ request, Leads (handler request)) (formed : world.WellFormed)
    {service : ServiceType}
    (h : (resolve handler scope service).run world = some (.ok (some value), last)) :
    ∃ callSite, (last.engine (world.scope scope).engine).memo.lookup ⟨service, 0⟩ =
        some (some callSite) ∧
      (callSite.kind.constructs = true → .obtained (world.scope scope).engine callSite.site.key
        (world.ownerFor callSite.site.location scope) value ∈ last.journal) := by
  obtain ⟨opened, realization, later, found, realized, graph, _, interprets⟩ :=
    interprets_of_resolve formed h
  have hosted : world.Hosts scope (world.scope scope).engine := .of_state (by simp [opened])
  have reached := leads_onEngine (world.scope scope).engine (fun _ => .realize service) world formed
    _ _ realized
  obtain ⟨_, listed, recorded⟩ := graph_of_realize formed (formed.placed _ _ hosted) realized
  cases graph.symm.trans listed
  have grown := (interprets.reaches answers (reached.wellFormed formed)).extends
  have told := notified_of_onEngine realized
  refine ⟨found, grown.memo _ _ _ recorded, fun constructs => ?_⟩
  rw [← World.ownerFor_of_scopes told.scopes]
  exact interprets.obtained (congrArg Scope.engine (World.scope_of_scopes told.scopes scope)) constructs

theorem obtained_of_activate (formed : world.WellFormed) {activator : Activator}
    {callSite : CallSite}
    (graph : world.graph? activator.engine activator.realization = some callSite)
    (constructs : callSite.kind.constructs = true)
    (h : (activate handler activator scope).run world = some (.ok value, last)) :
    .obtained activator.engine callSite.site.key
      (world.ownerFor callSite.site.location scope) value ∈ last.journal := by
  rw [activate, run_look] at h
  obtain ⟨_, later, checked, rest⟩ | ⟨_, _, failed⟩ := bind_eq_some h
  · obtain ⟨rfl, mine⟩ := checkEngine_eq_some checked
    obtain ⟨found, listed, _, interprets⟩ := interprets_of_invoke formed mine rest
    cases graph.symm.trans listed
    exact interprets.obtained mine constructs
  · cases failed

end Run

namespace Container

/-- A provider replies with an instance for the graph of a service: to a request for the service,
or to an activation of it. -/
inductive Serves (id : EngineId) (callSite : CallSite) (value : Value) (world last : World) :
    Prop where
  | resolve {fuel : Nat} {scope : ScopeId} {service : ServiceType}
      (mine : (world.scope scope).engine = id)
      (known : (last.engine id).memo.lookup ⟨service, 0⟩ = some (some callSite))
      (replied : perform fuel (.resolve scope service) world = some (.ok (some value), last)) :
      Serves id callSite value world last
  | activate {fuel : Nat} {activator : Activator} {scope : ScopeId} (mine : activator.engine = id)
      (graph : world.graph? id activator.realization = some callSite)
      (replied : perform fuel (.activate activator scope) world = some (.ok value, last)) :
      Serves id callSite value world last

theorem Serves.obtained {id : EngineId} {callSite : CallSite} {value : Value} {world last : World}
    (serves : Serves id callSite value world last) (formed : world.WellFormed)
    (constructs : callSite.kind.constructs = true) :
    ∃ owner, .obtained id callSite.site.key owner value ∈ last.journal := by
  cases serves with
  | @resolve fuel scope service mine known replied =>
    subst mine
    cases fuel with
    | zero => cases replied
    | succ fuel =>
      obtain ⟨_, recorded, obtained⟩ := Run.exists_of_resolve (leads_perform fuel) formed replied
      cases known.symm.trans recorded
      exact ⟨_, obtained constructs⟩
  | @activate fuel activator scope mine graph replied =>
    subst mine
    cases fuel with
    | zero => cases replied
    | succ fuel => exact ⟨_, Run.obtained_of_activate formed graph constructs replied⟩

end Container
end ServiceContainer
