import ServiceContainer.Proofs.Execution.Construction

/-! Whole runs as moves of the world. Main statement: every reachable world is reached by moves from
a world without providers. -/
namespace ServiceContainer
namespace Run
variable {handler : Handler} (answers : ∀ request, Leads (handler request))
include answers

theorem reaches_execution {world : World} (formed : world.WellFormed) {scope : ScopeId}
    {engine : EngineId} (hosted : world.Hosts scope engine) {realization : Nat}
    {callSite : CallSite} (graph : world.graph? engine realization = some callSite)
    (clear : world.Clear engine scope callSite) :
    LeadsFrom world (execution handler engine realization scope).run := by
  intro result last h
  rw [run_execution] at h
  have steady := formed.engine_sound engine
  obtain ⟨⟨sound, grown⟩, follows⟩ := steady.nextPlan realization
  have planned := world.reaches_withEngine engine sound grown (.plan realization)
  have offered := planned.extends.offers formed.toHoused
    ⟨engine, hosted, (formed.graph graph).1, clear⟩
  have formed := planned.wellFormed formed
  dsimp only at h
  generalize later_eq : world.withEngine engine
    ((Engine.nextPlan realization).run (world.engine engine)).2 = later at h planned formed offered
  cases chosen : ((Engine.nextPlan realization).run (world.engine engine)).1 with
  | none =>
    rw [chosen] at h
    cases h
    exact planned
  | some plan =>
    rw [chosen] at h
    obtain ⟨realized, listed, following⟩ := follows plan chosen
    have held := steady.holds (List.mem_of_getElem? listed)
    have same : realized.callSite = callSite := by
      rw [World.graph?, listed] at graph
      exact Option.some.inj graph
    dsimp only at h
    rw [follow_eq steady.memo held following, same] at h
    exact planned.trans (reaches_interpret answers callSite scope later formed offered
      result last h)

omit answers in
theorem leads_observed {world : World} (formed : world.WellFormed) (engine : EngineId)
    (service : ServiceType) {run : Run Value}
    (leads : ∀ later : World, world.Reaches later → LeadsFrom later run.run) :
    LeadsFrom world (observed engine service run).run := by
  refine .bind (leads_notify _ _ world formed) fun _ told reached => ?_
  refine .bind (leads told reached) fun result later ran => ?_
  have formed := (reached.trans ran).wellFormed formed
  cases result with
  | ok value => exact .bind (leads_notify _ _ later formed) fun _ _ _ => .pure _
  | error failure => exact .bind (leads_notify _ _ later formed) fun _ _ _ => .pure _

omit answers in
theorem leads_whenOpen {world : World} (formed : world.WellFormed) {scope : ScopeId}
    {next : Unit → Run α}
    (rest : (world.scope scope).state = .open → LeadsFrom world (next ()).run) :
    LeadsFrom world (ensureOpen scope >>= next).run := by
  intro result last h
  obtain ⟨_, later, checked, ran⟩ | ⟨failure, checked, rfl⟩ := bind_eq_some h
  · obtain ⟨rfl, opened⟩ := ensureOpen_eq_some checked
    exact rest opened result last ran
  · exact leads_ensureOpen scope world formed _ last checked

omit answers in
theorem reaches_validateResolution {world : World} (formed : world.WellFormed) {scope : ScopeId}
    {engine : EngineId} {realization : Nat} {callSite : CallSite}
    (graph : world.graph? engine realization = some callSite)
    {result : Except Failure Unit} {later : World}
    (h : (onEngine engine (Engine.validateResolution callSite (world.isRoot scope))).run world =
      some (result, later)) :
    world.Reaches later ∧ (result = .ok () → world.Clear engine scope callSite) := by
  rw [run_onEngine] at h
  obtain ⟨held, sheltered⟩ := formed.graph graph
  have asked : (world.engine engine).Asked
      ((Engine.validateResolution callSite (world.isRoot scope)).run (world.engine engine)).2 := by
    obtain ⟨realized, listed, rfl⟩ := Option.map_eq_some_iff.1 graph
    exact .validate (List.mem_of_getElem? listed) _
  have steady := formed.engine_sound engine
  cases ended : (Engine.validateResolution callSite (world.isRoot scope)).run
      (world.engine engine) with
  | mk outcome last =>
    obtain ⟨⟨sound, grown⟩, unexposed⟩ := steady.validateResolution held ended
    rw [ended] at h asked
    cases h
    refine ⟨world.reaches_withEngine engine sound grown asked, fun passed checked lawful => ?_⟩
    refine ⟨sheltered checked lawful, fun root => unexposed passed checked ?_ lawful⟩
    rw [World.isRoot, root.root_eq_none]
    rfl

theorem reaches_invoke {world : World} (formed : world.WellFormed) {scope : ScopeId}
    {engine : EngineId} (mine : (world.scope scope).engine = engine) (realization : Nat) :
    LeadsFrom world (invoke handler engine realization scope).run := by
  refine leads_whenOpen formed fun opened => .look ?_
  have hosted : world.Hosts scope engine := mine ▸ .of_state (by simp [opened])
  cases graph : world.graph? engine realization with
  | none => exact .fail _
  | some callSite =>
    intro result last h
    obtain ⟨_, later, validated, rest⟩ | ⟨failure, validated, rfl⟩ := bind_eq_some h
    · obtain ⟨reached, clear⟩ := reaches_validateResolution formed graph validated
      have executes : ∀ last : World, world.Reaches last →
          LeadsFrom last (execution handler engine realization scope).run := fun last reached =>
        reaches_execution answers (reached.wellFormed formed) (reached.extends.hosts hosted)
          (reached.extends.graph? graph) (reached.extends.clear formed.toHoused hosted (clear rfl))
      refine reached.trans ?_
      split at rest
      · exact executes later reached result last rest
      · exact leads_observed (reached.wellFormed formed) engine callSite.site.service
          (fun last further => executes last (reached.trans further)) result last rest
    · exact (reaches_validateResolution formed graph validated).1

theorem leads_resolve (scope : ScopeId) (service : ServiceType) :
    Leads (resolve handler scope service).run := by
  intro world formed
  refine leads_whenOpen formed fun opened => .look ?_
  have hosted : world.Hosts scope (world.scope scope).engine := .of_state (by simp [opened])
  refine .andThen (leads_onEngine _ (fun _ => .realize service) world formed)
    fun found later reached => ?_
  cases found with
  | none => exact .done _
  | some realization =>
    have invoked := reaches_invoke answers (reached.wellFormed formed)
      (hosted.engine_eq reached.extends) realization
    have mapped := LeadsFrom.andThen invoked fun value _ _ => .done (some value)
    rwa [bind_pure_comp] at mapped

omit answers in
theorem run_createScope (scope : ScopeId) (world : World) :
    createScope scope world = some (world.scopes[scope]?.elim (scope, world) fun parent =>
      world.addScope parent.engine (some (parent.root.getD scope))) := by
  cases listed : world.scopes[scope]? with
  | none => simp [createScope, modifyGet, MonadStateOf.modifyGet, StateT.modifyGet, listed]
  | some parent => simp [createScope, modifyGet, MonadStateOf.modifyGet, StateT.modifyGet, listed]

omit answers in
theorem leads_createScope (scope : ScopeId) : Leads (createScope scope) := by
  intro world _ result later h
  cases listed : world.scopes[scope]? with
  | none =>
    have same : createScope scope world = some (scope, world) := by
      rw [run_createScope, listed]
      rfl
    rw [same] at h
    cases h
    exact .refl world
  | some parent =>
    have same : createScope scope world =
        some (world.addScope parent.engine (some (parent.root.getD scope))) := by
      rw [run_createScope, listed]
      rfl
    have spawned := world.reaches_spawn listed
    rw [same] at h
    rwa [Option.some.inj h] at spawned

omit answers in
theorem leads_activator (engine : EngineId) (service : ServiceType) :
    Leads (activator engine service).run := by
  intro world formed
  exact .andThen (leads_onEngine engine (fun _ => .realize service) world formed)
    fun _ _ _ => .done _

omit answers in
theorem run_checkEngine (engine : EngineId) (scope : ScopeId) (name : String) (world : World) :
    (checkEngine engine scope name).run world =
      if (world.scope scope).engine = engine then some (.ok (), world)
      else some (.error (.activation name "scope belongs to a different provider"), world) := by
  change (if (world.scope scope).engine == engine then pure () else
    throw (.activation name "scope belongs to a different provider") : Run Unit).run world = _
  by_cases mine : (world.scope scope).engine = engine
  · simp only [mine, beq_self_eq_true, if_true]
    rfl
  · simp only [beq_iff_eq, mine, if_false]
    rfl

omit answers in
theorem checkEngine_eq_some {engine : EngineId} {scope : ScopeId} {name : String}
    {world later : World} (h : (checkEngine engine scope name).run world = some (.ok (), later)) :
    later = world ∧ (world.scope scope).engine = engine := by
  rw [run_checkEngine] at h
  split at h
  · rename_i mine
    cases h
    exact ⟨rfl, mine⟩
  · cases h

omit answers in
theorem leads_whenMine {world : World} {engine : EngineId} {scope : ScopeId} {name : String}
    {next : Unit → Run α}
    (rest : (world.scope scope).engine = engine → LeadsFrom world (next ()).run) :
    LeadsFrom world (checkEngine engine scope name >>= next).run := by
  intro result last h
  obtain ⟨_, later, checked, ran⟩ | ⟨failure, checked, rfl⟩ := bind_eq_some h
  · obtain ⟨rfl, mine⟩ := checkEngine_eq_some checked
    exact rest mine result last ran
  · rw [run_checkEngine] at checked
    split at checked <;> cases checked
    exact .refl world

theorem leads_activate (activator : Activator) (scope : ScopeId) :
    Leads (activate handler activator scope).run := by
  intro world formed
  refine .look (leads_whenMine fun mine => ?_)
  exact reaches_invoke answers formed mine activator.realization

omit answers in
theorem leads_prepare (engine : EngineId) (implementation : TypeInfo)
    (supplied : List ServiceType) : Leads (prepare engine implementation supplied).run := by
  intro world formed
  refine .andThen (leads_onEngine engine (fun _ => .prepare implementation supplied) world formed)
    fun chosen later _ => ?_
  refine .lift ?_
  rintro _ _ ⟨⟩
  exact later.reaches_keepBooks (List.prefix_append ..) later.nextSerial later.tallies

theorem reaches_gather {engine : EngineId} {scope : ScopeId} (arguments : List Argument)
    (sources : List ArgumentSource) {world : World} (formed : world.WellFormed)
    (hosted : world.Hosts scope engine) :
    LeadsFrom world (gather handler engine scope arguments sources).run := by
  induction sources generalizing world with
  | nil => exact .done _
  | cons source rest ih =>
    have drawn : LeadsFrom world (draw handler engine scope arguments source).run := by
      cases source with
      | supplied position =>
        rw [draw]
        cases arguments[position]? with
        | none => exact .fail _
        | some argument => exact .done _
      | service realization => exact reaches_invoke answers formed hosted.listed.2 realization
      | fallback value => exact .done _
    refine .andThen drawn fun value later reached => ?_
    refine .andThen ?_ fun others _ _ => .done _
    exact ih (reached.wellFormed formed) (reached.extends.hosts hosted)

theorem leads_create (factory : FactoryId) (scope : ScopeId) (arguments : List Argument) :
    Leads (create handler factory scope arguments).run := by
  intro world formed
  refine .look ?_
  cases world.factories[factory]? with
  | none => exact .fail _
  | some factory =>
    refine leads_whenMine fun mine => leads_whenOpen formed fun opened => ?_
    have hosted : world.Hosts scope factory.engine := mine ▸ .of_state (by simp [opened])
    dsimp only
    split
    · refine .andThen (reaches_gather answers arguments factory.sources formed hosted)
        fun values later reached => ?_
      refine .andThen (leads_body answers _ later (reached.wellFormed formed)) fun produced _ _ => ?_
      exact .pure _
    · exact .fail _

end Run

namespace Container

theorem leads_respond {handler : Handler} (answers : ∀ request, Leads (handler request))
    (request : Request) : Leads (respond handler request) := by
  cases request with
  | resolve scope service => exact Run.leads_resolve answers scope service
  | createScope scope => exact Run.leads_createScope scope
  | dispose scope mode => exact Run.leads_dispose answers scope mode
  | inspect scope => exact fun world _ => .pure _
  | activator engine service => exact Run.leads_activator engine service
  | activate activator scope => exact Run.leads_activate answers activator scope
  | prepare engine implementation supplied =>
    exact Run.leads_prepare engine implementation supplied
  | create factory scope arguments => exact Run.leads_create answers factory scope arguments
  | serial =>
    rintro world _ _ _ ⟨⟩
    exact world.reaches_keepBooks List.prefix_rfl _ world.tallies
  | tally counter =>
    rintro world _ _ _ ⟨⟩
    exact world.reaches_keepBooks List.prefix_rfl world.nextSerial _
  | say line => exact fun world _ => .change (.of_unbooked (.say line) (.record world rfl) rfl rfl)

theorem leads_perform (fuel : Nat) (request : Request) : Leads (perform fuel request) := by
  induction fuel generalizing request with
  | zero =>
    rintro world _ _ _ ⟨⟩
  | succ fuel ih => exact leads_respond ih request

theorem leads_run (fuel : Nat) (program : Program α) : Leads (run fuel program) :=
  Run.leads_exec (leads_perform fuel) program

end Container

namespace World

theorem wellFormed_start (metrics : List Metrics) : WellFormed { metrics } where
  sound id engine listed := by cases listed
  placed scope engine hosted := by cases hosted
  rooted scope engine root shaped := by cases shaped
  alone engine one other root := by cases root
  ledger := ledger_start metrics

section Builds
variable {world later : World} {blueprint : Blueprint} {options : Options}
  {observers : List Observer} {id : EngineId} {root : ScopeId}
  (built : Container.build blueprint options observers world = .ok (id, root, later))
include built

theorem move_of_build : world.Move later ∧ later.stack = world.stack := by
  obtain ⟨engine, made, rfl⟩ := Container.exists_of_build built
  refine ⟨.step [] (.build (Engine.sound_of_build made).1) ?_ rfl (by simp), rfl⟩
  exact List.prefix_append world.engines [engine]

theorem blueprints_of_build : later.blueprints = world.blueprints ++ [blueprint] := by
  obtain ⟨engine, made, rfl⟩ := Container.exists_of_build built
  have same : engine.blueprint = blueprint := (Engine.sound_of_build made).2.blueprint
  simp [blueprints, addScope, same]

end Builds

/-- Every reachable world comes about by moves, from one without providers. -/
theorem Reachable.moves {world : World} (reached : world.Reachable) :
    ∃ metrics, Moves { metrics } world ∧ world.stack = [] := by
  induction reached with
  | start metrics => exact ⟨metrics, .refl, rfl⟩
  | build _ built ih =>
    obtain ⟨metrics, moves, stack⟩ := ih
    obtain ⟨move, same⟩ := move_of_build built
    exact ⟨metrics, moves.tail move, same.trans stack⟩
  | @run _ world later fuel program result _ ran ih =>
    obtain ⟨metrics, moves, stack⟩ := ih
    have formed := moves.steps.wellFormed (wellFormed_start metrics)
    have reached := Container.leads_run fuel program world formed result later ran
    exact ⟨metrics, moves.trans reached.moves, reached.stack.trans stack⟩
  | @graph world later id service result _ asked ih =>
    obtain ⟨metrics, moves, stack⟩ := ih
    have formed := moves.steps.wellFormed (wellFormed_start metrics)
    have reached :=
      Run.leads_onEngine id (fun _ => .graph service) world formed result later asked
    exact ⟨metrics, moves.trans reached.moves, reached.stack.trans stack⟩

theorem Reachable.steps {world : World} (reached : world.Reachable) :
    ∃ metrics, Steps { metrics } world ∧ world.stack = [] := by
  obtain ⟨metrics, moves, stack⟩ := reached.moves
  exact ⟨metrics, moves.steps, stack⟩

theorem Reachable.wellFormed {world : World} (reached : world.Reachable) : world.WellFormed := by
  obtain ⟨metrics, steps, _⟩ := reached.steps
  exact steps.wellFormed (wellFormed_start metrics)

end World

theorem Container.blueprints_of_serve {world later : World} (reached : world.Reachable) {fuel : Nat}
    {blueprint : Blueprint} {options : Options} {observers : List Observer}
    {client : EngineId → ScopeId → Program α} {result : α}
    (served : serve fuel blueprint options observers client world = .ok (some (result, later))) :
    later.blueprints = world.blueprints ++ [blueprint] := by
  obtain ⟨id, root, between, built, ran⟩ := exists_of_serve served
  have formed := (World.Reachable.build reached built).wellFormed
  rw [(leads_run fuel (client id root) between formed result later ran).blueprints]
  exact World.blueprints_of_build built

end ServiceContainer
