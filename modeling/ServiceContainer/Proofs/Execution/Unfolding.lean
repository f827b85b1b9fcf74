import ServiceContainer.Proofs.Execution.Course

/-! Runs unfold as trees. Main statements: whatever a client does, its run is a tree; one whose user
code keeps to the scope that it is handed is a confined tree. -/
namespace ServiceContainer

/-- However the act ends, its run is a tree. -/
def Unfolds (confined : Bool) (part : Part) (world : World) (act : Act α) : Prop :=
  ∀ result later, act world = some (result, later) → world.Course confined part later

namespace Unfolds
variable {confined : Bool} {part : Part} {world : World}

theorem pure (value : α) : Unfolds confined part world (Pure.pure value : Act α) := by
  rintro _ _ ⟨⟩
  exact .rest

theorem bind {first : Act α} {next : α → Act β} (here : Unfolds confined part world first)
    (rest : ∀ value later, world.Course confined part later →
      Unfolds confined part later (next value)) : Unfolds confined part world (first >>= next) := by
  intro result last h
  obtain ⟨value, later, ran, ended⟩ := Act.bind_eq_some.1 h
  have course := here value later ran
  exact course.next (rest value later course result last ended)

theorem andThen {first : Run α} {next : α → Run β} (here : Unfolds confined part world first.run)
    (rest : ∀ value later, world.Course confined part later →
      Unfolds confined part later (next value).run) :
    Unfolds confined part world (first >>= next).run := by
  intro result last h
  obtain ⟨value, later, ran, ended⟩ | ⟨failure, ran, _⟩ := Run.bind_eq_some h
  · have course := here _ later ran
    exact course.next (rest value later course result last ended)
  · exact here _ last ran

theorem done (value : α) : Unfolds confined part world (Pure.pure value : Run α).run := pure _

theorem fail (failure : Failure) : Unfolds confined part world (throw failure : Run α).run := pure _

theorem look {next : World → Run β} (here : Unfolds confined part world (next world).run) :
    Unfolds confined part world ((get : Run World) >>= next).run := here

theorem lift {act : Act α} (here : Unfolds confined part world act) :
    Unfolds confined part world (ExceptT.lift act : Run α).run := by
  have spelled : (ExceptT.lift act : Run α).run = act >>= fun value => Pure.pure (.ok value) :=
    map_eq_pure_bind _ act
  rw [spelled]
  exact bind here fun _ _ _ => pure _

theorem change {step : World → α × World} (tick : world.Tick confined part (step world).2) :
    Unfolds confined part world fun world => some (step world) := by
  intro result later h
  have same : later = (step world).2 := congrArg Prod.snd (Option.some.inj h).symm
  exact same ▸ .tick tick

theorem whenOpen {scope : ScopeId} {next : Unit → Run α}
    (rest : (world.scope scope).state = .open → Unfolds confined part world (next ()).run) :
    Unfolds confined part world (Run.ensureOpen scope >>= next).run := by
  intro result last h
  obtain ⟨_, later, checked, ran⟩ | ⟨failure, checked, _⟩ := Run.bind_eq_some h
  · obtain ⟨rfl, opened⟩ := Run.ensureOpen_eq_some checked
    exact rest opened result last ran
  · rw [Run.run_ensureOpen] at checked
    exact (Prod.mk.inj (Option.some.inj checked)).2 ▸ .rest

theorem invoked {scope : ScopeId} {next : Unit → Run α}
    (own : confined = true → world.handed? = some scope)
    (inner : Unfolds confined (.graph scope) world (Run.ensureOpen scope >>= next).run) :
    Unfolds confined .code world (Run.ensureOpen scope >>= next).run := by
  intro result last h
  obtain ⟨_, later, checked, _⟩ | ⟨failure, checked, _⟩ := Run.bind_eq_some h
  · exact .invoke (Run.ensureOpen_eq_some checked).2 own (inner result last h)
  · rw [Run.run_ensureOpen] at checked
    exact (Prod.mk.inj (Option.some.inj checked)).2 ▸ .rest

theorem whenMine {engine : EngineId} {scope : ScopeId} {name : String} {next : Unit → Run α}
    (rest : Unfolds confined part world (next ()).run) :
    Unfolds confined part world (Run.checkEngine engine scope name >>= next).run := by
  intro result last h
  obtain ⟨_, later, checked, ran⟩ | ⟨failure, checked, _⟩ := Run.bind_eq_some h
  · obtain ⟨rfl, _⟩ := Run.checkEngine_eq_some checked
    exact rest result last ran
  · rw [Run.run_checkEngine] at checked
    split at checked <;> cases checked
    exact .rest

end Unfolds

def Handler.Unfolds (confined : Bool) (handler : Handler) : Prop :=
  ∀ (request : Request) (world : World), world.Sound →
    ServiceContainer.Unfolds confined .code world (handler request)

namespace Run
variable {confined : Bool} {part : Part} {handler : Handler} {world : World}

theorem unfolds_onEngine (id : EngineId) {action : EngineAction α}
    (asked : Stateful.Keeps Engine.Asked action) :
    Unfolds confined part world (onEngine id action).run := by
  intro result later h
  rw [run_onEngine] at h
  cases h
  exact .tick (.ask id (asked _))

section Handled
variable (answers : handler.Unfolds confined)
include answers

theorem unfolds_exec (program : Program α) (sound : world.Sound) :
    Unfolds confined .code world (program.exec handler) := by
  induction program generalizing world with
  | done result => exact .pure _
  | ask request next ih =>
    exact .bind (answers request world sound) fun reply later course => ih reply (course.sound sound)

theorem unfolds_body (program : Program (Except Failure α)) (sound : world.Sound) :
    Unfolds confined .code world (body handler program).run :=
  unfolds_exec answers program sound

theorem unfolds_cleanUp (tracked : Tracked) (sound : world.Sound) :
    Unfolds confined .code world (cleanUp handler tracked) := by
  refine .bind (.change (.note rfl)) fun _ later course => ?_
  exact unfolds_exec answers _ (course.sound sound)

theorem unfolds_cleanUpAll (mode : DisposalMode) (items : List Tracked) (sound : world.Sound) :
    Unfolds confined .code world (cleanUpAll handler mode items) := by
  induction items generalizing world with
  | nil => exact .pure _
  | cons tracked rest ih =>
    rw [cleanUpAll]
    split
    · exact .bind (ih sound) fun _ _ _ => .pure _
    · refine .bind (unfolds_cleanUp answers tracked sound) fun _ later course => ?_
      exact .bind (ih (course.sound sound)) fun _ _ _ => .pure _

theorem unfolds_capture (id : EngineId) (site : Site) (owner : ScopeId) (produced : Produced)
    (sound : world.Sound) : Unfolds confined (.making id site owner) world
      (capture handler site owner produced).run := by
  intro result later h
  cases comes : produced.disposable with
  | none =>
    unfold capture at h
    rw [comes] at h
    cases h
    exact .rest
  | some disposable =>
    rw [run_capture comes] at h
    have entrusted : world.Course confined (.making id site owner)
        (world.entrust site owner disposable produced.value) :=
      .tick (.entrust disposable produced.value)
    split at h
    · cases h
      exact entrusted
    · split at h
      · obtain ⟨⟨_, last⟩, cleaned, ended⟩ := Option.map_eq_some_iff.1 h
        cases ended
        have refused : world.Course confined (.making id site owner)
            (world.refuse site owner disposable produced.value) :=
          entrusted.next (.tick (.note rfl))
        exact refused.next (.body (unfolds_exec answers _ (refused.sound sound) _ _ cleaned))
      · cases h
        exact entrusted

theorem unfolds_dispose (free : confined = false) (scope : ScopeId) (mode : DisposalMode)
    (sound : world.Sound) : Unfolds confined .code world (dispose handler scope mode).run := by
  intro result last h
  by_cases opened : (world.scope scope).state = .open
  · rw [run_dispose mode opened] at h
    obtain ⟨⟨⟨count, skipped⟩, later⟩, cleaned, ended⟩ := Option.map_eq_some_iff.1 h
    cases ended
    have drained : (world.drain scope).Sound := sound
    exact .dispose free opened (unfolds_cleanUpAll answers mode _ drained _ _ cleaned)
  · have nothing : (dispose handler scope mode).run world = some (.ok (), world) := by
      rw [dispose, run_look, if_neg (by simpa using opened)]
      rfl
    rw [nothing] at h
    cases h
    exact .rest

section Delivered
variable {callSite : CallSite} {scope owner : ScopeId} {produce : Run Produced}
  (unkept : callSite.kind.constructs = false → callSite.site.location = .nowhere)
include unkept

/-- The value of a graph is produced within its construction, or else by the graph itself. -/
theorem unfolds_made (owned : world.ownerFor callSite.site.location scope = owner)
    (rooted : callSite.site.location = .root → (world.scope owner).state = .open) {id : EngineId}
    (constructed : callSite.kind.constructs = true → ∀ later : World, later.Sound →
      Unfolds confined (.making id callSite.site owner) later produce.run)
    (plain : callSite.kind.constructs = false →
      Unfolds confined (.graph scope) world produce.run ∧ Bare produce) (sound : world.Sound) :
    Unfolds confined (.graph scope) world
      (made handler id callSite.kind callSite.site owner produce).run := by
  intro result last h
  cases constructs : callSite.kind.constructs with
  | true =>
    rw [made, constructs, if_pos rfl, run_guarded] at h
    split at h
    · cases h
      exact .rest
    · obtain ⟨⟨outcome, later⟩, ran, ended⟩ := Option.map_eq_some_iff.1 h
      cases ended
      have begun : ((world.enter id callSite.site owner).reserve callSite.site owner).Sound :=
        sound.of_engines (by simp)
      refine .construct owned rooted ?_
      obtain ⟨value, between, made, rest⟩ | ⟨failure, made, _⟩ := bind_eq_some ran
      · cases rest
        rw [run_making] at made
        refine .next ?_ (.tick (.complete value))
        refine Unfolds.andThen (constructed constructs _ begun) ?_ _ _ made
        exact fun produced later course =>
          unfolds_capture answers id _ _ produced (course.sound begun)
      · rw [run_making] at made
        refine Unfolds.andThen (constructed constructs _ begun) ?_ _ _ made
        exact fun produced later course =>
          unfolds_capture answers id _ _ produced (course.sound begun)
  | false =>
    obtain ⟨produces, bare⟩ := plain constructs
    have nowhere := unkept constructs
    rw [made, constructs, if_neg Bool.false_ne_true] at h
    have ends : ∀ {result : Except Failure Value} {later : World},
        (making handler callSite.site owner produce).run world = some (result, later) →
        world.Course confined (.graph scope) later := by
      intro result later h
      rw [run_making, World.reserve, if_pos nowhere] at h
      obtain ⟨produced, between, ran, captured⟩ | ⟨failure, failed, _⟩ := bind_eq_some h
      · have same : (capture handler callSite.site owner produced).run between =
            some (.ok produced.value, between) := by
          rw [capture, bare _ _ _ ran]
          rfl
        rw [same] at captured
        cases captured
        exact produces _ _ ran
      · exact produces _ _ failed
    obtain ⟨value, later, ran, rest⟩ | ⟨failure, ran, _⟩ := bind_eq_some h
    · have same : some (Except.ok value, later.keep callSite.site owner value) =
        some (result, last) := rest
      rw [World.keep, if_pos nowhere] at same
      cases same
      exact ends ran
    · exact ends ran

theorem unfolds_cached (owned : world.ownerFor callSite.site.location scope = owner)
    (rooted : callSite.site.location = .root → (world.scope owner).state = .open) {id : EngineId}
    (constructed : callSite.kind.constructs = true → ∀ later : World, later.Sound →
      Unfolds confined (.making id callSite.site owner) later produce.run)
    (plain : callSite.kind.constructs = false →
      Unfolds confined (.graph scope) world produce.run ∧ Bare produce) (sound : world.Sound) :
    Unfolds confined (.graph scope) world
      (cached handler id callSite.kind callSite.site owner produce).run := by
  refine .look ?_
  split
  · exact .done _
  · exact unfolds_made answers unkept owned rooted constructed plain sound

theorem unfolds_deliver (scope : ScopeId) {produce : ScopeId → Run Produced}
    (constructed : callSite.kind.constructs = true → ∀ (id : EngineId) (owner : ScopeId)
      (later : World), later.Sound →
        Unfolds confined (.making id callSite.site owner) later (produce owner).run)
    (plain : callSite.kind.constructs = false →
      Unfolds confined (.graph scope) world (produce scope).run ∧ Bare (produce scope))
    (sound : world.Sound) :
    Unfolds confined (.graph scope) world
      (deliver handler callSite.kind callSite.site scope produce).run := by
  refine .look (.andThen ?_ fun value later _ => ?_)
  · generalize owned : world.ownerFor callSite.site.location scope = owner
    have plainly : callSite.kind.constructs = false →
        Unfolds confined (.graph scope) world (produce owner).run ∧ Bare (produce owner) := by
      intro quiet
      have same : owner = scope := by
        rw [← owned, unkept quiet]
        rfl
      exact same ▸ plain quiet
    have constructed := fun constructs => constructed constructs (world.scope scope).engine owner
    unfold provide
    cases place : callSite.site.location with
    | nowhere =>
      exact unfolds_made answers unkept owned (by simp [place]) constructed plainly sound
    | scope =>
      exact unfolds_cached answers unkept owned (by simp [place]) constructed plainly sound
    | root =>
      exact .whenOpen fun opened =>
        unfolds_cached answers unkept owned (fun _ => opened) constructed plainly sound
  · split
    · exact .andThen (.lift (.change (.note rfl))) fun _ _ _ => .done _
    · exact .done _

end Delivered
end Handled

section Graphs
variable {blueprint : Blueprint} {memo : Memo}

mutual
theorem unfolds_interpret (answers : handler.Unfolds confined)
    (lawful : Memo.Sound blueprint memo) : ∀ (callSite : CallSite) (scope : ScopeId)
      (world : World), memo.Holds callSite → world.Sound →
        Unfolds confined (.graph scope) world (interpret handler callSite scope).run
  | .constant site value, scope, world, held, sound
  | .fallback site value, scope, world, held, sound => by
    rw [interpret_eq]
    exact unfolds_deliver answers (held.unkept lawful) scope (by rintro ⟨⟩)
      (fun _ => ⟨.done _, .pure value⟩) sound
  | .factory site factory, scope, world, held, sound => by
    rw [interpret_eq]
    refine unfolds_deliver answers (held.unkept lawful) scope (fun _ id owner later sound => ?_)
      (by rintro ⟨⟩) sound
    exact fun _ _ ran => .body (unfolds_body answers (factory owner) sound _ _ ran)
  | .construct site activate cast parameters, scope, world, held, sound => by
    rw [interpret_eq]
    refine unfolds_deliver answers (held.unkept lawful) scope (fun _ id owner later sound => ?_)
      (by rintro ⟨⟩) sound
    refine .andThen ?_ fun values later course => ?_
    · exact fun _ _ ran => .children (unfolds_interpretAll answers lawful parameters owner later
        (held.child lawful) sound _ _ ran)
    · refine .andThen ?_ fun produced _ _ => ?_
      · exact fun _ _ ran => .body (unfolds_body answers _ (course.sound sound) _ _ ran)
      · cases cast with
        | none => exact .done _
        | some cast => exact .andThen (.pure _) fun _ _ _ => .done _
  | .collect site items, scope, world, held, sound => by
    rw [interpret_eq]
    refine unfolds_deliver answers (held.unkept lawful) scope (by rintro ⟨⟩) (fun _ => ⟨?_, ?_⟩) sound
    · exact .andThen (unfolds_interpretAll answers lawful items scope world (held.child lawful) sound)
        fun _ _ _ => .done _
    · exact .bind fun _ => .pure _
  | .own site service, scope, world, held, sound => by
    rw [interpret_eq]
    refine unfolds_deliver answers (held.unkept lawful) scope ?_ (fun _ => ⟨?_, ?_⟩) sound
    · cases service <;> rintro ⟨⟩
    · refine .look ?_
      cases service <;> exact .done _
    · exact .ownService service scope
theorem unfolds_interpretAll (answers : handler.Unfolds confined)
    (lawful : Memo.Sound blueprint memo) : ∀ (callSites : List CallSite) (scope : ScopeId)
      (world : World), (∀ callSite ∈ callSites, memo.Holds callSite) → world.Sound →
        Unfolds confined (.graph scope) world (interpretAll handler callSites scope).run
  | [], _, _, _, _ => by
    rw [interpretAll]
    exact .done _
  | callSite :: rest, scope, world, held, sound => by
    rw [interpretAll]
    refine .andThen (unfolds_interpret answers lawful callSite scope world
      (held callSite List.mem_cons_self) sound) fun value later course => ?_
    refine .andThen ?_ fun _ _ _ => .done _
    exact unfolds_interpretAll answers lawful rest scope later
      (fun other member => held other (List.mem_cons_of_mem _ member)) (course.sound sound)
end

end Graphs

section Requests
variable (answers : handler.Unfolds confined)
include answers

theorem unfolds_execution (engine : EngineId) (realization : Nat) (scope : ScopeId)
    (sound : world.Sound) :
    Unfolds confined (.graph scope) world (execution handler engine realization scope).run := by
  intro result last h
  rw [run_execution] at h
  have steady := sound.engine engine
  obtain ⟨_, follows⟩ := steady.nextPlan realization
  have planned : world.Course confined (.graph scope)
      (world.withEngine engine ((Engine.nextPlan realization).run (world.engine engine)).2) :=
    .tick (.ask engine (.plan realization))
  dsimp only at h
  cases chosen : ((Engine.nextPlan realization).run (world.engine engine)).1 with
  | none =>
    rw [chosen] at h
    cases h
    exact planned
  | some plan =>
    rw [chosen] at h
    obtain ⟨realized, listed, following⟩ := follows plan chosen
    have held := steady.holds (List.mem_of_getElem? listed)
    dsimp only at h
    rw [follow_eq steady.memo held following] at h
    exact planned.next (unfolds_interpret answers steady.memo realized.callSite scope _ held
      (planned.sound sound) result last h)

omit answers in
theorem unfolds_observed {engine : EngineId} {realization : Nat} {callSite : CallSite}
    (graph : world.graph? engine realization = some callSite) {run : Run Value}
    (unfolds : ∀ later : World, later.Sound → Unfolds confined part later run.run)
    (sound : world.Sound) :
    Unfolds confined part world (observed engine callSite.site.service run).run := by
  intro result last h
  obtain ⟨_, told, resolving, h⟩ := Act.bind_eq_some.1 h
  cases resolving
  obtain ⟨outcome, later, ran, h⟩ := Act.bind_eq_some.1 h
  have inner := unfolds _ (sound.of_engines (World.engines_notify ..)) _ _ ran
  cases outcome with
  | ok value =>
    cases h
    exact .observe graph inner rfl
  | error failure =>
    cases h
    exact .observe graph inner rfl

theorem unfolds_invoked (engine : EngineId) (realization : Nat) (scope : ScopeId)
    (sound : world.Sound) :
    Unfolds confined (.graph scope) world (invoke handler engine realization scope).run := by
  refine .whenOpen fun _ => .look ?_
  cases graph : world.graph? engine realization with
  | none => exact .fail _
  | some callSite =>
    refine .andThen ?_ fun _ later course => ?_
    · intro result later h
      rw [run_onEngine] at h
      cases h
      obtain ⟨realized, listed, rfl⟩ := Option.map_eq_some_iff.1 graph
      exact .tick (.ask engine (.validate (List.mem_of_getElem? listed) _))
    · have later_sound := course.sound sound
      split
      · exact unfolds_execution answers engine realization scope later_sound
      · exact unfolds_observed (course.graph? sound graph)
          (fun _ sound => unfolds_execution answers engine realization scope sound) later_sound

theorem unfolds_invoke (engine : EngineId) (realization : Nat) (scope : ScopeId)
    (own : confined = true → world.handed? = some scope) (sound : world.Sound) :
    Unfolds confined .code world (invoke handler engine realization scope).run :=
  .invoked own (unfolds_invoked answers engine realization scope sound)

theorem unfolds_resolved (scope : ScopeId) (service : ServiceType) (sound : world.Sound) :
    Unfolds confined (.graph scope) world (resolve handler scope service).run := by
  refine .whenOpen fun _ => .look ?_
  refine .andThen (unfolds_onEngine _ fun _ => .realize service) fun found later course => ?_
  cases found with
  | none => exact .done _
  | some realization =>
    have mapped := Unfolds.andThen (unfolds_invoked answers (world.scope scope).engine realization
      scope (course.sound sound)) fun value _ _ => .done (some value)
    rwa [bind_pure_comp] at mapped

theorem unfolds_resolve (scope : ScopeId) (service : ServiceType)
    (own : confined = true → world.handed? = some scope) (sound : world.Sound) :
    Unfolds confined .code world (resolve handler scope service).run :=
  .invoked own (unfolds_resolved answers scope service sound)

omit answers in
theorem unfolds_createScope (free : confined = false) (scope : ScopeId) :
    Unfolds confined .code world (createScope scope) := by
  intro result later h
  rw [run_createScope] at h
  cases listed : world.scopes[scope]? with
  | none =>
    rw [listed] at h
    cases h
    exact .rest
  | some parent =>
    rw [listed] at h
    have same : later = (world.addScope parent.engine (some (parent.root.getD scope))).2 :=
      congrArg Prod.snd (Option.some.inj h).symm
    exact same ▸ .tick (.spawn free listed)

omit answers in
theorem unfolds_activator (engine : EngineId) (service : ServiceType) :
    Unfolds confined .code world (activator engine service).run :=
  .andThen (unfolds_onEngine engine fun _ => .realize service) fun _ _ _ => .done _

theorem unfolds_activated (activator : Activator) (scope : ScopeId) (sound : world.Sound) :
    Unfolds confined (.graph scope) world (activate handler activator scope).run :=
  .look (.whenMine (unfolds_invoked answers _ _ scope sound))

theorem unfolds_activate (activator : Activator) (scope : ScopeId)
    (own : confined = true → world.handed? = some scope) (sound : world.Sound) :
    Unfolds confined .code world (activate handler activator scope).run :=
  .look (.whenMine (unfolds_invoke answers _ _ scope own sound))

omit answers in
theorem unfolds_prepare (engine : EngineId) (implementation : TypeInfo)
    (supplied : List ServiceType) :
    Unfolds confined .code world (prepare engine implementation supplied).run := by
  refine .andThen (unfolds_onEngine engine fun _ => .prepare implementation supplied) ?_
  refine fun _ later _ => .lift (.change ?_)
  exact .keepBooks (List.prefix_append ..) later.nextSerial later.tallies

theorem unfolds_gather (engine : EngineId) (scope : ScopeId) (arguments : List Argument)
    (sources : List ArgumentSource) (own : confined = true → world.handed? = some scope)
    (sound : world.Sound) :
    Unfolds confined .code world (gather handler engine scope arguments sources).run := by
  induction sources generalizing world with
  | nil => exact .done _
  | cons source rest ih =>
    have drawn : Unfolds confined .code world (draw handler engine scope arguments source).run := by
      cases source with
      | supplied position =>
        rw [draw]
        cases arguments[position]? with
        | none => exact .fail _
        | some argument => exact .done _
      | service realization => exact unfolds_invoke answers engine realization scope own sound
      | fallback value => exact .done _
    refine .andThen drawn fun value later course => .andThen ?_ fun _ _ _ => .done _
    refine ih ?_ (course.sound sound)
    rw [World.handed?, course.stack]
    exact own

theorem unfolds_create (factory : FactoryId) (scope : ScopeId) (arguments : List Argument)
    (own : confined = true → world.handed? = some scope) (sound : world.Sound) :
    Unfolds confined .code world (create handler factory scope arguments).run := by
  refine .look ?_
  cases world.factories[factory]? with
  | none => exact .fail _
  | some factory =>
    refine .whenMine (.whenOpen fun _ => ?_)
    dsimp only
    split
    · refine .andThen (unfolds_gather answers _ scope arguments _ own sound)
        fun values later course => ?_
      exact .andThen (unfolds_body answers _ (course.sound sound)) fun _ _ _ => .pure _
    · exact .fail _

end Requests
end Run

/-- The request asks for instances in the scope only, and neither makes scopes nor disposes of
them. -/
def Request.keepsTo (scope : ScopeId) : Request → Bool
  | .resolve other _ | .activate _ other | .create _ other _ => other == scope
  | .createScope _ | .dispose _ _ => false
  | _ => true

def Request.asksIn (scope : ScopeId) : Request → Bool
  | .resolve other _ | .activate _ other => other == scope
  | _ => false

namespace Container
variable {confined : Bool} {handler : Handler} {world : World}

theorem unfolds_answer (answers : handler.Unfolds confined) {scope : ScopeId} {request : Request}
    (asks : request.asksIn scope = true) (sound : world.Sound) :
    Unfolds confined (.graph scope) world (respond handler request) := by
  cases request with
  | resolve other service =>
    cases eq_of_beq asks
    exact Run.unfolds_resolved answers _ service sound
  | activate activator other =>
    cases eq_of_beq asks
    exact Run.unfolds_activated answers activator _ sound
  | _ => cases asks

theorem unfolds_respond (answers : handler.Unfolds confined) (request : Request)
    (keeps : confined = true → ∃ scope, world.handed? = some scope ∧ request.keepsTo scope = true)
    (sound : world.Sound) : Unfolds confined .code world (respond handler request) := by
  have own : ∀ scope, (∀ other, request.keepsTo other = true → scope = other) →
      confined = true → world.handed? = some scope := by
    intro scope only limited
    obtain ⟨handed, here, kept⟩ := keeps limited
    rw [here, only handed kept]
  have free : (∀ scope, request.keepsTo scope = false) → confined = false := by
    intro never
    rw [← Bool.not_eq_true]
    intro limited
    obtain ⟨handed, _, kept⟩ := keeps limited
    cases (never handed).symm.trans kept
  cases request with
  | resolve scope service =>
    exact Run.unfolds_resolve answers scope service (own scope fun _ => eq_of_beq) sound
  | createScope scope => exact Run.unfolds_createScope (free fun _ => rfl) scope
  | dispose scope mode => exact Run.unfolds_dispose answers (free fun _ => rfl) scope mode sound
  | inspect scope => exact .pure _
  | activator engine service => exact Run.unfolds_activator engine service
  | activate activator scope =>
    exact Run.unfolds_activate answers activator scope (own scope fun _ => eq_of_beq) sound
  | prepare engine implementation supplied =>
    exact Run.unfolds_prepare engine implementation supplied
  | create factory scope arguments =>
    exact Run.unfolds_create answers factory scope arguments (own scope fun _ => eq_of_beq) sound
  | serial => exact .change (.keepBooks List.prefix_rfl _ world.tallies)
  | tally counter => exact .change (.keepBooks List.prefix_rfl world.nextSerial _)
  | say line => exact .change (.note rfl)

theorem unfolds_perform (fuel : Nat) : (perform fuel).Unfolds false := by
  induction fuel with
  | zero =>
    rintro request world _ _ _ ⟨⟩
  | succ fuel ih => exact fun request world sound => unfolds_respond ih request (by rintro ⟨⟩) sound

/-- Answers as the container does, but only requests that keep to the scope that is handed to whoever
makes them. -/
def confine : (fuel : Nat) → Handler
  | 0 => fun _ _ => none
  | fuel + 1 => fun request world =>
    if world.handed?.any (request.keepsTo ·) then respond (confine fuel) request world else none

theorem unfolds_confine (fuel : Nat) : (confine fuel).Unfolds true := by
  induction fuel with
  | zero =>
    rintro request world _ _ _ ⟨⟩
  | succ fuel ih =>
    intro request world sound result later h
    rw [confine] at h
    dsimp only at h
    split at h
    · rename_i kept
      refine unfolds_respond ih request (fun _ => ?_) sound result later h
      simpa [Option.any_eq_true] using kept
    · cases h

/-- A client's run is a tree. -/
theorem course_of_run {fuel : Nat} {program : Program α} {result : α} {later : World}
    (sound : world.Sound) (ran : run fuel program world = some (result, later)) :
    world.Course false .code later :=
  Run.unfolds_exec (unfolds_perform fuel) program sound result later ran

end Container
end ServiceContainer
