import ServiceContainer.Proofs.Depth

/-! Resolutions come to an end. User code that only resolves can ask for more only inside a
construction, and constructions do not nest without end. Main statement: if no user code disposes
scopes or makes unregistered instances, then fuel for as many levels as providers have keys is enough
for every request to be answered. -/
namespace ServiceContainer

/-- The request neither disposes a scope nor has an instance made that is not registered. -/
def Request.Resolves : Request → Prop
  | .dispose _ _ | .create _ _ _ => False
  | _ => True

inductive Program.Resolves {α : Type} : Program α → Prop where
  | done (result : α) : Resolves (.done result)
  | ask {request : Request} {next : request.Reply → Program α} (resolves : request.Resolves)
      (rest : ∀ reply, (next reply).Resolves) : Resolves (.ask request next)

structure Blueprint.Resolves (blueprint : Blueprint) : Prop where
  factories : ∀ descriptor ∈ blueprint.registry.descriptors, ∀ name factory,
    descriptor.implementation = .produced name factory → ∀ scope, (factory scope).Resolves
  constructors : ∀ type, ∀ constructor ∈ blueprint.catalog.constructors type, ∀ arguments,
    (constructor.activate arguments).Resolves

/-- All user code of the graph itself, that of its children aside, only resolves. -/
def CallSite.Resolves : CallSite → Prop
  | .factory _ produce => ∀ scope, (produce scope).Resolves
  | .construct _ activate _ _ => ∀ arguments, (activate arguments).Resolves
  | _ => True

theorem Memo.Holds.resolves {blueprint : Blueprint} {memo : Memo} {callSite : CallSite}
    (held : memo.Holds callSite) (sound : Memo.Sound blueprint memo)
    (resolves : blueprint.Resolves) : callSite.Resolves := by
  cases constructs : callSite.kind.constructs with
  | false =>
    cases callSite with
    | factory _ _ | construct _ _ _ _ => cases constructs
    | _ => trivial
  | true =>
    obtain ⟨_, _, _, _, _, _, assembled, _⟩ := held.plans sound constructs
    cases assembled with
    | own | collect | fixed => trivial
    | produced _ registered implemented =>
      exact resolves.factories _ (List.mem_of_getElem? registered) _ _ implemented
    | constructed _ _ _ listed _ | opened _ _ _ listed _ =>
      exact resolves.constructors _ _ listed

namespace World
variable {world later last : World}

def Lasts (world later : World) : Prop :=
  ∀ scope, (world.scope scope).state = .open → (later.scope scope).state = .open

theorem Lasts.refl (world : World) : world.Lasts world := fun _ state => state

theorem Lasts.trans (first : world.Lasts later) (second : later.Lasts last) : world.Lasts last :=
  fun scope state => second scope (first scope state)

theorem Unbooked.lasts (unbooked : world.Unbooked later) : world.Lasts later := fun scope state =>
  (unbooked.kept scope (lt_of_state (by simp [state]))).1.trans state

/-- The providers' user code only resolves, and the world is one that runs lead to. -/
structure Tame (world : World) : Prop where
  regular : world.Regular
  nested : world.stack = (underway world.journal).map (·.frame)
  resolving : ∀ blueprint ∈ world.blueprints, blueprint.Resolves

theorem Tame.steps (tame : world.Tame) (steps : world.Steps later)
    (same : later.blueprints = world.blueprints) : later.Tame :=
  ⟨tame.regular.steps steps, steps.nested tame.nested, same ▸ tame.resolving⟩

theorem Tame.reaches (tame : world.Tame) (reached : world.Reaches later) : later.Tame :=
  tame.steps reached.steps reached.blueprints

theorem Tame.formed (tame : world.Tame) : world.WellFormed := tame.regular.formed

/-- There is room for so many more constructions inside those in progress. -/
def Room (world : World) (depth : Nat) : Prop := world.pairs.card < depth + world.stack.length

theorem Room.reaches {depth : Nat} (room : world.Room depth) (reached : world.Reaches later) :
    later.Room depth := by
  rw [Room, pairs_congr reached.blueprints, reached.stack]
  exact room

end World

/-- With fuel for so many levels, or more, the act comes to one end, and open scopes stay open. -/
def Halts (depth : Nat) (world : World) (act : Handler → Act α) : Prop :=
  ∃ result later, world.Lasts later ∧
    ∀ fuel, depth ≤ fuel → act (Container.perform fuel) world = some (result, later)

/-- With room for so many levels, every request that only resolves is answered. -/
def Answers (depth : Nat) : Prop :=
  ∀ world : World, world.Tame → world.Room depth → ∀ request : Request, request.Resolves →
    Halts depth world fun handler => handler request

namespace Halts
variable {α β : Type} {depth : Nat} {world : World}

theorem pure (value : α) : Halts depth world fun _ => (Pure.pure value : Act α) :=
  ⟨value, world, .refl world, fun _ _ => rfl⟩

theorem bind {first : Handler → Act α} {next : Handler → α → Act β}
    (here : Halts depth world first)
    (rest : ∀ value later, world.Lasts later →
      first (Container.perform depth) world = some (value, later) →
      Halts depth later fun handler => next handler value) :
    Halts depth world fun handler => first handler >>= next handler := by
  obtain ⟨value, later, lasts, ran⟩ := here
  obtain ⟨result, last, further, ended⟩ := rest value later lasts (ran depth le_rfl)
  refine ⟨result, last, lasts.trans further, fun fuel enough => ?_⟩
  exact Act.bind_eq_some.2 ⟨value, later, ran fuel enough, ended fuel enough⟩

theorem andThen {first : Handler → Run α} {next : Handler → α → Run β}
    (here : Halts depth world fun handler => (first handler).run)
    (rest : ∀ value later, world.Lasts later →
      (first (Container.perform depth)).run world = some (.ok value, later) →
      Halts depth later fun handler => (next handler value).run) :
    Halts depth world fun handler => (first handler >>= next handler).run := by
  obtain ⟨outcome, later, lasts, ran⟩ := here
  cases outcome with
  | error failure =>
    exact ⟨.error failure, later, lasts, fun fuel enough => Run.run_bind_error (ran fuel enough)⟩
  | ok value =>
    obtain ⟨result, last, further, ended⟩ := rest value later lasts (ran depth le_rfl)
    refine ⟨result, last, lasts.trans further, fun fuel enough => ?_⟩
    exact (Run.run_bind_ok (ran fuel enough)).trans (ended fuel enough)

theorem done (value : α) : Halts depth world fun _ => (Pure.pure value : Run α).run := pure _

theorem fail (failure : Failure) : Halts depth world fun _ => (throw failure : Run α).run := pure _

theorem change {step : World → World} (lasts : world.Lasts (step world)) :
    Halts depth world fun _ => (modify step : Act Unit) :=
  ⟨(), step world, lasts, fun _ _ => rfl⟩

theorem of_run {act : Handler → Act α} {result : α} {later : World} (lasts : world.Lasts later)
    (ran : ∀ handler, act handler world = some (result, later)) : Halts depth world act :=
  ⟨result, later, lasts, fun _ _ => ran _⟩

theorem look {next : Handler → World → Run α}
    (here : Halts depth world fun handler => (next handler world).run) :
    Halts depth world fun handler => ((get : Run World) >>= next handler).run := here

theorem whenOpen {scope : ScopeId} {next : Handler → Unit → Run α}
    (rest : (world.scope scope).state = .open →
      Halts depth world fun handler => (next handler ()).run) :
    Halts depth world fun handler => (Run.ensureOpen scope >>= next handler).run := by
  refine .andThen (.of_run (.refl world) fun _ => Run.run_ensureOpen scope world)
    fun _ later _ ran => ?_
  obtain ⟨rfl, opened⟩ := Run.ensureOpen_eq_some ran
  exact rest opened

theorem whenMine {engine : EngineId} {scope : ScopeId} {name : String}
    {next : Handler → Unit → Run α}
    (rest : (world.scope scope).engine = engine →
      Halts depth world fun handler => (next handler ()).run) :
    Halts depth world fun handler => (Run.checkEngine engine scope name >>= next handler).run := by
  by_cases mine : (world.scope scope).engine = engine
  · refine .andThen (.of_run (.refl world) fun _ => (Run.run_checkEngine ..).trans (if_pos mine))
      fun _ later _ ran => ?_
    obtain ⟨rfl, _⟩ := Run.checkEngine_eq_some ran
    exact rest mine
  · exact .of_run (.refl world) fun _ =>
      Run.run_bind_error ((Run.run_checkEngine ..).trans (if_neg mine))

end Halts

/-- The user code of the graphs that a scope can have only resolves. -/
theorem World.Tame.resolves {world : World} {callSite : CallSite} {scope : ScopeId}
    (tame : world.Tame) (offered : world.Offers scope callSite) : callSite.Resolves := by
  obtain ⟨id, hosted, held, _⟩ := offered
  have placed := tame.formed.placed scope id hosted
  have listed : world.engines[id]? = some world.engines[id] := List.getElem?_eq_getElem placed
  refine held.resolves (tame.formed.engine_sound id).memo (tame.resolving _ ?_)
  rw [engine_of_some listed]
  exact List.mem_map_of_mem (List.mem_of_getElem? listed)

namespace Run
variable {world : World} {callSite : CallSite} {scope owner : ScopeId} {depth : Nat}

theorem halts_capture {site : Site} {produced : Produced}
    (opened : (world.scope owner).state = .open) :
    Halts depth world fun handler => (capture handler site owner produced).run := by
  cases comes : produced.disposable with
  | none =>
    refine ⟨.ok produced.value, world, .refl world, fun fuel _ => ?_⟩
    dsimp only
    unfold capture
    rw [comes]
    rfl
  | some disposable =>
    refine .of_run (fun scope state => ?_) fun handler => (run_capture comes).trans (if_pos opened)
    simpa using state

section Answered
variable (answers : Answers depth)

section Programs
include answers

theorem halts_exec {α : Type} {program : Program α} (resolves : program.Resolves)
    (tame : world.Tame) (room : world.Room depth) :
    Halts depth world fun handler => program.exec handler := by
  induction resolves generalizing world with
  | done result => exact .pure result
  | @ask request next resolves _ ih =>
    refine .bind (answers world tame room request resolves) fun reply later _ ran => ?_
    have reached := Container.leads_perform depth request world tame.formed reply later ran
    exact ih reply (tame.reaches reached) (room.reaches reached)

theorem halts_body {α : Type} {program : Program (Except Failure α)} (resolves : program.Resolves)
    (tame : world.Tame) (room : world.Room depth) :
    Halts depth world fun handler => (body handler program).run :=
  halts_exec answers resolves tame room

theorem halts_construct {site : Site} {activate : Arguments → Body} {cast : Option InterfaceCast}
    {values : List Value} (resolves : ∀ arguments, (activate arguments).Resolves)
    (tame : world.Tame) (room : world.Room depth) :
    Halts depth world fun handler => (construct handler site activate cast values).run := by
  refine .andThen (halts_body answers (resolves _) tame room) fun produced later _ _ => ?_
  cases cast with
  | none => exact .done _
  | some cast =>
    refine .andThen (.pure (cast.apply produced.value)) fun value later _ _ => ?_
    exact .done _

end Programs

/-- In every world that can come about, values of the graph are produced for the owner, and come to
an end. -/
def Yields (depth : Nat) (callSite : CallSite) (owner : ScopeId)
    (produce : Handler → Run Produced) : Prop :=
  ∀ world : World, world.Tame → world.Offers owner callSite → (world.scope owner).state = .open →
    world.Room (if callSite.kind.constructs then depth else depth + 1) →
    Halts depth world fun handler => (produce handler).run

theorem halts_making (world : World) (site : Site) {produce : Handler → Run Produced}
    (opened : ((world.reserve site owner).scope owner).state = .open)
    (produces : Halts depth (world.reserve site owner) fun handler => (produce handler).run) :
    Halts depth (world.reserve site owner) fun handler =>
      (produce handler >>= capture handler site owner).run :=
  .andThen produces fun _ _ lasts _ => halts_capture (lasts owner opened)

theorem halts_guarded (tame : world.Tame) (offered : world.Offers owner callSite)
    (opened : (world.scope owner).state = .open) (room : world.Room (depth + 1))
    (constructs : callSite.kind.constructs = true)
    (missing : callSite.site.location ≠ .nowhere →
      ∀ value, world.cached (world.frame callSite.site owner) ≠ some (some value))
    (rooted : callSite.site.location = .root →
      world.IsRootOf owner (world.scope owner).engine)
    {produce : Handler → Run Produced} (yields : Yields depth callSite owner produce) :
    Halts depth world fun handler =>
      (guarded (world.scope owner).engine callSite.site owner (do
        let value ← making handler callSite.site owner (produce handler)
        modify (·.complete (world.scope owner).engine callSite.site owner value)
        pure value)).run := by
  cases free : cycle? world.stack (world.scope owner).engine callSite.site.key with
  | some path =>
    refine ⟨.error (.circular path), world, .refl world, fun fuel _ => ?_⟩
    refine (run_guarded ..).trans ?_
    rw [free]
  | none =>
    have begins : world.Step (world.begin callSite.site owner) :=
      .enter offered constructs (cycle?_eq_none free) missing fun place => ⟨rooted place, opened⟩
    have begun := tame.steps (.single begins) (world.blueprints_begin callSite.site owner)
    have inside : (world.begin callSite.site owner).Room depth := by
      rw [World.Room, World.pairs_congr (world.blueprints_begin callSite.site owner)]
      simp only [World.stack_begin, List.length_append, List.length_singleton]
      exact room.trans_eq (by omega)
    have state : ∀ scope, ((world.begin callSite.site owner).scope scope).state =
        (world.scope scope).state := world.state_begin callSite.site owner
    have made := halts_making (world.enter (world.scope owner).engine callSite.site owner)
      callSite.site ((state owner).trans opened)
      (yields _ begun (begins.extends.offers tame.formed.toHoused offered)
        ((state owner).trans opened) (by rwa [constructs, if_pos rfl]))
    obtain ⟨result, later, lasts, ran⟩ := made
    have lasts : world.Lasts later := fun scope opened => lasts scope ((state scope).trans opened)
    cases result with
    | error failure =>
      refine ⟨.error failure, later.leave (world.scope owner).engine callSite.site.key, lasts,
        fun fuel enough => ?_⟩
      refine (run_guarded ..).trans ?_
      rw [free]
      dsimp only
      rw [run_bind_error ((run_making ..).trans (ran fuel enough))]
      rfl
    | ok value =>
      refine ⟨.ok value, (later.complete (world.scope owner).engine callSite.site owner value).leave
        (world.scope owner).engine callSite.site.key, fun scope opened => ?_, fun fuel enough => ?_⟩
      · exact (later.record _).state_keep callSite.site owner scope value ▸ lasts scope opened
      · refine (run_guarded ..).trans ?_
        rw [free]
        dsimp only
        rw [run_bind_ok ((run_making ..).trans (ran fuel enough))]
        rfl

theorem halts_made (tame : world.Tame) (offered : world.Offers owner callSite)
    (opened : (world.scope owner).state = .open) (room : world.Room (depth + 1))
    (missing : callSite.site.location ≠ .nowhere →
      ∀ value, world.cached (world.frame callSite.site owner) ≠ some (some value))
    (rooted : callSite.site.location = .root →
      world.IsRootOf owner (world.scope owner).engine)
    {produce : Handler → Run Produced} (yields : Yields depth callSite owner produce) :
    Halts depth world fun handler =>
      (made handler (world.scope owner).engine callSite.kind callSite.site owner
        (produce handler)).run := by
  cases constructs : callSite.kind.constructs with
  | true =>
    have guards : ∀ handler, made handler (world.scope owner).engine callSite.kind callSite.site owner
        (produce handler) = _ := fun handler => if_pos constructs
    simp only [guards]
    exact halts_guarded tame offered opened room constructs missing rooted yields
  | false =>
    have unkept := offered.holds.unkept (tame.formed.engine_sound _).memo constructs
    have reserved : world.reserve callSite.site owner = world := if_pos unkept
    have made := halts_making world callSite.site (by rwa [reserved]) (by
        rw [reserved]
        exact yields world tame offered opened (by rwa [constructs, if_neg Bool.false_ne_true]))
    have plain : ∀ handler, Run.made handler (world.scope owner).engine callSite.kind callSite.site
        owner (produce handler) = _ := fun handler => if_neg (Bool.eq_false_iff.1 constructs)
    simp only [plain]
    refine .andThen ?_ fun value later _ _ => ?_
    · obtain ⟨result, later, lasts, ran⟩ := made
      rw [reserved] at lasts
      exact ⟨result, later, lasts, fun fuel enough => ran fuel enough⟩
    · have unchanged : later.keep callSite.site owner value = later := if_pos unkept
      refine ⟨.ok value, later, .refl later, fun fuel _ => ?_⟩
      exact congrArg (fun world => some (Except.ok value, world)) unchanged

theorem halts_cached (tame : world.Tame) (offered : world.Offers owner callSite)
    (opened : (world.scope owner).state = .open) (room : world.Room (depth + 1))
    (rooted : callSite.site.location = .root →
      world.IsRootOf owner (world.scope owner).engine)
    {produce : Handler → Run Produced} (yields : Yields depth callSite owner produce) :
    Halts depth world fun handler =>
      (cached handler (world.scope owner).engine callSite.kind callSite.site owner
        (produce handler)).run := by
  have entry := world.cached_frame callSite.site owner
  by_cases kept : ∃ value, world.cached (world.frame callSite.site owner) = some (some value)
  · obtain ⟨value, kept⟩ := kept
    refine ⟨.ok value, world, .refl world, fun fuel _ => ?_⟩
    dsimp only
    rw [cached, run_look, ← entry, kept]
    rfl
  · have missing : ∀ value, world.cached (world.frame callSite.site owner) ≠ some (some value) :=
      fun value found => kept ⟨value, found⟩
    obtain ⟨result, later, lasts, ran⟩ :=
      halts_made tame offered opened room (fun _ => missing) rooted yields
    refine ⟨result, later, lasts, fun fuel enough => ?_⟩
    dsimp only
    rw [cached, run_look, ← entry]
    split
    · rename_i value found
      exact absurd found (missing value)
    · exact ran fuel enough

theorem halts_provide (tame : world.Tame) (offered : world.Offers owner callSite)
    (opened : callSite.site.location ≠ .root → (world.scope owner).state = .open)
    (room : world.Room (depth + 1))
    (rooted : callSite.site.location = .root →
      world.IsRootOf owner (world.scope owner).engine)
    {produce : Handler → Run Produced} (yields : Yields depth callSite owner produce) :
    Halts depth world fun handler =>
      (provide handler (world.scope owner).engine callSite.kind callSite.site owner
        (produce handler)).run := by
  unfold provide
  cases place : callSite.site.location with
  | nowhere =>
    exact halts_made tame offered (opened (by simp [place])) room (by simp [place])
      (by simp [place]) yields
  | scope => exact halts_cached tame offered (opened (by simp [place])) room (by simp [place]) yields
  | root => exact .whenOpen fun opened => halts_cached tame offered opened room rooted yields

theorem halts_deliver (tame : world.Tame) (offered : world.Offers scope callSite)
    (opened : (world.scope scope).state = .open) (room : world.Room (depth + 1))
    {produce : Handler → ScopeId → Run Produced}
    (yields : ∀ owner, Yields depth callSite owner fun handler => produce handler owner) :
    Halts depth world fun handler =>
      (deliver handler callSite.kind callSite.site scope (produce handler)).run := by
  obtain ⟨mine, engine, top⟩ := offered.ownerFor tame.formed
  have lasting : callSite.site.location ≠ .root →
      (world.scope (world.ownerFor callSite.site.location scope)).state = .open := by
    cases place : callSite.site.location with
    | root => exact fun elsewhere => absurd rfl elsewhere
    | scope | nowhere => exact fun _ => opened
  generalize owned : world.ownerFor callSite.site.location scope = owner at mine engine top lasting
  have provided := halts_provide tame mine lasting room (fun place => engine ▸ top place)
    (yields owner)
  have delivered : Halts depth world fun handler => (do
      let value ← provide handler (world.scope owner).engine callSite.kind callSite.site owner
        (produce handler owner)
      if callSite.kind.constructs then
        record (.obtained (world.scope owner).engine callSite.site.key owner value)
      pure value : Run Value).run := by
    refine .andThen provided fun value later _ _ => ?_
    cases constructs : callSite.kind.constructs with
    | false =>
      simp only [Bool.false_eq_true, if_false]
      exact .done value
    | true =>
      simp only [if_true]
      exact ⟨.ok value, later.record _, fun _ state => state, fun _ _ => rfl⟩
  rw [engine, ← owned] at delivered
  exact delivered

end Answered

mutual
theorem yields_producer (answers : Answers depth) :
    ∀ (callSite : CallSite) (owner : ScopeId),
      Yields depth callSite owner fun handler => producer handler callSite owner
  | .constant _ _, _, _, _, _, _, _ | .fallback _ _, _, _, _, _, _, _ => .done _
  | .factory _ _, owner, _, tame, offered, _, room =>
    halts_body answers (tame.resolves offered owner) tame room
  | .construct _ _ _ parameters, owner, world, tame, offered, opened, room => by
    have offers := offered.child tame.formed
    have more : world.Room (depth + 1) :=
      Nat.lt_of_lt_of_le room (Nat.add_le_add_right (Nat.le_succ depth) _)
    refine .andThen ?_ fun values later lasts ran => ?_
    · exact halts_interpretAll answers parameters owner world tame offers opened more
    · have reached := reaches_interpretAll (Container.leads_perform depth) parameters owner world
        tame.formed offers _ _ ran
      exact halts_construct answers (tame.resolves offered) (tame.reaches reached)
        (room.reaches reached)
  | .collect _ items, owner, world, tame, offered, opened, room =>
    .andThen (halts_interpretAll answers items owner world tame (offered.child tame.formed) opened
      room) fun _ _ _ _ => .done _
  | .own _ service, owner, world, _, _, _, _ => by
    cases service <;> exact .of_run (.refl world) fun _ => rfl
theorem halts_interpretAll (answers : Answers depth) :
    ∀ (callSites : List CallSite) (scope : ScopeId) (world : World), world.Tame →
      (∀ callSite ∈ callSites, world.Offers scope callSite) →
      (world.scope scope).state = .open → world.Room (depth + 1) →
      Halts depth world fun handler => (interpretAll handler callSites scope).run
  | [], _, world, _, _, _, _ => by
    simp only [interpretAll]
    exact .done _
  | callSite :: rest, scope, world, tame, offered, opened, room => by
    simp only [interpretAll, interpret_eq]
    have first := offered callSite List.mem_cons_self
    refine .andThen ?_ fun value later lasts ran => ?_
    · exact halts_deliver tame first opened room fun owner =>
        yields_producer answers callSite owner
    · rw [← interpret_eq] at ran
      have reached := reaches_interpret (Container.leads_perform depth) callSite scope world
        tame.formed first _ _ ran
      refine .andThen ?_ fun _ _ _ _ => .done _
      exact halts_interpretAll answers rest scope later (tame.reaches reached)
        (fun other member => reached.extends.offers tame.formed.toHoused
          (offered other (List.mem_cons_of_mem _ member)))
        (lasts scope opened) (room.reaches reached)
end

section Requests
variable (answers : Answers depth)
include answers

theorem halts_interpret (tame : world.Tame) (offered : world.Offers scope callSite)
    (opened : (world.scope scope).state = .open) (room : world.Room (depth + 1)) :
    Halts depth world fun handler => (interpret handler callSite scope).run := by
  simp only [interpret_eq]
  exact halts_deliver tame offered opened room fun owner => yields_producer answers callSite owner

theorem halts_execution (tame : world.Tame) {engine : EngineId} (hosted : world.Hosts scope engine)
    (opened : (world.scope scope).state = .open) (room : world.Room (depth + 1))
    {realization : Nat} (graph : world.graph? engine realization = some callSite)
    (clear : world.Clear engine scope callSite) :
    Halts depth world fun handler => (execution handler engine realization scope).run := by
  have steady := tame.formed.engine_sound engine
  obtain ⟨⟨sound, grown⟩, follows⟩ := steady.nextPlan realization
  have planned := world.reaches_withEngine engine sound grown (.plan realization)
  have unbooked : world.Unbooked (world.withEngine engine
      ((Engine.nextPlan realization).run (world.engine engine)).2) := .withEngine world engine _
  have offered := planned.extends.offers tame.formed.toHoused
    ⟨engine, hosted, (tame.formed.graph graph).1, clear⟩
  have runs := fun handler => run_execution handler engine realization scope world
  dsimp only at runs
  generalize world.withEngine engine
    ((Engine.nextPlan realization).run (world.engine engine)).2 = later
      at runs planned unbooked offered
  cases chosen : ((Engine.nextPlan realization).run (world.engine engine)).1 with
  | none =>
    simp only [chosen] at runs
    exact ⟨_, later, unbooked.lasts, fun fuel _ => runs _⟩
  | some plan =>
    obtain ⟨realized, listed, following⟩ := follows plan chosen
    have held := steady.holds (List.mem_of_getElem? listed)
    have same : realized.callSite = callSite := by
      rw [World.graph?, listed] at graph
      exact Option.some.inj graph
    simp only [chosen, follow_eq steady.memo held following, same] at runs
    obtain ⟨result, last, lasts, ran⟩ := halts_interpret answers (tame.reaches planned) offered
      (unbooked.lasts scope opened) (room.reaches planned)
    exact ⟨result, last, unbooked.lasts.trans lasts, fun fuel enough =>
      (runs _).trans (ran fuel enough)⟩

omit answers in
theorem halts_onEngine {α : Type} (id : EngineId) (action : EngineAction α) :
    Halts depth world fun _ => (onEngine id action).run :=
  .of_run (World.Unbooked.withEngine world id _).lasts fun _ => run_onEngine id action world

omit answers in
theorem halts_notify (id : EngineId) (notice : Notice) :
    Halts depth world fun _ => notify id notice :=
  .change (World.Unbooked.notify id world notice).lasts

omit answers in
theorem halts_observed {engine : EngineId} {service : ServiceType} {run : Handler → Run Value}
    (halts : ∀ later : World, world.Reaches later → world.Lasts later →
      Halts depth later fun handler => (run handler).run) :
    Halts depth world fun handler => (observed engine service (run handler)).run := by
  refine .bind (halts_notify engine _) fun _ told lasts ran => ?_
  cases ran
  refine .bind (halts _ (world.reaches_notify engine _) lasts) fun result later _ _ => ?_
  cases result with
  | ok value | error failure => exact .bind (halts_notify engine _) fun _ _ _ _ => .pure _

theorem halts_invoke (tame : world.Tame) {engine : EngineId}
    (mine : (world.scope scope).engine = engine) (room : world.Room (depth + 1))
    (realization : Nat) :
    Halts depth world fun handler => (invoke handler engine realization scope).run := by
  refine .whenOpen fun opened => .look ?_
  have hosted : world.Hosts scope engine := mine ▸ .of_state (by simp [opened])
  cases graph : world.graph? engine realization with
  | none => exact .fail _
  | some callSite =>
    refine .andThen (halts_onEngine engine _) fun _ later lasts validated => ?_
    obtain ⟨reached, clear⟩ := reaches_validateResolution tame.formed graph validated
    have clear := reached.extends.clear tame.formed.toHoused hosted (clear rfl)
    have executes : ∀ last : World, later.Reaches last → later.Lasts last →
        Halts depth last fun handler => (execution handler engine realization scope).run := by
      intro last further lasting
      have whole := reached.trans further
      have later := reached.extends.hosts hosted
      exact halts_execution answers (tame.reaches whole) (whole.extends.hosts hosted)
        (lasting scope (lasts scope opened)) (room.reaches whole) (whole.extends.graph? graph)
        (further.extends.clear (reached.wellFormed tame.formed).toHoused later clear)
    split
    · exact executes later (.refl later) (.refl later)
    · exact halts_observed executes

theorem halts_resolve (tame : world.Tame) (room : world.Room (depth + 1))
    (service : ServiceType) :
    Halts depth world fun handler => (resolve handler scope service).run := by
  refine .whenOpen fun opened => .look ?_
  have hosted : world.Hosts scope (world.scope scope).engine := .of_state (by simp [opened])
  refine .andThen (halts_onEngine _ _) fun found later lasts realized => ?_
  have reached := leads_onEngine _ (fun _ => .realize service) world tame.formed _ _ realized
  cases found with
  | none => exact .done _
  | some realization =>
    have invoked := halts_invoke answers (tame.reaches reached) (hosted.engine_eq reached.extends)
      (room.reaches reached) realization
    have mapped := invoked.andThen fun value _ _ _ => .done (some value)
    simpa only [bind_pure_comp] using mapped

theorem halts_activate (tame : world.Tame) (room : world.Room (depth + 1))
    (activator : Activator) :
    Halts depth world fun handler => (activate handler activator scope).run := by
  refine .look (.whenMine fun mine => ?_)
  exact halts_invoke answers tame mine room activator.realization

theorem halts_respond (tame : world.Tame) (room : world.Room (depth + 1)) {request : Request}
    (resolves : request.Resolves) :
    Halts depth world fun handler => Container.respond handler request := by
  cases request with
  | resolve scope service => exact halts_resolve answers tame room service
  | createScope scope =>
    refine .of_run ?_ fun _ => run_createScope scope world
    cases world.scopes[scope]? with
    | none => exact .refl world
    | some parent => exact (World.Unbooked.addScope world _ _).lasts
  | dispose scope mode | create factory scope arguments => exact resolves.elim
  | inspect scope => exact .of_run (.refl world) fun _ => rfl
  | activator engine service => exact .andThen (halts_onEngine engine _) fun _ _ _ _ => .done _
  | activate activator scope => exact halts_activate answers tame room activator
  | prepare engine implementation supplied =>
    refine .andThen (halts_onEngine engine _) fun (chosen, sources) later _ _ => ?_
    refine ⟨_, _, ?_, fun _ _ => rfl⟩
    exact fun _ state => state
  | serial | tally counter =>
    refine ⟨_, _, ?_, fun _ _ => rfl⟩
    exact fun _ state => state
  | say line => exact .change (.refl world)

end Requests

end Run

namespace Container

/-- Fuel for as many levels as there is room for constructions is enough. -/
theorem answers_perform (depth : Nat) : Answers depth := by
  induction depth with
  | zero =>
    intro world tame room
    have bounded := tame.regular.depth_le tame.nested
    exact absurd (Nat.lt_of_lt_of_eq room (Nat.zero_add _)) (Nat.not_lt_of_le bounded)
  | succ depth answers =>
    intro world tame room request resolves
    obtain ⟨reply, later, lasts, ran⟩ := Run.halts_respond answers tame room resolves
    refine ⟨reply, later, lasts, fun fuel enough => ?_⟩
    cases fuel with
    | zero => exact absurd enough (Nat.not_succ_le_zero depth)
    | succ fuel => exact ran fuel (Nat.le_of_succ_le_succ enough)

end Container

namespace World

/-- Constructions never nest deeper than providers have keys to construct under. If their user code
only resolves, whichever services of whichever scopes, then every request to resolve, at any time of
any run, is answered, and no deeper nesting than there is room for can be needed for it; so is
everything that a client asks for that only resolves. -/
theorem Reachable.resolution_halts {before world : World} (reached : before.Reachable)
    (steps : before.Steps world) :
    world.stack.length ≤ world.pairs.card ∧
    ((∀ blueprint ∈ world.blueprints, blueprint.Resolves) →
      (∀ request : Request, request.Resolves → ∃ reply last,
        ∀ fuel, world.pairs.card < fuel + world.stack.length →
          Container.perform fuel request world = some (reply, last)) ∧
      ∀ {α : Type} (client : Program α), client.Resolves → ∃ result last,
        ∀ fuel, world.pairs.card < fuel + world.stack.length →
          Container.run fuel client world = some (result, last)) := by
  have regular := reached.regular.steps steps
  have nested := steps.nested reached.nested
  have bounded := regular.depth_le nested
  refine ⟨bounded, fun resolving => ?_⟩
  have tame : world.Tame := ⟨regular, nested, resolving⟩
  -- The least fuel that leaves room for every construction that is not yet in progress.
  have room : world.Room (world.pairs.card - world.stack.length + 1) := by
    rw [Room]
    omega
  have answers := Container.answers_perform (world.pairs.card - world.stack.length + 1)
  refine ⟨fun request resolves => ?_, fun client resolves => ?_⟩
  · obtain ⟨reply, last, _, ran⟩ := answers world tame room request resolves
    exact ⟨reply, last, fun fuel enough => ran fuel (by omega)⟩
  · obtain ⟨result, last, _, ran⟩ := Run.halts_exec answers resolves tame room
    exact ⟨result, last, fun fuel enough => ran fuel (by omega)⟩

theorem resolves_echoing : echoing.Resolves where
  factories descriptor listed name factory made scope := by
    have relays : ∀ service next : TypeInfo, (relaying service next).implementation =
        .produced name factory → (factory scope).Resolves := by
      rintro service next ⟨⟩
      refine .ask trivial fun reply => ?_
      cases reply <;> exact .done _
    simp only [echoing, List.mem_cons, List.not_mem_nil, or_false] at listed
    obtain rfl | rfl | rfl := listed
    · exact relays _ _ made
    · exact relays _ _ made
    · cases made
      exact .done _
  constructors type constructor listed := by cases listed

/-- Two factories that resolve each other come to an end: three keys leave room for no more. -/
theorem resolution_halts_echo :
    ∃ world last, Container.serve 4 echoing {} [] (resolving [kept]) {} = .ok (some ((), world)) ∧
      (∀ blueprint ∈ world.blueprints, blueprint.Resolves) ∧
      world.stack.length ≤ world.pairs.card ∧ world.pairs.card = 3 ∧
      ∀ fuel, 3 < fuel → Container.perform fuel (.resolve 0 (.plain kept)) world =
        some (.error (.circular [kept.name, closer.name, kept.name]), last) := by
  obtain ⟨world, served, shown⟩ := exists_of_served
    (Container.serve 4 echoing {} [] (resolving [kept]) {}) echoes (by decide +kernel)
  have reached := Container.reachable_of_serve (.start []) served
  have built : world.blueprints = [echoing] := Container.blueprints_of_serve (.start []) served
  have resolving : ∀ blueprint ∈ world.blueprints, blueprint.Resolves := by
    rw [built]
    intro blueprint listed
    cases List.mem_singleton.1 listed
    exact resolves_echoing
  have counted : world.pairs.card = 3 := by
    have same : world.pairs = World.pairs { engines := [{ blueprint := echoing }] } :=
      pairs_congr built
    rw [same]
    decide +kernel
  obtain ⟨bounded, halts⟩ := reached.resolution_halts .refl
  obtain ⟨reply, last, ran⟩ := (halts resolving).1 (.resolve 0 (.plain kept)) trivial
  unfold echoes at shown
  split at shown
  · rename_i path failed refused
    obtain ⟨named, _⟩ := Bool.and_eq_true_iff.1 shown
    cases eq_of_beq named
    have same := (ran 4 (by rw [counted]; omega)).symm.trans refused
    cases same
    exact ⟨world, last, served, resolving, bounded, counted, fun fuel enough =>
      ran fuel (by rw [counted]; omega)⟩
  · cases shown

end World
end ServiceContainer
