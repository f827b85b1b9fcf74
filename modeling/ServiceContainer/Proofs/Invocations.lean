import ServiceContainer.Proofs.Engine.Consulted
import ServiceContainer.Proofs.Execution.Endowment
import ServiceContainer.Proofs.Notices

/-! Requests for what a provider has realized. Main statement: if the checks let a scope have a
realization, an invocation for the scope is to supply the value of the graph by its owner, and
nothing else comes of it than that observers are told. -/
namespace ServiceContainer
open Stateful

namespace CallSite

/-- No singleton needs a scoped service of whoever asks for it. -/
theorem verdict_of_root {callSite : CallSite} (kept : callSite.site.location = .root)
    {verdict : Option String} (passes : callSite.verdict = .ok verdict) : verdict = none := by
  rw [verdict_eq] at passes
  cases beneath : verdictAll callSite.children with
  | error failure =>
    rw [beneath] at passes
    cases passes
  | ok found =>
    rw [beneath] at passes
    change callSite.site.verdict found = .ok verdict at passes
    unfold Site.verdict at passes
    rw [kept] at passes
    cases found <;> cases passes
    rfl

theorem verdict_of_verdictAll {callSites : List CallSite} {found : Option String}
    (passes : verdictAll callSites = .ok found) : ∀ callSite ∈ callSites,
      ∃ verdict, callSite.verdict = .ok verdict ∧ (found = none → verdict = none) := by
  induction callSites generalizing found with
  | nil => simp
  | cons first rest ih =>
    rw [verdictAll] at passes
    cases judged : first.verdict with
    | error failure =>
      rw [judged] at passes
      cases passes
    | ok verdict =>
      rw [judged] at passes
      cases others : verdictAll rest with
      | error failure =>
        rw [others] at passes
        cases passes
      | ok more =>
        rw [others] at passes
        cases passes
        intro callSite listed
        obtain rfl | listed := List.mem_cons.1 listed
        · exact ⟨verdict, judged, fun none => (Option.or_eq_none_iff.1 none).1⟩
        · obtain ⟨answer, passed, clear⟩ := ih others callSite listed
          exact ⟨answer, passed, fun none => clear (Option.or_eq_none_iff.1 none).2⟩

theorem verdict_of_child {callSite child : CallSite} (unkept : callSite.site.location = .nowhere)
    {verdict : Option String} (passes : callSite.verdict = .ok verdict)
    (listed : child ∈ callSite.children) :
    ∃ answer, child.verdict = .ok answer ∧ (verdict = none → answer = none) := by
  rw [verdict_eq] at passes
  cases beneath : verdictAll callSite.children with
  | error failure =>
    rw [beneath] at passes
    cases passes
  | ok found =>
    rw [beneath] at passes
    change callSite.site.verdict found = .ok verdict at passes
    unfold Site.verdict at passes
    rw [unkept] at passes
    cases passes
    exact verdict_of_verdictAll beneath child listed

end CallSite

namespace Engine
variable {host : Host} {engine : Engine} {callSite : CallSite} {service : ServiceType}

/-- What a provider's engine is like whenever it can be asked. -/
structure Settled (host : Host) (engine : Engine) : Prop where
  sound : engine.Sound
  recalls : engine.Recalls host
  published : engine.Published
  sent : engine.outbox = []

/-- The checks have nothing against the graph, also if the root asks for it. -/
def Grants (engine : Engine) (callSite : CallSite) (fromRoot : Bool) : Prop :=
  engine.options.validateScopes = true → ∃ verdict, callSite.verdict = .ok verdict ∧
    (fromRoot = true → verdict = none)

theorem Grants.judged {fromRoot : Bool} (grants : engine.Grants callSite fromRoot) :
    judge engine.options callSite = .ok () :=
  judge_eq_ok_iff.2 fun checks => (grants checks).imp fun _ passes => passes.1

theorem Grants.child {fromRoot : Bool} (grants : engine.Grants callSite fromRoot)
    (unkept : callSite.site.location = .nowhere) {child : CallSite}
    (listed : child ∈ callSite.children) : engine.Grants child fromRoot := by
  intro checks
  obtain ⟨verdict, passes, clear⟩ := grants checks
  obtain ⟨answer, passed, free⟩ := CallSite.verdict_of_child unkept passes listed
  exact ⟨answer, passed, fun root => free (clear root)⟩

theorem Settled.ask (settled : engine.Settled host) {after : Engine} (asked : engine.Asked after) :
    Settled host { after with outbox := [] } := by
  obtain ⟨sound, recalls⟩ := asked.recollects ⟨settled.sound, settled.recalls⟩
  have announced := asked.announces settled.sound settled.published
  exact ⟨{ sound with }, { recalls with }, { announced.published with }, rfl⟩

namespace Settled
variable (settled : engine.Settled host) (spoken : engine.memo.Spoken host)
include settled spoken

theorem answered (checks : engine.options.validateScopes = true)
    (realized : callSite ∈ engine.realizations.map (·.callSite)) :
    ∃ verdict, callSite.verdict = .ok verdict ∧
      callSite.checkLifetimes.run engine.verdicts = (.ok verdict, engine.verdicts) := by
  obtain ⟨verdict, answered⟩ := settled.published.answered checks realized
  obtain ⟨realization, listed, rfl⟩ := List.mem_map.1 realized
  have judged := (settled.recalls.check settled.sound (settled.sound.holds listed)).2 spoken
  rw [answered] at judged
  exact ⟨verdict, judged.symm, answered⟩

/-- A realized graph that is granted is not refused, and nothing is learned from that. -/
theorem run_validateResolution (realized : callSite ∈ engine.realizations.map (·.callSite))
    {fromRoot : Bool} (grants : engine.Grants callSite fromRoot) :
    (validateResolution callSite fromRoot).run engine = (.ok (), engine) := by
  rw [validateResolution, run_get_bind]
  split
  · rename_i asks
    obtain ⟨checks, root⟩ := Bool.and_eq_true_iff.1 asks
    obtain ⟨verdict, judged, answered⟩ := settled.answered spoken checks realized
    obtain ⟨_, passes, clear⟩ := grants checks
    cases judged.symm.trans passes
    rw [run_bind, run_onVerdicts, answered, clear root]
    rfl
  · rfl

theorem grants (realized : callSite ∈ engine.realizations.map (·.callSite)) {fromRoot : Bool}
    (validated : ((validateResolution callSite fromRoot).run engine).1 = .ok ()) :
    engine.Grants callSite fromRoot := by
  intro checks
  obtain ⟨verdict, judged, answered⟩ := settled.answered spoken checks realized
  refine ⟨verdict, judged, fun root => ?_⟩
  rw [validateResolution, run_get_bind, checks, root, Bool.and_self, if_pos rfl, run_bind,
    run_onVerdicts, answered] at validated
  cases verdict with
  | none => rfl
  | some dependency => cases validated

/-- The root may ask for a realized singleton, like any other scope. -/
theorem grants_root (realized : callSite ∈ engine.realizations.map (·.callSite))
    (kept : callSite.site.location = .root) (fromRoot : Bool) :
    engine.Grants callSite fromRoot := by
  intro checks
  obtain ⟨verdict, judged, _⟩ := settled.answered spoken checks realized
  exact ⟨verdict, judged, fun _ => CallSite.verdict_of_root kept judged⟩

theorem exists_realization (known : engine.memo.lookup ⟨service, 0⟩ = some (some callSite))
    (judged : judge engine.options callSite = .ok ()) :
    ∃ realization, ((realize service).run engine).1 = .ok (some realization) := by
  rw [realize, run_get_bind]
  cases published : engine.published.lookup service with
  | some found =>
    cases found with
    | some realization => exact ⟨realization, rfl⟩
    | none => cases (settled.sound.unprovided service published).symm.trans known
  | none =>
    have validated := (settled.recalls.validateGraph settled.sound (.inl ⟨_, known⟩)).2.2 spoken
    dsimp only
    rw [run_bind, run_callSite_of_known known]
    dsimp only
    rw [run_bind]
    cases checked : (validateGraph callSite).run engine with
    | mk result after =>
      rw [checked, judged] at validated
      cases validated
      exact ⟨_, rfl⟩

end Settled

end Engine

namespace World
variable {world : World} {id : EngineId} {host : Host}

theorem withEngine_same (sent : (world.engine id).outbox = []) :
    world.withEngine id (world.engine id) = world := by
  have same : ({ world.engine id with outbox := [] } : Engine) = world.engine id := by
    rw [← sent]
  have engines : world.engines.modify id (fun _ => world.engine id) = world.engines := by
    refine List.ext_getElem? fun place => ?_
    rw [List.getElem?_modify]
    cases listed : world.engines[place]? with
    | none => rfl
    | some engine =>
      by_cases here : id = place
      · subst here
        simp [engine_of_some listed]
      · simp [here]
  rw [withEngine, sent, same, List.foldl_nil, updateEngine, engines]

theorem Extends.grants {last : World} (grows : world.Extends last) {scope : ScopeId}
    (hosted : world.Hosts scope id) (provided : id < world.engines.length) {callSite : CallSite}
    (grants : (world.engine id).Grants callSite (world.isRoot scope)) :
    (last.engine id).Grants callSite (last.isRoot scope) := by
  rw [isRoot, grows.root_eq hosted]
  exact fun checks => grants ((grows.options id provided).2 ▸ checks)

theorem Reachable.settled {before : World} (reached : before.Reachable) (moves : before.Moves world)
    (provided : id < before.engines.length) : (world.engine id).Settled host := by
  have told := reached.atRest.toTold
  have recollects : (before.engine id).Sound ∧ (before.engine id).Recalls host :=
    (reached.consulted provided).recollects
  have start : (before.engine id).Settled host :=
    ⟨recollects.1, recollects.2, told.published id, told.sent id⟩
  exact (moves.engine_of (fun _ _ settled asked => settled.ask asked) provided start).2

theorem Moves.blueprint_eq {later : World} (moves : world.Moves later) (formed : world.WellFormed)
    (provided : id < world.engines.length) :
    (later.engine id).blueprint = (world.engine id).blueprint := by
  have asked : ∀ engine after : Engine,
      engine.Sound ∧ engine.blueprint = (world.engine id).blueprint → engine.Asked after →
        ({ after with outbox := [] } : Engine).Sound ∧
          after.blueprint = (world.engine id).blueprint := by
    rintro engine after ⟨sound, same⟩ asked
    obtain ⟨later, grown⟩ := asked.evolves sound
    exact ⟨{ later with }, grown.blueprint.trans same⟩
  exact (moves.engine_of asked provided ⟨formed.engine_sound id, rfl⟩).2.2

theorem mem_of_graph {realization : Nat} {callSite : CallSite}
    (graph : world.graph? id realization = some callSite) :
    callSite ∈ (world.engine id).realizations.map (·.callSite) := by
  obtain ⟨found, listed, rfl⟩ := Option.map_eq_some_iff.1 graph
  exact List.mem_map_of_mem (List.mem_of_getElem? listed)

/-- The provider has realized the graph, whose value belongs to the owner when the scope asks. -/
structure Seeks (world : World) (id : EngineId) (realization : Nat) (callSite : CallSite)
    (owner scope : ScopeId) : Prop where
  graph : world.graph? id realization = some callSite
  hosted : (world.scope scope).engine = id
  owned : world.ownerFor callSite.site.location scope = owner

theorem Seeks.of_same {later : World} {realization : Nat} {callSite : CallSite}
    {owner scope : ScopeId} (seeks : world.Seeks id realization callSite owner scope)
    (engines : later.engines = world.engines) (scopes : later.scopes = world.scopes) :
    later.Seeks id realization callSite owner scope := by
  refine ⟨?_, scope_of_scopes scopes scope ▸ seeks.hosted, ?_⟩
  · rw [World.graph?, World.engine, engines]
    exact seeks.graph
  · rw [ownerFor_of_scopes scopes]
    exact seeks.owned

end World

namespace Run
variable {handler : Handler} {world : World} {id : EngineId} {realization : Nat}
  {callSite : CallSite} {owner scope : ScopeId} {service : ServiceType}

def executing (engine : EngineId) (realization : Nat) (make : Run Value) : Run Value := do
  let _ ← onEngine engine (Engine.nextPlan realization : StateM Engine _)
  make

def watched (engine : EngineId) (service : ServiceType) (run : Run Value) : Run Value := do
  if ((← get).engine engine).observers.isEmpty then run else observed engine service run

def supplying (handler : Handler) (engine : EngineId) (realization : Nat) (callSite : CallSite)
    (owner : ScopeId) : Run Value :=
  watched engine callSite.site.service (executing engine realization
    (supply handler engine callSite.kind callSite.site owner (producer handler callSite owner)))

theorem run_executing (make : Run Value) : (executing id realization make).run world =
    make.run (world.withEngine id ((Engine.nextPlan realization).run (world.engine id)).2) := rfl

theorem run_execution_owned (sound : (world.engine id).Sound)
    (seeks : world.Seeks id realization callSite owner scope) :
    (execution handler id realization scope).run world =
      (executing id realization (supply handler id callSite.kind callSite.site owner
        (producer handler callSite owner))).run world := by
  obtain ⟨realized, listed, rfl⟩ := Option.map_eq_some_iff.1 seeks.graph
  obtain ⟨plan, planned⟩ : ∃ plan,
      ((Engine.nextPlan realization).run (world.engine id)).1 = some plan := by
    rw [Engine.run_nextPlan, listed]
    exact ⟨_, rfl⟩
  obtain ⟨_, follows⟩ := sound.nextPlan realization
  obtain ⟨again, found, following⟩ := follows plan planned
  cases listed.symm.trans found
  have held := sound.holds (List.mem_of_getElem? listed)
  rw [run_execution, run_executing]
  dsimp only
  rw [planned]
  dsimp only
  rw [follow_eq sound.memo held following, interpret_eq]
  have scopes : (world.withEngine id
      ((Engine.nextPlan realization).run (world.engine id)).2).scopes = world.scopes :=
    World.scopes_withEngine ..
  refine run_deliver (World.scope_of_scopes scopes scope ▸ seeks.hosted) ?_
  exact (World.ownerFor_of_scopes scopes _ _).trans seeks.owned

theorem run_observed_congr {one other : Run Value}
    (same : one.run (World.notify id world (.resolving service)) =
      other.run (World.notify id world (.resolving service))) :
    (observed id service one).run world = (observed id service other).run world := by
  rw [run_observed, run_observed, same]

theorem run_watched_congr {one other : Run Value}
    (same : ∀ later : World, later.engines = world.engines → later.scopes = world.scopes →
      one.run later = other.run later) :
    (watched id service one).run world = (watched id service other).run world := by
  unfold watched
  rw [run_look, run_look]
  split
  · exact same world rfl rfl
  · exact run_observed_congr (same _ (World.engines_notify ..) (World.scopes_notify ..))

/-- An invocation of what the scope may have is to supply the value of the graph by its owner. -/
theorem run_invoke_owned {host : Host} (settled : (world.engine id).Settled host)
    (spoken : (world.engine id).memo.Spoken host)
    (seeks : world.Seeks id realization callSite owner scope)
    (grants : (world.engine id).Grants callSite (world.isRoot scope))
    (opened : (world.scope scope).state = .open) :
    (invoke handler id realization scope).run world =
      (supplying handler id realization callSite owner).run world := by
  have validated := settled.run_validateResolution spoken (World.mem_of_graph seeks.graph) grants
  have passed : (onEngine id (Engine.validateResolution callSite (world.isRoot scope))).run world =
      some (.ok (), world) := by
    rw [run_onEngine, validated, World.withEngine_same settled.sent]
  have checked : (ensureOpen scope).run world = some (.ok (), world) := by
    rw [run_ensureOpen, if_pos opened]
  rw [invoke, run_bind_ok checked, run_look, seeks.graph]
  dsimp only
  rw [run_bind_ok passed]
  have executes : ∀ later : World, later.engines = world.engines → later.scopes = world.scopes →
      (execution handler id realization scope).run later =
        (executing id realization (supply handler id callSite.kind callSite.site owner
          (producer handler callSite owner))).run later := by
    intro later engines scopes
    refine run_execution_owned ?_ (seeks.of_same engines scopes)
    rw [World.engine, engines]
    exact settled.sound
  exact run_watched_congr executes

theorem run_resolve_realized {later : World}
    (asked : (onEngine id (Engine.realize service)).run world = some (.ok (some realization), later))
    (opened : (world.scope scope).state = .open) (hosted : (world.scope scope).engine = id) :
    (resolve handler scope service).run world =
      (some <$> invoke handler id realization scope).run later := by
  have checked : (ensureOpen scope).run world = some (.ok (), world) := by
    rw [run_ensureOpen, if_pos opened]
  rw [resolve, run_bind_ok checked, run_look]
  dsimp only
  rw [hosted, run_bind_ok asked]

theorem run_activate_mine (hosted : (world.scope scope).engine = id) :
    (activate handler ⟨id, realization⟩ scope).run world =
      (invoke handler id realization scope).run world := by
  rw [activate, run_look]
  exact run_bind_ok (by rw [run_checkEngine, if_pos hosted])

theorem run_map_congr {one other : Run α} (same : one.run world = other.run world) (f : α → β) :
    (f <$> one).run world = (f <$> other).run world := by
  rw [map_eq_pure_bind, map_eq_pure_bind]
  exact run_bind_congr same fun _ _ _ => rfl

theorem exists_of_watched {make : Run Value} {result : Except Failure Value}
    (ends : ∀ later : World, later.scopes = world.scopes →
      ∃ last, make.run later = some (result, last)) :
    ∃ last, (watched id service (executing id realization make)).run world =
      some (result, last) := by
  unfold watched
  rw [run_look]
  split
  · rw [run_executing]
    exact ends _ (World.scopes_withEngine ..)
  · obtain ⟨last, ended⟩ := ends ((World.notify id world (.resolving service)).withEngine id
      ((Engine.nextPlan realization).run
        ((World.notify id world (.resolving service)).engine id)).2)
      ((World.scopes_withEngine ..).trans (World.scopes_notify ..))
    rw [run_observed, run_executing, ended]
    exact ⟨_, rfl⟩

end Run

namespace World
variable {world : World}

/-- What a request for a service asks of an engine is a move, and no more than observers are told. -/
theorem move_of_asked {later : World} {id : EngineId} {service : ServiceType}
    (formed : world.WellFormed) {result : Except Failure (Option Nat)}
    (asked : (Run.onEngine id (Engine.realize service)).run world = some (result, later)) :
    world.Move later ∧ world.Notified id later := by
  have told := Run.notified_of_onEngine asked
  obtain ⟨_, rfl⟩ := Prod.mk.inj (Option.some.inj ((Run.run_onEngine ..).symm.trans asked))
  have asks : (world.engine id).Asked ((Engine.realize service).run (world.engine id)).2 :=
    .realize service
  obtain ⟨sound, grown⟩ := asks.evolves (formed.engine_sound id)
  exact ⟨.ask id sound grown asks, told⟩

end World
end ServiceContainer
