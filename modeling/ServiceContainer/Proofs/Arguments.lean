import ServiceContainer.Proofs.Presence
import ServiceContainer.Proofs.Typing.Requests

/-! Instances made from arguments. Main statement: whatever a provider was asked before, a constructor is
bound to what is supplied just if that suits it, and a factory gives each of its constructor's parameters
the one argument that was meant for it, or its service, or its default. -/
namespace ServiceContainer
open Stateful

namespace Engine
variable {engine later : Engine} {supplied : List ServiceType} {constructor : Constructor}

/-- No more of any service is supplied than the constructor takes, and each parameter for which nothing
is left is a service or declares a default. -/
structure Suits (engine : Engine) (supplied : List ServiceType) (constructor : Constructor) : Prop where
  few : ∀ service, supplied.count service ≤ constructor.signature.count service
  rest : ∀ (place : Nat) (parameter : Parameter), constructor.parameters[place]? = some parameter →
    supplied.count parameter.service ≤ (constructor.signature.take place).count parameter.service →
      engine.isService parameter.service = true ∨ parameter.fallback.isSome = true

section Binding
variable {host : Host} {blueprint : Blueprint} {options : Options}
  (fluent : Fluent host blueprint options engine) (describes : host.Describes blueprint)
  (taken : ∀ parameter ∈ constructor.parameters, host.Speaks parameter.service)
include fluent describes taken

theorem Fluent.keep_bindSupplied :
    Fluent host blueprint options ((Engine.bindSupplied supplied constructor).run engine).2 := by
  have closed : Compositional fun {_} (action : EngineAction _) =>
      Keeps (fun engine later : Engine => Fluent host blueprint options engine →
        Fluent host blueprint options later) action :=
    keeps_compositional (fun _ fluent => fluent) fun _ _ _ first second fluent => second (first fluent)
  refine bindSupplied_of closed.selective (fun parameter member engine fluent => ?_) supplied engine fluent
  exact (fluent.realize describes (taken parameter member) _ _ rfl).1.1

/-- What a constructor is bound to suits it. What suits it binds it, if no open definition is registered
as a collection. -/
theorem Fluent.bindSupplied_exact {binding : Binding (List ArgumentSource)}
    (ran : (Engine.bindSupplied supplied constructor).run engine = (.ok binding, later)) :
    (∀ sources, binding = .bound sources → engine.Suits supplied constructor ∧
      later.Sourced supplied [] constructor.parameters sources ∧ Deals supplied sources) ∧
    (blueprint.registry.DefinesTypes → engine.Suits supplied constructor →
      ∃ sources, binding = .bound sources) := by
  obtain ⟨⟨_, grown⟩, bound, deals⟩ := fluent.sound.bindSupplied ran
  have after : Fluent host blueprint options
      ((Engine.bindSupplied supplied constructor).run engine).2 :=
    fluent.keep_bindSupplied describes taken
  rw [ran] at after
  have same : later.blueprint = engine.blueprint := grown.blueprint
  have built : later.memo.Built later.blueprint := after.recalls.built
  constructor
  · rintro sources rfl
    obtain ⟨sourced, once⟩ := deals sources rfl
    refine ⟨⟨(bound.1 ⟨sources, rfl⟩).1, fun place parameter listed exhausted => ?_⟩, sourced, once⟩
    obtain ⟨source, _, drawn⟩ := sourced.exists_source listed
    rw [List.nil_append] at drawn
    cases drawn with
    | supplied ranked => exact absurd ranked.lt_count (Nat.not_lt.2 exhausted)
    | fallback _ _ declared => exact .inr (declared ▸ rfl)
    | service _ renders =>
      obtain ⟨_, _, known⟩ := renders
      have speaks := taken parameter (List.mem_of_getElem? listed)
      have service := isService_of_known built after.spoken speaks known
      rw [isService, same] at service
      exact .inl service
  · intro types suits
    refine bound.2 ⟨suits.few, ?_⟩
    -- A parameter that has no source was looked for, and what is not found then is no service.
    rintro ⟨parameter, member, undeclared, absent⟩
    obtain ⟨place, listed, exhausted⟩ := mem_lacking_iff.1 member
    have speaks := taken parameter (List.mem_of_getElem? listed)
    have strange := isSome_of_known built after.spoken speaks (after.blueprint.symm ▸ types) absent
    obtain service | declared := suits.rest place parameter listed exhausted
    · rw [isService, same] at strange
      exact absurd (strange.trans service) (by decide)
    · rw [undeclared] at declared
      cases declared

end Binding
end Engine

def InstanceFactory.build (factory : InstanceFactory) (handler : Handler) (values : List Value) :
    Run Value := do
  let produced ← Run.body handler
    (factory.activate { implementation := factory.implementation.name, values })
  ExceptT.mk (pure (produced.value.as factory.implementation))

namespace Run
variable {handler : Handler} {id : EngineId} {scope : ScopeId} {arguments : List Argument}

/-- What a parameter receives from its source: the caller's argument of its service, or what its service
is resolved to, or its default. -/
inductive Receives (handler : Handler) (id : EngineId) (scope : ScopeId) (arguments : List Argument)
    (parameter : Parameter) : ArgumentSource → World → Except Failure Value → World → Prop where
  | supplied {position : Nat} {argument : Argument} {world : World}
      (listed : arguments[position]? = some argument)
      (same : (argument.service == parameter.service) = true) :
      Receives handler id scope arguments parameter (.supplied position) world (.ok argument.value)
        world
  | service {number : Nat} {callSite : CallSite} {world later : World} {result : Except Failure Value}
      (graph : world.graph? id number = some callSite)
      (same : (callSite.site.service == parameter.service) = true)
      (ran : (invoke handler id number scope).run world = some (result, later)) :
      Receives handler id scope arguments parameter (.service number) world result later
  | fallback {value : Value} {world : World} (declared : parameter.fallback = some value) :
      Receives handler id scope arguments parameter (.fallback value) world (.ok value) world

/-- What the parameters receive from their sources, one after the other, up to the first failure. -/
inductive Gathers (handler : Handler) (id : EngineId) (scope : ScopeId) (arguments : List Argument) :
    List Parameter → List ArgumentSource → World → Except Failure (List Value) → World → Prop where
  | nil {world : World} : Gathers handler id scope arguments [] [] world (.ok []) world
  | miss {parameter : Parameter} {source : ArgumentSource} {parameters : List Parameter}
      {sources : List ArgumentSource} {world later : World} {failure : Failure}
      (first : Receives handler id scope arguments parameter source world (.error failure) later) :
      Gathers handler id scope arguments (parameter :: parameters) (source :: sources) world
        (.error failure) later
  | cons {parameter : Parameter} {source : ArgumentSource} {parameters : List Parameter}
      {sources : List ArgumentSource} {world between later : World} {value : Value}
      {result : Except Failure (List Value)}
      (first : Receives handler id scope arguments parameter source world (.ok value) between)
      (rest : Gathers handler id scope arguments parameters sources between result later) :
      Gathers handler id scope arguments (parameter :: parameters) (source :: sources) world
        (result.map (value :: ·)) later

section Gathering
variable {supplied services : List ServiceType} {parameter : Parameter} {source : ArgumentSource}
  {parameters : List Parameter} {sources : List ArgumentSource} {world later : World}
  (given : (arguments.map (·.service) == supplied) = true)
include given

theorem run_draw_iff (sound : (world.engine id).Sound)
    (drawn : (world.engine id).Sources supplied services parameter source)
    {result : Except Failure Value} :
    (draw handler id scope arguments source).run world = some (result, later) ↔
      Receives handler id scope arguments parameter source world result later := by
  cases drawn with
  | @supplied position ranked =>
    obtain ⟨⟨service, wanted, same⟩, _⟩ := ranked
    obtain ⟨_, listed, equal⟩ := exists_of_getElem? given wanted
    rw [List.getElem?_map] at listed
    obtain ⟨argument, there, rfl⟩ := Option.map_eq_some_iff.1 listed
    rw [draw, there]
    constructor
    · rintro ⟨⟩
      exact .supplied there (BEq.trans equal same)
    · intro received
      cases received with
      | supplied listed _ =>
        cases there.symm.trans listed
        rfl
  | service _ renders =>
    obtain ⟨callSite, graph, known⟩ := renders
    constructor
    · exact fun ran => .service graph (sound.memo.makes known) ran
    · intro received
      cases received with
      | service _ _ ran => exact ran
  | fallback _ _ declared =>
    constructor
    · rintro ⟨⟩
      exact .fallback declared
    · intro received
      cases received
      rfl

variable (answers : ∀ request, Leads (handler request))
include answers

omit given in
theorem Receives.extends (formed : world.WellFormed) (hosted : world.Hosts scope id)
    {result : Except Failure Value}
    (received : Receives handler id scope arguments parameter source world result later) :
    later.WellFormed ∧ world.Extends later := by
  cases received with
  | supplied _ _ | fallback _ => exact ⟨formed, .refl _⟩
  | service _ _ ran =>
    have reached := reaches_invoke answers formed hosted.listed.2 _ _ _ ran
    exact ⟨reached.wellFormed formed, reached.extends⟩

/-- The sources that the engine has for parameters give each of them what is meant for it. -/
theorem run_gather_iff (formed : world.WellFormed) (hosted : world.Hosts scope id)
    (sourced : (world.engine id).Sourced supplied services parameters sources)
    {result : Except Failure (List Value)} :
    (gather handler id scope arguments sources).run world = some (result, later) ↔
      Gathers handler id scope arguments parameters sources world result later := by
  induction parameters generalizing sources services world result with
  | nil =>
    obtain rfl := List.length_eq_zero_iff.1 sourced.length
    constructor
    · rintro ⟨⟩
      exact .nil
    · intro gathered
      cases gathered
      rfl
  | cons parameter parameters ih =>
    obtain ⟨source, sources, rfl⟩ := List.exists_cons_of_length_eq_add_one sourced.length
    have drawn (between : World) (ended : Except Failure Value) :
        (draw handler id scope arguments source).run world = some (ended, between) ↔
          Receives handler id scope arguments parameter source world ended between :=
      run_draw_iff given (formed.engine_sound id) sourced.head
    -- The first parameter's service may change the world, but the sources of the others last.
    have rest {value : Value} {between : World} (received :
          Receives handler id scope arguments parameter source world (.ok value) between)
        {result : Except Failure (List Value)} :
        (gather handler id scope arguments sources).run between = some (result, later) ↔
          Gathers handler id scope arguments parameters sources between result later := by
      obtain ⟨formed, grown⟩ := received.extends answers formed hosted
      exact ih formed (grown.hosts hosted)
        (sourced.tail.mono (grown.memo id) fun _ _ graph => grown.graph? graph)
    rw [gather, bind_eq_some_iff]
    simp only [drawn]
    constructor
    · rintro (⟨value, between, received, ran⟩ | ⟨failure, missed, rfl⟩)
      · obtain ⟨values, last, gathered, ended⟩ | ⟨failure, failed, rfl⟩ := bind_eq_some ran
        · cases ended
          exact .cons received ((rest received).1 gathered)
        · exact .cons received ((rest received).1 failed)
      · exact .miss missed
    · intro gathered
      cases gathered with
      | miss missed => exact .inr ⟨_, missed, rfl⟩
      | @cons _ _ _ _ _ between _ value result received others =>
        refine .inl ⟨value, between, received, bind_eq_some_iff.2 ?_⟩
        cases result with
        | ok values => exact .inl ⟨values, later, (rest received).2 others, rfl⟩
        | error failure => exact .inr ⟨failure, (rest received).2 others, rfl⟩

end Gathering
end Run

namespace World
variable {before world : World} {id : EngineId} {host : Host} {supplied : List ServiceType}

/-- What comes of requests to a factory whose constructor has the parameters. Scopes of other providers,
scopes that are not open, and arguments of other services are refused before anything happens. Otherwise
each parameter receives what is meant for it, and the constructor gets that in order. -/
structure Instantiates (world : World) (number : FactoryId) (factory : InstanceFactory)
    (parameters : List Parameter) : Prop where
  foreign : ∀ (fuel : Nat) (scope : ScopeId) (arguments : List Argument),
    (world.scope scope).engine ≠ factory.engine →
      Container.perform (fuel + 1) (.create number scope arguments) world =
        some (.error (.activation factory.implementation.name
          "scope belongs to a different provider"), world)
  closed : ∀ (fuel : Nat) (scope : ScopeId) (arguments : List Argument),
    (world.scope scope).engine = factory.engine → (world.scope scope).state ≠ .open →
      Container.perform (fuel + 1) (.create number scope arguments) world =
        some (.error .scopeDisposed, world)
  mismatched : ∀ (fuel : Nat) (scope : ScopeId) (arguments : List Argument),
    (world.scope scope).engine = factory.engine → (world.scope scope).state = .open →
      (arguments.map (·.service) == factory.supplied) = false →
        Container.perform (fuel + 1) (.create number scope arguments) world =
          some (.error (.activation factory.implementation.name
            ("expected arguments " ++ ServiceType.displayAll factory.supplied ++ ", got " ++
              ServiceType.displayAll (arguments.map (·.service)))), world)
  matched : ∀ (fuel : Nat) (scope : ScopeId) (arguments : List Argument),
    (world.scope scope).engine = factory.engine → (world.scope scope).state = .open →
      (arguments.map (·.service) == factory.supplied) = true → ∀ result later,
        Container.perform (fuel + 1) (.create number scope arguments) world = some (result, later) ↔
          (∃ values between, Run.Gathers (Container.perform fuel) factory.engine scope arguments
              parameters factory.sources world (.ok values) between ∧
            (factory.build (Container.perform fuel) values).run between = some (result, later)) ∨
          ∃ failure, Run.Gathers (Container.perform fuel) factory.engine scope arguments parameters
              factory.sources world (.error failure) later ∧ result = .error failure

section Instances
variable {number : FactoryId} {factory : InstanceFactory} {services : List ServiceType}
  {parameters : List Parameter}

theorem run_create (listed : world.factories[number]? = some factory) (fuel : Nat) (scope : ScopeId)
    (arguments : List Argument) :
    Container.perform (fuel + 1) (.create number scope arguments) world =
      (do
        Run.checkEngine factory.engine scope factory.implementation.name
        Run.ensureOpen scope
        if arguments.map (·.service) == factory.supplied then
          let values ← Run.gather (Container.perform fuel) factory.engine scope arguments
            factory.sources
          factory.build (Container.perform fuel) values
        else
          throw (.activation factory.implementation.name
            ("expected arguments " ++ ServiceType.displayAll factory.supplied ++ ", got " ++
              ServiceType.displayAll (arguments.map (·.service)))) : Run Value).run world := by
  change (Run.create _ number scope arguments).run world = _
  rw [Run.create, Run.run_look, listed]
  rfl

theorem instantiates (formed : world.WellFormed) (listed : world.factories[number]? = some factory)
    (sourced : (world.engine factory.engine).Sourced factory.supplied services parameters
      factory.sources) : world.Instantiates number factory parameters := by
  have mine {scope : ScopeId} (hosted : (world.scope scope).engine = factory.engine) :
      (Run.checkEngine factory.engine scope factory.implementation.name).run world =
        some (.ok (), world) := by
    rw [Run.run_checkEngine, if_pos hosted]
  have allowed {scope : ScopeId} (opened : (world.scope scope).state = .open) :
      (Run.ensureOpen scope).run world = some (.ok (), world) := by
    rw [Run.run_ensureOpen, if_pos opened]
  constructor
  case foreign =>
    intro fuel scope arguments strange
    rw [run_create listed]
    exact Run.run_bind_error (by rw [Run.run_checkEngine, if_neg strange])
  case closed =>
    intro fuel scope arguments hosted shut
    rw [run_create listed, Run.run_bind_ok (mine hosted)]
    exact Run.run_bind_error (by rw [Run.run_ensureOpen, if_neg shut])
  case mismatched =>
    intro fuel scope arguments hosted opened other
    rw [run_create listed, Run.run_bind_ok (mine hosted), Run.run_bind_ok (allowed opened), other]
    rfl
  case matched =>
    intro fuel scope arguments hosted opened given result later
    have inside : world.Hosts scope factory.engine := hosted ▸ .of_state (by simp [opened])
    rw [run_create listed, Run.run_bind_ok (mine hosted), Run.run_bind_ok (allowed opened),
      if_pos given, Run.bind_eq_some_iff]
    simp only [Run.run_gather_iff given (Container.leads_perform fuel) formed inside sourced]

end Instances

theorem exists_of_prepare (formed : world.WellFormed) (provided : id < world.engines.length)
    {implementation : TypeInfo} {number : FactoryId} {prepared : World}
    (ran : (Run.prepare id implementation supplied).run world = some (.ok number, prepared)) :
    ∃ chosen ∈ (world.engine id).blueprint.catalog.constructors implementation.id, ∃ sources,
      prepared.factories[number]? =
        some ⟨id, implementation, supplied, chosen.activate, sources⟩ ∧
      (prepared.engine id).Sourced supplied [] chosen.parameters sources ∧
      Engine.Deals supplied sources := by
  obtain ⟨⟨chosen, sources⟩, between, chose, added⟩ | ⟨_, _, failed⟩ := Run.bind_eq_some ran
  · cases added
    rw [Run.run_onEngine] at chose
    cases prepares : (Engine.prepare implementation supplied).run (world.engine id) with
    | mk result engine =>
      rw [prepares] at chose
      cases chose
      have listed : world.engines[id]? ≠ none := by simp [provided]
      obtain ⟨member, sourced, deals⟩ :=
        (Engine.gives_dealt (formed.engine_sound id) implementation supplied _ _ prepares).2
      refine ⟨chosen, member, sources, List.getElem?_concat_length, ?_, deals⟩
      have left : (world.withEngine id engine).engine id = { engine with outbox := [] } := by
        rw [engine_withEngine, if_pos ⟨rfl, listed⟩]
      change ((world.withEngine id engine).engine id).Sourced supplied [] chosen.parameters sources
      rw [left]
      exact Engine.Sourced.mono (.refl engine.memo) (fun _ _ graph => graph) sourced
  · cases failed

/-- Whatever a provider was asked, the binding of a constructor returns if what it lacks can be realized.
What it is bound to suits it, and the sources use each supplied position once, those of one service in
order. What suits it binds it, if no open definition is registered as a collection: such a collection is a
service, but may not be found. A factory that is prepared makes instances so, at any later time. -/
theorem Reachable.arguments_exact (reached : before.Reachable) (moves : before.Moves world)
    (provided : id < before.engines.length) {blueprint : Blueprint}
    (made : (world.engine id).blueprint = blueprint) (describes : host.Describes blueprint)
    (spoken : (world.engine id).memo.Spoken host) (supplied : List ServiceType) :
    (∀ constructor : Constructor,
      (∀ parameter ∈ constructor.parameters, host.Speaks parameter.service) →
        (∀ found later, ((Engine.lacking supplied [] constructor.parameters).mapM fun parameter =>
            Engine.realize parameter.service).run (world.engine id) = (.ok found, later) →
          ∃ binding last,
            (Engine.bindSupplied supplied constructor).run (world.engine id) = (.ok binding, last)) ∧
        ∀ binding later,
          (Engine.bindSupplied supplied constructor).run (world.engine id) = (.ok binding, later) →
            (∀ sources, binding = .bound sources → (world.engine id).Suits supplied constructor ∧
              later.Sourced supplied [] constructor.parameters sources ∧
              Engine.Deals supplied sources) ∧
            (blueprint.registry.DefinesTypes → (world.engine id).Suits supplied constructor →
              ∃ sources, binding = .bound sources)) ∧
    ∀ fuel implementation number prepared,
      Container.perform (fuel + 1) (.prepare id implementation supplied) world =
          some (.ok number, prepared) →
        ∃ chosen ∈ blueprint.catalog.constructors implementation.id, ∃ sources,
          (prepared.engine id).Sourced supplied [] chosen.parameters sources ∧
          Engine.Deals supplied sources ∧
          prepared.factories[number]? =
            some ⟨id, implementation, supplied, chosen.activate, sources⟩ ∧
          ∀ last, prepared.Moves last → last.Instantiates number
            ⟨id, implementation, supplied, chosen.activate, sources⟩ chosen.parameters := by
  subst made
  have consulted := moves.consulted provided (reached.consulted provided)
  have formed : world.WellFormed := moves.steps.wellFormed reached.wellFormed
  have inside : id < world.engines.length := (moves.extends.options id provided).1
  refine ⟨fun constructor taken => ⟨fun _ _ => Engine.exists_bindSupplied, fun binding later ran => ?_⟩,
    fun fuel implementation number prepared ran => ?_⟩
  · exact (consulted.fluent spoken).bindSupplied_exact describes taken ran
  · obtain ⟨chosen, member, sources, stored, sourced, deals⟩ := exists_of_prepare formed inside ran
    refine ⟨chosen, member, sources, sourced, deals, stored, fun last further => ?_⟩
    have reaches := Run.leads_prepare id implementation supplied world formed _ prepared ran
    have still : (last.engine id).Sourced supplied [] chosen.parameters sources :=
      sourced.mono (further.extends.memo id) fun _ _ graph => further.extends.graph? graph
    have kept := further.extends.factory stored
    exact instantiates (further.steps.wellFormed (reaches.wellFormed formed)) kept still

section Sample

theorem exists_ok {α : Type} {action : EngineAction α} {engine : Engine}
    (ends : (action.run engine).1.toOption.isSome = true) :
    ∃ value later, action.run engine = (.ok value, later) := by
  cases ran : action.run engine with
  | mk result later =>
    rw [ran] at ends
    cases result with
    | error failure => cases ends
    | ok value => exact ⟨value, later, rfl⟩

def isMissing {β : Type} : Binding β → Bool
  | .bound _ => false
  | .missing _ => true

def framed : Constructor :=
  assembling stage [⟨.plain curtain, none⟩, ⟨.plain lamp, none⟩, ⟨.plain curtain, some (.list [])⟩]

theorem suits_framed : (opening.engine 0).Suits [.plain curtain] framed where
  few service := List.Sublist.count_le service (List.sublist_append_left [ServiceType.plain curtain] _)
  rest place parameter listed exhausted := by
    match place with
    | 0 =>
      cases listed
      exact absurd exhausted (by decide)
    | 1 =>
      cases listed
      exact .inl (by decide +kernel)
    | 2 =>
      cases listed
      exact .inr rfl
    | _ + 3 => cases listed

/-- A rack for anything, registered as the collection of all lamps. -/
def annexed : Blueprint where
  registry := ⟨[⟨.collection (.plain lamp), .transient, .openGeneric rack⟩]⟩

/-- The provider's world after it has found the graph of all collections of lamps. -/
def annex : World := afterAsking annexed [.collection (.collection (.plain lamp))]

def lit : Constructor := assembling stage [⟨.collection (.plain lamp), none⟩]

theorem suits_lit : (annex.engine 0).Suits [] lit where
  few service := Nat.zero_le _
  rest place parameter listed _ := by
    match place with
    | 0 =>
      cases listed
      exact .inl (by decide +kernel)
    | _ + 1 => cases listed

end Sample

/-- A curtain that is supplied goes to the first of two parameters, the second one has a default, and the
lamp between them is resolved; a factory of stages takes the curtain in place of its default. -/
theorem arguments_exact_framed :
    (∃ sources later, (Engine.bindSupplied [.plain curtain] framed).run (opening.engine 0) =
        (.ok (.bound sources), later) ∧
      later.Sourced [.plain curtain] [] framed.parameters sources ∧
      Engine.Deals [.plain curtain] sources) ∧
    ∃ number prepared, Container.perform 1 (.prepare 0 stage [.plain curtain]) opening =
        some (.ok number, prepared) ∧
      ∃ chosen ∈ staged.catalog.constructors stage.id, ∃ sources,
        Engine.Deals [.plain curtain] sources ∧
        prepared.Instantiates number ⟨0, stage, [.plain curtain], chosen.activate, sources⟩
          chosen.parameters := by
  have provided : 0 < opening.engines.length := by decide +kernel
  have spoken : (opening.engine 0).memo.Spoken theater := Memo.spoken_of_calls (by decide +kernel)
  have called : ∀ parameter ∈ framed.parameters, theater.calls parameter.service = true := by
    decide +kernel
  have taken : ∀ parameter ∈ framed.parameters, theater.Speaks parameter.service :=
    fun parameter member => Host.speaks_of_calls (called parameter member)
  obtain ⟨binds, prepares⟩ := reachable_opening.arguments_exact .refl provided rfl describes_staged
    spoken [.plain curtain]
  constructor
  · have ends : (((Engine.lacking [.plain curtain] [] framed.parameters).mapM fun parameter =>
        Engine.realize parameter.service).run (opening.engine 0)).1.toOption.isSome = true := by
      decide +kernel
    obtain ⟨found, _, realized⟩ := exists_ok ends
    obtain ⟨binding, later, ran⟩ := (binds framed taken).1 _ _ realized
    obtain ⟨holds, bound⟩ := (binds framed taken).2 binding later ran
    obtain ⟨sources, rfl⟩ := bound foreign_staged.uncollected.definesTypes suits_framed
    obtain ⟨_, sourced, deals⟩ := holds sources rfl
    exact ⟨sources, later, ran, sourced, deals⟩
  · have ends : ((Run.prepare 0 stage [.plain curtain]).run opening).any
        (·.1.toOption.isSome) = true := by decide +kernel
    obtain ⟨⟨result, prepared⟩, ran, succeeds⟩ := (Option.any_eq_true ..).1 ends
    cases result with
    | error failure => cases succeeds
    | ok number =>
      obtain ⟨chosen, member, sources, _, deals, _, makes⟩ := prepares 0 stage number prepared ran
      exact ⟨number, prepared, ran, chosen, member, sources, deals, makes prepared .refl⟩

/-- A provider that was asked for all collections of lamps does not find an open definition which is
registered as the collection of all lamps, and does not bind a constructor that this suits. -/
theorem suits_unbound :
    annex.Reachable ∧ 0 < annex.engines.length ∧ (annex.engine 0).Suits [] lit ∧
      (∃ found later, ((Engine.lacking [] [] lit.parameters).mapM fun parameter =>
        Engine.realize parameter.service).run (annex.engine 0) = (.ok found, later)) ∧
      ∃ binding later, (Engine.bindSupplied [] lit).run (annex.engine 0) = (.ok binding, later) ∧
        ∀ sources, binding ≠ .bound sources := by
  refine ⟨reachable_afterAsking annexed _, by decide +kernel, suits_lit,
    exists_ok (by decide +kernel), ?_⟩
  have misses : ((Engine.bindSupplied [] lit).run (annex.engine 0)).1.toOption.any isMissing = true := by
    decide +kernel
  obtain ⟨binding, found, missing⟩ := (Option.any_eq_true ..).1 misses
  obtain ⟨_, later, ran⟩ := exists_ok (Option.isSome_iff_exists.2 ⟨binding, found⟩)
  rw [ran] at found
  cases found
  refine ⟨binding, later, ran, ?_⟩
  rintro _ rfl
  cases missing

end World
end ServiceContainer
