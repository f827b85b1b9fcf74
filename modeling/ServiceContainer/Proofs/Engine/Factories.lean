import ServiceContainer.Proofs.CallSite.Activation
import ServiceContainer.Proofs.Engine.Tracking

/-! Instance factories for which nothing is supplied. Their constructor is chosen as that of a
registered type is, but each service that it may take is realized, and so checked, by itself. Main
statement: such a factory can be made if and only if the type's service can be realized and, with
checks on, no graph captures that the choice asks for; and then both have the same constructor with
the same graphs. -/
namespace ServiceContainer
open Query Stateful

theorem Blueprint.not_captures_fallback {service : ServiceType} {value : Value} :
    ¬(fallbackCallSite service value).Captures := by
  intro captures
  rcases CallSite.captures_iff.1 captures with ⟨root, _⟩ | ⟨_, member, _⟩
  · cases root
  · cases member

/-- A service that is made anew each time captures nothing if its parameters' graphs do not. -/
theorem Blueprint.allow_activated {options : Options} {service : ServiceType}
    {descriptor : Descriptor} {type : TypeInfo} {cast : Option InterfaceCast}
    {choice : Constructor × List CallSite} (transient : descriptor.lifetime = .transient)
    (allowed : ∀ callSite ∈ choice.2, options.Allow callSite) :
    options.Allow (activated service descriptor type cast choice) := by
  intro checked captures
  rcases CallSite.captures_iff.1 captures with ⟨root, _⟩ | ⟨child, member, captures⟩
  · have kept : descriptor.lifetime.location = .root := root
    rw [transient] at kept
    cases kept
  · exact allowed child member checked captures

namespace Engine

def graph? (engine : Engine) (number : Nat) : Option CallSite :=
  engine.realizations[number]?.map (·.callSite)

/-- The parameters' arguments are, in order, realizations of the graphs, or the defaults. -/
inductive Fills (engine : Engine) :
    List Parameter → List ArgumentSource → List CallSite → Prop where
  | nil : Fills engine [] [] []
  | service {parameter : Parameter} {parameters : List Parameter} {number : Nat}
      {callSite : CallSite} {sources : List ArgumentSource} {callSites : List CallSite}
      (realized : engine.graph? number = some callSite)
      (rest : Fills engine parameters sources callSites) :
      Fills engine (parameter :: parameters) (.service number :: sources) (callSite :: callSites)
  | fallback {parameter : Parameter} {parameters : List Parameter} {value : Value}
      {sources : List ArgumentSource} {callSites : List CallSite}
      (default : parameter.fallback = some value)
      (rest : Fills engine parameters sources callSites) :
      Fills engine (parameter :: parameters) (.fallback value :: sources)
        (Blueprint.fallbackCallSite parameter.service value :: callSites)

variable {engine later : Engine} {host : Host} {blueprint : Blueprint} {options : Options}

theorem Extends.graph? (grown : engine.Extends later) {number : Nat} {callSite : CallSite}
    (realized : engine.graph? number = some callSite) : later.graph? number = some callSite := by
  rw [Engine.graph?, ← List.getElem?_map] at realized ⊢
  exact getElem?_mono grown.realizations realized

theorem Fills.mono {parameters : List Parameter} {sources : List ArgumentSource}
    {callSites : List CallSite} (fills : engine.Fills parameters sources callSites)
    (grown : engine.Extends later) : later.Fills parameters sources callSites := by
  induction fills with
  | nil => exact .nil
  | service realized _ ih => exact .service (grown.graph? realized) ih
  | fallback default _ ih => exact .fallback default ih

def Realized (engine : Engine) (number : Option Nat) (found : Option CallSite) : Prop :=
  Option.Rel (fun number callSite => engine.graph? number = some callSite) number found

theorem follows_request_iff {step : Target → Memo → Option CallSite → Memo → Prop} {target : Target}
    {memo last : Memo} {found : Option CallSite} :
    Follows step (request target) memo (.ok found) last ↔ step target memo found last := by
  constructor
  · rintro (_ | ⟨answered, rest⟩)
    cases rest
    exact answered
  · exact fun answered => .ask answered (.done _)

theorem Fluent.validateGraph (fluent : Fluent host blueprint options engine) {callSite : CallSite}
    (held : engine.memo.Holds callSite) :
    ∃ later, (validateGraph callSite).run engine = (judge options callSite, later) ∧
      Fluent host blueprint options later ∧ engine.Extends later ∧ later.memo = engine.memo := by
  obtain ⟨remembers, same, judged⟩ := fluent.recalls.validateGraph fluent.sound held
  cases validated : (Engine.validateGraph callSite).run engine with
  | mk result later =>
    obtain ⟨⟨sound, grown⟩, _⟩ := fluent.sound.validateGraph held validated
    rw [validated] at remembers same judged
    have verdict : result = judge options callSite := fluent.options ▸ judged fluent.spoken
    exact ⟨later, by rw [verdict], ⟨grown.blueprint.trans fluent.blueprint,
      grown.options.trans fluent.options, sound, remembers, same ▸ fluent.spoken⟩, grown, same⟩

theorem Fluent.withRealization (fluent : Fluent host blueprint options engine)
    {service : ServiceType} {callSite : CallSite}
    (answered : engine.memo.lookup ⟨service, 0⟩ = some (some callSite))
    (allowed : options.Allow callSite) :
    Fluent host blueprint options (engine.withRealization service callSite) ∧
      engine.Extends (engine.withRealization service callSite) ∧
      (engine.withRealization service callSite).graph? engine.realizations.length =
        some callSite := by
  obtain ⟨rfl, rfl, sound, recalls, spoken⟩ := fluent
  obtain ⟨after, grown⟩ := sound.withRealization answered fun checked _ =>
    CallSite.sheltered_iff.2 (allowed checked)
  refine ⟨⟨rfl, rfl, after, { recalls with }, spoken⟩, grown, ?_⟩
  simp [graph?, Engine.withRealization]

section Realizing
variable (describes : host.Describes blueprint) {service : ServiceType}
  (speaks : host.Speaks service)
include describes speaks

theorem Fluent.callSite (fluent : Fluent host blueprint options engine)
    {result : Except Failure (Option CallSite)}
    (built : (callSite service).run engine = (result, later)) :
    (Fluent host blueprint options later ∧ engine.Extends later) ∧
      blueprint.Finds [] (.target (.single service)) engine.memo result later.memo := by
  obtain ⟨rfl, rfl, sound, recalls, spoken⟩ := fluent
  have proper : engine.blueprint.Proper host (.single service) := ⟨speaks, trivial⟩
  obtain ⟨⟨after, grown⟩, _⟩ := sound.callSite built
  have remembers := recalls.build sound proper.lists (engine.blueprint.chainBound service)
  have described := sound.spoken_build describes spoken proper (engine.blueprint.chainBound service)
  rw [run_callSite] at built
  have ran : (EngineAction.onMemo (engine.blueprint.buildWithin
      (engine.blueprint.chainBound service) [] (.single service))).run engine = (result, later) := built
  rw [ran] at remembers described
  have found : ((engine.blueprint.callSite service).run engine.memo) = (result, later.memo) := by
    cases ended : (engine.blueprint.callSite service).run engine.memo with
    | mk outcome memo =>
      rw [run_onMemo ended] at built
      cases built
      rfl
  have within : engine.blueprint.Within service (.single service) :=
    ⟨engine.blueprint.mem_mentioned_self service, Nat.zero_le _⟩
  exact ⟨⟨⟨grown.blueprint, grown.options, after, remembers, described⟩, grown⟩,
    Blueprint.Nested.nil.finds within le_rfl found⟩

/-- To realize a service is to find its graph by itself, and to check it. -/
theorem Fluent.realize (fluent : Fluent host blueprint options engine) :
    Tracks host blueprint options engine Realized (realize service) (request (.single service)) := by
  intro result later ran
  rw [Engine.realize, run_get_bind] at ran
  cases published : engine.published.lookup service with
  | some number =>
    rw [published] at ran
    cases ran
    refine ⟨⟨fluent, .refl engine⟩, ?_, by rintro _ ⟨⟩⟩
    rintro _ ⟨⟩
    cases number with
    | none =>
      have recorded := fluent.sound.unprovided service published
      exact ⟨none, .none, follows_request_iff.2 ⟨.known recorded, by rintro _ ⟨⟩⟩⟩
    | some number =>
      obtain ⟨realization, listed, recorded⟩ := fluent.sound.provided service number published
      refine ⟨some realization.callSite, .some ?_, follows_request_iff.2 ⟨.known recorded, ?_⟩⟩
      · rw [graph?, listed, Option.map_some]
      · rintro _ ⟨⟩ checked
        have sheltered := fluent.sound.sheltered (fluent.options ▸ checked) fluent.spoken.lawful
        exact CallSite.sheltered_iff.1 (sheltered realization (List.mem_of_getElem? listed))
  | none =>
    rw [published] at ran
    dsimp only at ran
    obtain ⟨found, between, built, ran⟩ | ⟨failure, failed, rfl⟩ := run_bind_eq ran
    · obtain ⟨⟨fluently, grown⟩, located⟩ := fluent.callSite describes speaks built
      obtain ⟨_, recorded⟩ := fluent.sound.callSite built
      cases found with
      | none =>
        cases ran
        obtain ⟨after, further⟩ := fluently.sound.withAbsence (recorded none rfl)
        refine ⟨⟨⟨fluently.blueprint, fluently.options, after, { fluently.recalls with },
          fluently.spoken⟩, grown.trans further⟩, ?_, by rintro _ ⟨⟩⟩
        rintro _ ⟨⟩
        exact ⟨none, .none, follows_request_iff.2 ⟨located, by rintro _ ⟨⟩⟩⟩
      | some callSite =>
        have answered := recorded _ rfl
        obtain ⟨after, validated, again, further, same⟩ :=
          fluently.validateGraph (.inl ⟨_, answered⟩)
        rw [run_bind, validated] at ran
        rw [← same] at answered located
        cases judged : judge options callSite with
        | ok _ =>
          rw [judged] at ran
          cases ran
          have allowed := judge_eq_ok_iff_allow.1 judged
          obtain ⟨last, added, realized⟩ := again.withRealization answered allowed
          refine ⟨⟨last, (grown.trans further).trans added⟩, ?_, by rintro _ ⟨⟩⟩
          rintro _ ⟨⟩
          refine ⟨some callSite, .some realized, follows_request_iff.2 ⟨located, ?_⟩⟩
          rintro _ ⟨⟩
          exact allowed
        | error failure =>
          rw [judged] at ran
          cases ran
          refine ⟨⟨again, grown.trans further⟩, by rintro _ ⟨⟩, fun _ _ outcome last follows => ?_⟩
          obtain ⟨admitted, allowed⟩ := follows_request_iff.1 follows
          obtain ⟨rfl, _⟩ := Blueprint.locates_unique _ _ _ _ _ _ located admitted
          cases judged.symm.trans (judge_eq_ok_iff_allow.2 (allowed callSite rfl))
    · obtain ⟨kept, located⟩ := fluent.callSite describes speaks failed
      refine ⟨kept, by rintro _ ⟨⟩, fun _ _ outcome last follows => ?_⟩
      cases (Blueprint.Finds.unique located (follows_request_iff.1 follows).1).1

end Realizing

section Preparing
variable (describes : host.Describes blueprint)
include describes

theorem Fluent.bindSources {parameters : List Parameter}
    (taken : ∀ parameter ∈ parameters, host.Speaks parameter.service)
    (fluent : Fluent host blueprint options engine) :
    Tracks host blueprint options engine
      (fun engine => Bindings fun found callSites => engine.Fills parameters found.1 callSites)
      (bindSources [] [] parameters) (Blueprint.bindParameters request parameters) := by
  induction parameters generalizing engine with
  | nil => exact .pure fluent (.bound .nil)
  | cons parameter rest ih =>
    have others : ∀ other ∈ rest, host.Speaks other.service := fun other member =>
      taken other (List.mem_cons_of_mem _ member)
    have unsupplied : firstUnused [] [] parameter.service = none := rfl
    rw [Engine.bindSources, sourceOf, unsupplied, Blueprint.bindParameters]
    simp only [bind_assoc, pure_bind]
    refine (fluent.realize describes (taken parameter List.mem_cons_self)).bind
      fun number found later fluent _ realized => ?_
    cases realized with
    | some realized =>
      refine (ih others fluent).bind fun binding answer last fluent grown bindings => ?_
      cases bindings with
      | missing service => exact .pure fluent (.missing service)
      | bound fills => exact .pure fluent (.bound (.service (grown.graph? realized) fills))
    | none =>
      cases default : parameter.fallback with
      | none => exact .pure fluent (.missing _)
      | some value =>
        refine (ih others fluent).bind fun binding answer last fluent _ bindings => ?_
        cases bindings with
        | missing service => exact .pure fluent (.missing service)
        | bound fills => exact .pure fluent (.bound (.fallback default fills))

theorem Fluent.bindSupplied {constructor : Constructor}
    (taken : ∀ parameter ∈ constructor.parameters, host.Speaks parameter.service)
    (fluent : Fluent host blueprint options engine) :
    Tracks host blueprint options engine
      (fun engine => Bindings (engine.Fills constructor.parameters))
      (bindSupplied [] constructor) (Blueprint.bindParameters request constructor.parameters) := by
  rw [Engine.bindSupplied, ← bind_pure (Blueprint.bindParameters request constructor.parameters)]
  refine (fluent.bindSources describes taken).bind fun binding answer later fluent _ bindings => ?_
  cases bindings with
  | missing service => exact .pure fluent (.missing service)
  | bound fills => exact .pure fluent (.bound fills)

/-- To prepare a factory for which nothing is supplied is to choose among the constructors. -/
theorem Fluent.prepare (fluent : Fluent host blueprint options engine) (type : TypeInfo) :
    Tracks host blueprint options engine
      (Paired fun engine constructor => engine.Fills constructor.parameters)
      (prepare type []) (blueprint.selection type) := by
  intro result later ran
  rw [Engine.prepare, run_get_bind, fluent.blueprint] at ran
  refine Tracks.select (fun _ _ _ _ _ grown fills => fills.mono grown) (fun constructor listed => ?_)
    fluent _ result later ran
  exact fun _ fluent => fluent.bindSupplied describes (describes.taken _ _ listed)

end Preparing

theorem Consulted.fluent (consulted : engine.Consulted) (spoken : engine.memo.Spoken host) :
    Fluent host engine.blueprint engine.options engine := by
  obtain ⟨sound, recalls⟩ : engine.Sound ∧ engine.Recalls host := consulted.recollects
  exact ⟨rfl, rfl, sound, recalls, spoken⟩

section Factories
variable {service : ServiceType} {descriptor : Descriptor} {type : TypeInfo}
  {cast : Option InterfaceCast} (describes : host.Describes blueprint)
  (speaks : host.Speaks service) (activates : blueprint.Activates service descriptor type cast)
  (fluent : Fluent host blueprint options engine)
include describes speaks activates fluent

/-- What a realization of the service has found: a graph that the choice among the constructors
made, if it is the choice of graphs which are each found by itself. -/
theorem Fluent.chosen_of_realize {found : Option Nat}
    (realized : (Engine.realize service).run engine = (.ok found, later)) :
    ∃ number choice between, found = some number ∧
      later.graph? number = some (Blueprint.activated service descriptor type cast choice) ∧
      Follows (blueprint.Locates []) (blueprint.selection type) engine.memo (.ok choice) between ∧
      between.Grows later.memo := by
  obtain ⟨_, reached, _⟩ := fluent.realize describes speaks _ _ realized
  obtain ⟨outcome, related, follows⟩ := reached found rfl
  obtain ⟨located, _⟩ := follows_request_iff.1 follows
  obtain ⟨choice, between, chosen, rfl, grows⟩ :=
    activates.exists_choice speaks fluent.built fluent.spoken located
  cases related with
  | some graph => exact ⟨_, choice, between, rfl, graph, chosen, grows⟩

theorem Fluent.realize_of_follows (transient : descriptor.lifetime = .transient)
    {choice : Constructor × List CallSite} {between : Memo}
    (follows : Follows (blueprint.Admits options) (blueprint.selection type) engine.memo (.ok choice)
      between) :
    ∃ found, (Engine.realize service).run engine =
        (.ok found, ((Engine.realize service).run engine).2) ∧
      between.Grows ((Engine.realize service).run engine).2.memo := by
  have yields : Yields (fun _ found => ∀ callSite ∈ found, options.Allow callSite)
      (blueprint.selection type) (.ok choice) := follows.yields fun _ _ _ _ admitted => admitted.2
  have bound := Blueprint.forall₂_of_bindParameters (Yields.of_select yields).2
  have allowed : ∀ callSite ∈ choice.2, options.Allow callSite := by
    intro callSite member
    obtain ⟨parameter, _, binds⟩ := exists_of_forall₂ bound member
    cases binds with
    | found allowed => exact allowed callSite rfl
    | fallback => exact fun _ captures => Blueprint.not_captures_fallback captures
  obtain ⟨last, located, grows⟩ := activates.exists_located speaks describes fluent.built
    fluent.spoken (follows.mono fun _ _ _ _ admitted => admitted.1)
  cases realized : (Engine.realize service).run engine with
  | mk result later =>
    obtain ⟨_, reached, refused⟩ := fluent.realize describes speaks _ _ realized
    have passes : Follows (blueprint.Admits options) (request (.single service)) engine.memo
        (.ok (some (Blueprint.activated service descriptor type cast choice))) last := by
      refine follows_request_iff.2 ⟨located, ?_⟩
      rintro _ ⟨⟩
      exact Blueprint.allow_activated transient allowed
    cases result with
    | error failure => exact absurd passes (refused failure rfl _ _)
    | ok found =>
      obtain ⟨outcome, _, again⟩ := reached found rfl
      obtain ⟨_, rfl⟩ := passes.unique admits_unique again
      exact ⟨found, rfl, grows⟩

end Factories

/-- An instance factory for which nothing is supplied can be made if and only if the type's service
can be realized and, with checks on, no graph captures that the choice among the constructors asks
for. If both can be, both have one constructor, and each of its arguments has the graph of the
parameter, or is its default. -/
theorem Consulted.prepare_iff (consulted : engine.Consulted)
    (describes : host.Describes engine.blueprint) (spoken : engine.memo.Spoken host)
    {service : ServiceType} (speaks : host.Speaks service) {descriptor : Descriptor}
    {type : TypeInfo} {cast : Option InterfaceCast}
    (activates : engine.blueprint.Activates service descriptor type cast)
    (transient : descriptor.lifetime = .transient) :
    let prepared := (prepare type []).run engine
    let realized := (realize service).run engine
    let selection := engine.blueprint.selection type
    ((∃ choice, prepared.1 = .ok choice) ↔
      (∃ found, realized.1 = .ok found) ∧ (engine.options.validateScopes = true →
        ∀ asked callSite, Query.Reaches realized.2.memo.Records selection asked →
          realized.2.memo.Records asked (some callSite) → ¬callSite.Captures)) ∧
    ∀ chosen sources found, prepared.1 = .ok (chosen, sources) → realized.1 = .ok found →
      ∃ number callSites, found = some number ∧
        Yields realized.2.memo.Records selection (.ok (chosen, callSites)) ∧
        realized.2.graph? number =
          some (Blueprint.activated service descriptor type cast (chosen, callSites)) ∧
        prepared.2.Fills chosen.parameters sources callSites := by
  have fluent := consulted.fluent spoken
  intro prepared realized selection
  obtain ⟨_, succeeds, fails⟩ := fluent.prepare describes type _ _ (rfl : _ = (prepared.1, prepared.2))
  refine ⟨⟨?_, ?_⟩, ?_⟩
  · rintro ⟨⟨chosen, sources⟩, ended⟩
    obtain ⟨choice, _, follows⟩ := succeeds _ ended
    obtain ⟨found, ran, grows⟩ :=
      fluent.realize_of_follows describes speaks activates transient follows
    obtain ⟨_, allowed⟩ := (Blueprint.follows_admits_iff grows).1 follows
    exact ⟨⟨found, congrArg Prod.fst ran⟩, fun checked asked callSite reached recorded =>
      allowed asked callSite reached recorded checked⟩
  · rintro ⟨⟨found, ran⟩, free⟩
    obtain ⟨_, choice, between, _, _, follows, grows⟩ :=
      fluent.chosen_of_realize describes speaks activates (Prod.ext ran rfl)
    have admitted := (Blueprint.follows_admits_iff grows).2
      ⟨follows, fun asked callSite reached recorded checked =>
        free checked asked callSite reached recorded⟩
    cases ended : prepared.1 with
    | ok choice => exact ⟨choice, rfl⟩
    | error failure => exact absurd admitted (fails failure ended _ _)
  · intro chosen sources found ended ran
    obtain ⟨⟨other, callSites⟩, ⟨same, fills⟩, follows⟩ := succeeds _ ended
    obtain ⟨number, choice, between, same', graph, again, grows⟩ :=
      fluent.chosen_of_realize describes speaks activates (Prod.ext ran rfl)
    dsimp only at same fills
    subst same
    obtain ⟨alike, _⟩ := (follows.mono fun _ _ _ _ admitted => admitted.1).unique
      Blueprint.locates_unique again
    cases alike
    exact ⟨number, callSites, same', (Blueprint.follows_recorded again).2.mono
      fun asked found recorded => grows _ _ recorded, graph, fills⟩

section Sample
open Container

/-- A report on a cache and a printer, which is not registered, or on nothing. The cache is kept for
the given lifetime, and takes a scoped session. -/
def hesitant (kept : Lifetime) : Blueprint where
  registry := (equipped kept session).registry
  catalog := ⟨[(session.id, [taking session []]), (cache.id, [taking cache [session]]),
    (report.id, [taking report [cache, printer], taking report []])]⟩

def undecided (kept : Lifetime) : Engine := { blueprint := hesitant kept, options := .validating }

theorem describes_hesitant (kept : Lifetime) : office.Describes (hesitant kept) := by
  refine ⟨(@describes_equipped kept session rfl).registered, ?_⟩
  intro type constructor listed parameter declared
  have made : constructor ∈ [taking session [], taking cache [session],
      taking report [cache, printer], taking report []] := by
    change constructor ∈ (List.lookup type [(session.id, [taking session []]),
      (cache.id, [taking cache [session]]),
      (report.id, [taking report [cache, printer], taking report []])]).getD [] at listed
    rw [List.lookup_cons, List.lookup_cons, List.lookup_cons, List.lookup_nil] at listed
    cases first : type == session.id <;> cases second : type == cache.id <;>
      cases third : type == report.id <;> simp_all
  simp only [List.mem_cons, List.not_mem_nil, or_false] at made
  obtain rfl | rfl | rfl | rfl := made
  · cases declared
  · cases List.mem_singleton.1 declared
    rfl
  · obtain rfl | declared := List.mem_cons.1 declared
    · rfl
    · cases List.mem_singleton.1 declared
      rfl
  · cases declared

theorem activates_hesitant (kept : Lifetime) : (hesitant kept).Activates (.plain report)
    ⟨.plain report, .transient, .constructed report none⟩ report none where
  picked := ⟨2, .single rfl rfl rfl, rfl⟩
  implemented := rfl

end Sample

/-- If the cache is scoped, the report can be realized and prepared, by the constructor that takes
nothing. -/
theorem prepare_iff_hesitant : (undecided .scoped).Consulted ∧
    (undecided .scoped).memo.Spoken Container.office ∧
    Container.office.Describes (undecided .scoped).blueprint ∧
    (∃ found, ((realize (.plain Container.report)).run (undecided .scoped)).1 = .ok found) ∧
    ∃ chosen sources, ((prepare Container.report []).run (undecided .scoped)).1 =
      .ok (chosen, sources) ∧ chosen.parameters.length = 0 := by
  have consulted : (undecided .scoped).Consulted := .fresh _ _ _
  have spoken : (undecided .scoped).memo.Spoken Container.office := Memo.spoken_empty _
  have describes := describes_hesitant .scoped
  refine ⟨consulted, spoken, describes, ?_⟩
  have speaks : Container.office.Speaks (.plain Container.report) := rfl
  obtain ⟨possible, _⟩ :=
    consulted.prepare_iff describes spoken speaks (activates_hesitant .scoped) rfl
  have prepared : (((prepare Container.report []).run (undecided .scoped)).1.toOption.any
      fun choice => choice.1.parameters.length == 0) = true := by decide +kernel
  cases ended : ((prepare Container.report []).run (undecided .scoped)).1 with
  | error failure =>
    rw [ended] at prepared
    cases prepared
  | ok choice =>
    rw [ended] at prepared
    exact ⟨(possible.1 ⟨choice, ended⟩).1, choice.1, choice.2, rfl, eq_of_beq prepared⟩

/-- If the cache is a singleton, it captures the session. The report can be realized all the same, by
the constructor that does not take the cache, but it cannot be prepared. -/
theorem prepare_hesitant_captive : (undecided .singleton).Consulted ∧
    (undecided .singleton).memo.Spoken Container.office ∧
    Container.office.Describes (undecided .singleton).blueprint ∧
    (undecided .singleton).blueprint.Activates (.plain Container.report)
      ⟨.plain Container.report, .transient, .constructed Container.report none⟩ Container.report none ∧
    (∃ found, ((realize (.plain Container.report)).run (undecided .singleton)).1 = .ok found) ∧
    ∃ failure, ((prepare Container.report []).run (undecided .singleton)).1 = .error failure ∧
      failure.message = "Cannot consume scoped service 'Session' from singleton 'Cache'" := by
  refine ⟨.fresh _ _ _, Memo.spoken_empty _, describes_hesitant _, activates_hesitant _, ?_, ?_⟩
  · have realized : ((realize (.plain Container.report)).run
        (undecided .singleton)).1.toOption.isSome := by decide +kernel
    cases ended : ((realize (.plain Container.report)).run (undecided .singleton)).1 with
    | error failure =>
      rw [ended] at realized
      cases realized
    | ok found => exact ⟨found, rfl⟩
  · have refused : (match ((prepare Container.report []).run (undecided .singleton)).1 with
        | .error failure => some failure.message
        | .ok _ => none) =
        some "Cannot consume scoped service 'Session' from singleton 'Cache'" := by decide +kernel
    cases ended : ((prepare Container.report []).run (undecided .singleton)).1 with
    | ok choice =>
      rw [ended] at refused
      cases refused
    | error failure =>
      rw [ended] at refused
      exact ⟨failure, rfl, Option.some.inj refused⟩

end Engine
end ServiceContainer
