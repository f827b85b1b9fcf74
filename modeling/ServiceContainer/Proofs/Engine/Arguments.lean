import ServiceContainer.Proofs.Engine.Factories
import ServiceContainer.Proofs.Engine.Supplies
import ServiceContainer.Proofs.Typing.Engines

/-! The sources of arguments. Main statement: a constructor is bound to what is supplied if and only if
no more of any service is supplied than it takes, and no parameter for which nothing is left is without a
source; a prepared constructor is listed, and has sources for what it takes. -/
namespace ServiceContainer
open Stateful

namespace Engine
variable {supplied services : List ServiceType} {used : List Nat} {parameter : Parameter}

def Renders (engine : Engine) (service : ServiceType) (number : Nat) : Prop :=
  ∃ callSite, engine.graph? number = some callSite ∧
    engine.memo.lookup ⟨service, 0⟩ = some (some callSite)

/-- Where the argument of a parameter may come from that follows the given services. It is the next of
what is supplied for its service. When that is exhausted, it is a realization of the service, or the
declared default if the service was not found. -/
inductive Sources (engine : Engine) (supplied services : List ServiceType) (parameter : Parameter) :
    ArgumentSource → Prop where
  | supplied {position : Nat}
      (ranked : Ranked supplied parameter.service (services.count parameter.service) position) :
      Sources engine supplied services parameter (.supplied position)
  | service {number : Nat}
      (exhausted : supplied.count parameter.service ≤ services.count parameter.service)
      (renders : engine.Renders parameter.service number) :
      Sources engine supplied services parameter (.service number)
  | fallback {value : Value}
      (exhausted : supplied.count parameter.service ≤ services.count parameter.service)
      (absent : engine.memo.lookup ⟨parameter.service, 0⟩ = some none)
      (declared : parameter.fallback = some value) :
      Sources engine supplied services parameter (.fallback value)

structure Sourced (engine : Engine) (supplied services : List ServiceType)
    (parameters : List Parameter) (sources : List ArgumentSource) : Prop where
  length : sources.length = parameters.length
  each : ∀ place parameter source, parameters[place]? = some parameter →
    sources[place]? = some source →
      engine.Sources supplied (services ++ (parameters.map (·.service)).take place) parameter source

/-- The parameters after the given services for which nothing is supplied any more. -/
def lacking (supplied services : List ServiceType) : List Parameter → List Parameter
  | [] => []
  | parameter :: rest =>
    if supplied.count parameter.service ≤ services.count parameter.service then
      parameter :: lacking supplied (services ++ [parameter.service]) rest
    else lacking supplied (services ++ [parameter.service]) rest

variable {engine later : Engine} {source : ArgumentSource} {parameters : List Parameter}
  {sources : List ArgumentSource}

section Growth
variable (memo : engine.memo.Grows later.memo)
  (graphs : ∀ number callSite, engine.graph? number = some callSite →
    later.graph? number = some callSite)
include memo graphs

theorem Sources.mono (drawn : engine.Sources supplied services parameter source) :
    later.Sources supplied services parameter source := by
  cases drawn with
  | supplied ranked => exact .supplied ranked
  | service exhausted renders =>
    obtain ⟨callSite, graph, known⟩ := renders
    exact .service exhausted ⟨callSite, graphs _ _ graph, memo _ _ known⟩
  | fallback exhausted absent declared => exact .fallback exhausted (memo _ _ absent) declared

theorem Sourced.mono (sourced : engine.Sourced supplied services parameters sources) :
    later.Sourced supplied services parameters sources :=
  ⟨sourced.length, fun place parameter source listed there =>
    (sourced.each place parameter source listed there).mono memo graphs⟩

end Growth

theorem sourced_nil (engine : Engine) (supplied services : List ServiceType) :
    engine.Sourced supplied services [] [] where
  length := rfl
  each _ _ _ listed := by cases listed

theorem Sourced.cons (drawn : engine.Sources supplied services parameter source)
    (rest : engine.Sourced supplied (services ++ [parameter.service]) parameters sources) :
    engine.Sourced supplied services (parameter :: parameters) (source :: sources) where
  length := congrArg (· + 1) rest.length
  each place other found listed there := by
    cases place with
    | zero =>
      cases listed
      cases there
      rw [List.take_zero, List.append_nil]
      exact drawn
    | succ place =>
      have further := rest.each place other found listed there
      rwa [List.append_assoc, List.singleton_append, ← List.take_succ_cons] at further

theorem Sourced.exists_source (sourced : engine.Sourced supplied services parameters sources)
    {place : Nat} (listed : parameters[place]? = some parameter) :
    ∃ source, sources[place]? = some source ∧
      engine.Sources supplied (services ++ (parameters.map (·.service)).take place) parameter
        source := by
  have inside : place < sources.length :=
    sourced.length.symm ▸ (List.getElem?_eq_some_iff.1 listed).1
  have there := List.getElem?_eq_getElem inside
  exact ⟨_, there, sourced.each place parameter _ listed there⟩

theorem Sourced.head (sourced : engine.Sourced supplied services (parameter :: parameters)
    (source :: sources)) : engine.Sources supplied services parameter source := by
  have first := sourced.each 0 parameter source rfl rfl
  rwa [List.take_zero, List.append_nil] at first

theorem Sourced.tail (sourced : engine.Sourced supplied services (parameter :: parameters)
    (source :: sources)) :
    engine.Sourced supplied (services ++ [parameter.service]) parameters sources where
  length := Nat.succ.inj sourced.length
  each place other drawn listed there := by
    have next := sourced.each (place + 1) other drawn listed there
    rwa [List.map_cons, List.take_succ_cons, List.append_cons] at next

theorem Sound.sourceOf (sound : engine.Sound) (taken : Taken supplied services used)
    {found : Option ArgumentSource} {after : List Nat}
    (ran : (sourceOf supplied used parameter).run engine = (.ok (found, after), later)) :
    (later.Sound ∧ engine.Extends later) ∧
      Taken supplied (services ++ [parameter.service]) after ∧
      (∀ source, found = some source → later.Sources supplied services parameter source) ∧
      (found = none → supplied.count parameter.service ≤ services.count parameter.service ∧
        parameter.fallback = none ∧ later.memo.lookup ⟨parameter.service, 0⟩ = some none) := by
  rw [Engine.sourceOf] at ran
  cases first : firstUnused supplied used parameter.service with
  | some position =>
    rw [first] at ran
    cases ran
    have ranked := taken.ranked_of_firstUnused first
    refine ⟨⟨sound, .refl engine⟩, taken.supply ranked, ?_, by rintro ⟨⟩⟩
    rintro _ ⟨⟩
    exact .supplied ranked
  | none =>
    rw [first] at ran
    have exhausted := taken.exhausted_of_firstUnused first
    obtain ⟨realized, between, asked, ended⟩ | ⟨failure, _, same⟩ := run_bind_eq ran
    · cases ended
      obtain ⟨kept, published⟩ := sound.realize asked
      have known := published realized rfl
      refine ⟨kept, taken.skip exhausted, ?_, ?_⟩
      · intro source drawn
        cases realized with
        | some number =>
          cases drawn
          obtain ⟨realization, listed, recorded⟩ := kept.1.provided _ _ known
          exact .service exhausted
            ⟨realization.callSite, by rw [graph?, listed, Option.map_some], recorded⟩
        | none =>
          obtain ⟨value, declared, rfl⟩ := Option.map_eq_some_iff.1 drawn
          exact .fallback exhausted (kept.1.unprovided _ known) declared
      · intro missing
        cases realized with
        | some number => cases missing
        | none => exact ⟨exhausted, Option.map_eq_none_iff.1 missing, kept.1.unprovided _ known⟩
    · cases same

/-- A parameter has no source: nothing is supplied for it any more, its service was not found, and it
declares no default. -/
def Wants (engine : Engine) (supplied services : List ServiceType) (parameters : List Parameter) :
    Prop :=
  ∃ parameter ∈ lacking supplied services parameters,
    parameter.fallback = none ∧ engine.memo.lookup ⟨parameter.service, 0⟩ = some none

theorem lacking_subset_cons : lacking supplied (services ++ [parameter.service]) parameters ⊆
    lacking supplied services (parameter :: parameters) := by
  intro other member
  rw [lacking]
  split
  · exact List.mem_cons_of_mem _ member
  · exact member

theorem Sound.bindSources (sound : engine.Sound) (taken : Taken supplied services used)
    {binding : Binding (List ArgumentSource × List Nat)}
    (ran : (bindSources supplied used parameters).run engine = (.ok binding, later)) :
    (later.Sound ∧ engine.Extends later) ∧
      (∀ sources after, binding = .bound (sources, after) →
        later.Sourced supplied services parameters sources ∧
          Taken supplied (services ++ parameters.map (·.service)) after) ∧
      ∀ name, binding = .missing name → later.Wants supplied services parameters := by
  induction parameters generalizing engine later services used binding with
  | nil =>
    cases ran
    refine ⟨⟨sound, .refl _⟩, ?_, by rintro _ ⟨⟩⟩
    rintro _ _ ⟨⟩
    rw [List.map_nil, List.append_nil]
    exact ⟨sourced_nil .., taken⟩
  | cons parameter rest ih =>
    rw [Engine.bindSources] at ran
    obtain ⟨⟨found, after⟩, between, drew, ran⟩ | ⟨failure, _, same⟩ := run_bind_eq ran
    · obtain ⟨⟨kept, grown⟩, taken, drawn, missing⟩ := sound.sourceOf taken drew
      cases found with
      | none =>
        cases ran
        obtain ⟨exhausted, undeclared, absent⟩ := missing rfl
        refine ⟨⟨kept, grown⟩, by rintro _ _ ⟨⟩, fun _ _ => ⟨parameter, ?_, undeclared, absent⟩⟩
        rw [lacking, if_pos exhausted]
        exact List.mem_cons_self
      | some source =>
        obtain ⟨others, last, bound, ran⟩ | ⟨failure, _, same⟩ := run_bind_eq ran
        · obtain ⟨⟨kept, further⟩, sourced, wants⟩ := ih kept taken bound
          cases others with
          | bound result =>
            cases ran
            obtain ⟨sourced, taken⟩ := sourced _ _ rfl
            refine ⟨⟨kept, grown.trans further⟩, ?_, by rintro _ ⟨⟩⟩
            rintro _ _ ⟨⟩
            rw [List.append_assoc, List.singleton_append] at taken
            have still := (drawn source rfl).mono further.memo fun _ _ => further.graph?
            exact ⟨.cons still sourced, taken⟩
          | missing name =>
            cases ran
            obtain ⟨other, member, lacks⟩ := wants name rfl
            exact ⟨⟨kept, grown.trans further⟩, by rintro _ _ ⟨⟩,
              fun _ _ => ⟨other, lacking_subset_cons member, lacks⟩⟩
        · cases same
    · cases same

theorem exists_bindSources_cons {found : Option ArgumentSource} {after : List Nat} {between : Engine}
    (drew : (Engine.sourceOf supplied used parameter).run engine = (.ok (found, after), between))
    (rest : ∃ binding last, (Engine.bindSources supplied after parameters).run between =
      (.ok binding, last)) :
    ∃ binding last, (Engine.bindSources supplied used (parameter :: parameters)).run engine =
      (.ok binding, last) := by
  rw [Engine.bindSources, run_bind, drew]
  cases found with
  | none => exact ⟨_, _, rfl⟩
  | some source =>
    obtain ⟨binding, last, bound⟩ := rest
    change ∃ binding last, ((Engine.bindSources supplied after parameters >>= _).run between) = _
    rw [run_bind, bound]
    cases binding <;> exact ⟨_, _, rfl⟩

theorem exists_bindSources (taken : Taken supplied services used) {found : List (Option Nat)}
    (realized : ((lacking supplied services parameters).mapM fun parameter =>
      realize parameter.service).run engine = (.ok found, later)) :
    ∃ binding last, (Engine.bindSources supplied used parameters).run engine =
      (.ok binding, last) := by
  induction parameters generalizing engine later services used found with
  | nil => exact ⟨_, _, rfl⟩
  | cons parameter rest ih =>
    rw [lacking] at realized
    cases first : firstUnused supplied used parameter.service with
    | some position =>
      have ranked := taken.ranked_of_firstUnused first
      rw [if_neg (Nat.not_le.2 ranked.lt_count)] at realized
      have drew : (Engine.sourceOf supplied used parameter).run engine =
          (.ok (some (.supplied position), position :: used), engine) := by
        rw [Engine.sourceOf, first]
        rfl
      exact exists_bindSources_cons drew (ih (taken.supply ranked) realized)
    | none =>
      have exhausted := taken.exhausted_of_firstUnused first
      rw [if_pos exhausted, List.mapM_cons] at realized
      obtain ⟨number, between, asked, ended⟩ | ⟨failure, _, same⟩ := run_bind_eq realized
      · obtain ⟨numbers, last, others, _⟩ | ⟨failure, _, same⟩ := run_bind_eq ended
        · have drew : (Engine.sourceOf supplied used parameter).run engine =
              (.ok ((number.map .service).or (parameter.fallback.map .fallback), used), between) := by
            rw [Engine.sourceOf, first]
            change (realize parameter.service >>= _).run engine = _
            rw [run_bind, asked]
            rfl
          exact exists_bindSources_cons drew (ih (taken.skip exhausted) others)
        · cases same
      · cases same

theorem mem_lacking_iff {parameter : Parameter} :
    parameter ∈ lacking supplied services parameters ↔
      ∃ place, parameters[place]? = some parameter ∧ supplied.count parameter.service ≤
        (services ++ (parameters.map (·.service)).take place).count parameter.service := by
  induction parameters generalizing services with
  | nil => simp [lacking]
  | cons head rest ih =>
    have split (place : Nat) : services ++ ((head :: rest).map (·.service)).take (place + 1) =
        services ++ [head.service] ++ (rest.map (·.service)).take place := by
      rw [List.append_assoc, List.singleton_append, List.map_cons, List.take_succ_cons]
    have first : (parameter = head ∧ supplied.count head.service ≤ services.count head.service) ↔
        (head :: rest)[0]? = some parameter ∧ supplied.count parameter.service ≤
          (services ++ ((head :: rest).map (·.service)).take 0).count parameter.service := by
      rw [List.take_zero, List.append_nil, List.getElem?_cons_zero, Option.some.injEq, eq_comm]
      exact and_congr_right fun same => by rw [same]
    have listed : parameter ∈ lacking supplied services (head :: rest) ↔
        (parameter = head ∧ supplied.count head.service ≤ services.count head.service) ∨
          parameter ∈ lacking supplied (services ++ [head.service]) rest := by
      rw [lacking]
      split
      · rename_i exhausted
        rw [List.mem_cons, and_iff_left exhausted]
      · rename_i left
        exact (or_iff_right fun both => left both.2).symm
    rw [listed, first, ih]
    constructor
    · rintro (here | ⟨place, there, exhausted⟩)
      · exact ⟨0, here⟩
      · exact ⟨place + 1, there, split place ▸ exhausted⟩
    · rintro ⟨_ | place, there, exhausted⟩
      · exact .inl ⟨there, exhausted⟩
      · exact .inr ⟨place, there, split place ▸ exhausted⟩

theorem Sourced.not_wants (sourced : engine.Sourced supplied services parameters sources) :
    ¬engine.Wants supplied services parameters := by
  rintro ⟨parameter, member, undeclared, absent⟩
  obtain ⟨place, listed, exhausted⟩ := mem_lacking_iff.1 member
  obtain ⟨source, _, drawn⟩ := sourced.exists_source listed
  cases drawn with
  | supplied ranked => exact Nat.lt_irrefl _ (Nat.lt_of_lt_of_le ranked.lt_count exhausted)
  | service _ renders =>
    obtain ⟨_, _, known⟩ := renders
    cases known.symm.trans absent
  | fallback _ _ declared => cases declared.symm.trans undeclared

/-- Each position of what is supplied is the source of one argument, and positions of one service are
in order. -/
structure Deals (supplied : List ServiceType) (sources : List ArgumentSource) : Prop where
  once : ∀ position < supplied.length, ∃! place : Nat, sources[place]? = some (.supplied position)
  ordered : ∀ (place next position following : Nat) (service other : ServiceType), place < next →
    sources[place]? = some (.supplied position) → sources[next]? = some (.supplied following) →
    supplied[position]? = some service → supplied[following]? = some other →
    (service == other) = true → position < following

/-- The parameter that a supplied position goes to stands among the parameters of its service where the
position stands among what is supplied for it. -/
theorem Sourced.ranked (sourced : engine.Sourced supplied [] parameters sources)
    {place position : Nat} (drawn : sources[place]? = some (.supplied position)) :
    ∃ parameter rank, parameters[place]? = some parameter ∧
      Ranked (parameters.map (·.service)) parameter.service rank place ∧
      Ranked supplied parameter.service rank position := by
  have inside : place < parameters.length :=
    sourced.length ▸ (List.getElem?_eq_some_iff.1 drawn).1
  have listed := List.getElem?_eq_getElem inside
  have source_of := sourced.each place _ _ listed drawn
  rw [List.nil_append] at source_of
  cases source_of with
  | supplied ranked =>
    refine ⟨parameters[place], _, listed, ⟨⟨_, ?_, BEq.rfl⟩, rfl⟩, ranked⟩
    rw [List.getElem?_map, listed]
    rfl

theorem Sourced.deals (sourced : engine.Sourced supplied [] parameters sources)
    (few : ∀ service, supplied.count service ≤ (parameters.map (·.service)).count service) :
    Deals supplied sources where
  once position inside := by
    have here : Ranked supplied supplied[position] _ position :=
      ⟨⟨_, List.getElem?_eq_getElem inside, BEq.rfl⟩, rfl⟩
    obtain ⟨place, there⟩ := exists_ranked (Nat.lt_of_lt_of_le here.lt_count (few _))
    refine ⟨place, ?_, fun another drawn => ?_⟩
    · obtain ⟨⟨service, listed, same⟩, counted⟩ := there
      rw [List.getElem?_map] at listed
      obtain ⟨parameter, declared, rfl⟩ := Option.map_eq_some_iff.1 listed
      obtain ⟨source, drawn, source_of⟩ := sourced.exists_source declared
      rw [List.nil_append] at source_of
      rw [← count_congr same] at counted
      have waiting := here.congr (BEq.symm same)
      rw [← counted] at waiting
      cases source_of with
      | supplied ranked => rw [drawn, ranked.unique waiting]
      | service exhausted _ | fallback exhausted _ _ =>
        exact absurd waiting.lt_count (Nat.not_lt.2 exhausted)
    · obtain ⟨parameter, rank, _, takes, given⟩ := sourced.ranked drawn
      have same := given.beq here
      have again := given.congr same
      rw [again.rank_eq here] at takes
      exact (takes.congr same).unique there
  ordered place next position following service other before drawn further listed there same := by
    obtain ⟨parameter, rank, _, takes, given⟩ := sourced.ranked drawn
    obtain ⟨second, later, _, receives, gets⟩ := sourced.ranked further
    have alike : (parameter.service == second.service) = true := by
      obtain ⟨⟨found, listed', equal⟩, _⟩ := given
      obtain ⟨⟨again, there', equal'⟩, _⟩ := gets
      cases listed.symm.trans listed'
      cases there.symm.trans there'
      exact BEq.trans (BEq.trans (BEq.symm equal) same) equal'
    have less := ((takes.congr alike).lt_iff receives).2 before
    exact ((given.congr alike).lt_iff gets).1 less

section Constructor
variable {constructor : Constructor}

theorem exists_bindSupplied {found : List (Option Nat)}
    (realized : ((lacking supplied [] constructor.parameters).mapM fun parameter =>
      realize parameter.service).run engine = (.ok found, later)) :
    ∃ binding last, (Engine.bindSupplied supplied constructor).run engine = (.ok binding, last) := by
  obtain ⟨binding, last, bound⟩ := exists_bindSources (taken_nil supplied) realized
  rw [Engine.bindSupplied, run_bind, bound]
  cases binding with
  | missing name => exact ⟨_, _, rfl⟩
  | bound result =>
    dsimp only
    split <;> exact ⟨_, _, rfl⟩

/-- A constructor is bound if and only if no more of any service is supplied than it takes, and none of
its other parameters is without a source. -/
theorem Sound.bindSupplied (sound : engine.Sound) {binding : Binding (List ArgumentSource)}
    (ran : (Engine.bindSupplied supplied constructor).run engine = (.ok binding, later)) :
    (later.Sound ∧ engine.Extends later) ∧
      ((∃ sources, binding = .bound sources) ↔
        (∀ service, supplied.count service ≤ constructor.signature.count service) ∧
          ¬later.Wants supplied [] constructor.parameters) ∧
      ∀ sources, binding = .bound sources →
        later.Sourced supplied [] constructor.parameters sources ∧ Deals supplied sources := by
  rw [Engine.bindSupplied] at ran
  obtain ⟨outcome, between, bound, ran⟩ | ⟨failure, _, same⟩ := run_bind_eq ran
  · obtain ⟨kept, sourced, wants⟩ := sound.bindSources (taken_nil supplied) bound
    cases outcome with
    | missing name =>
      cases ran
      refine ⟨kept, iff_of_false ?_ fun both => both.2 (wants name rfl), by rintro _ ⟨⟩⟩
      rintro ⟨_, ⟨⟩⟩
    | bound result =>
      obtain ⟨sources, after⟩ := result
      obtain ⟨sourced, taken⟩ := sourced sources after rfl
      have used := taken.all_used_iff
      dsimp only at ran
      cases unused : (List.range supplied.length).find? (!after.contains ·) with
      | some position =>
        rw [unused] at ran
        cases ran
        obtain ⟨fresh, inside, _⟩ := List.find?_range_eq_some.1 unused
        refine ⟨kept, iff_of_false (by rintro ⟨_, ⟨⟩⟩) fun both => ?_, by rintro _ ⟨⟩⟩
        have member := used.2 both.1 position (List.mem_range.1 inside)
        simp [member] at fresh
      | none =>
        rw [unused] at ran
        cases ran
        have few := used.1 fun position inside => by
          simpa using List.find?_range_eq_none.1 unused position inside
        refine ⟨kept, iff_of_true ⟨_, rfl⟩ ⟨few, sourced.not_wants⟩, ?_⟩
        rintro _ ⟨⟩
        exact ⟨sourced, sourced.deals few⟩
  · cases same

end Constructor

/-- However the binding of a constructor ends, the engine has learned; and if the constructor is bound,
what is supplied is dealt out. -/
theorem gives_sources (sound : engine.Sound) (supplied : List ServiceType) (constructor : Constructor) :
    Gives (Bound (fun constructor later sources =>
        later.Sourced supplied [] constructor.parameters sources ∧ Deals supplied sources) constructor)
      engine (Engine.bindSupplied supplied constructor) := by
  intro result later ran
  have evolves : Keeps Evolves (Engine.bindSupplied supplied constructor) :=
    bindSupplied_of evolves_compositional.selective (fun _ _ => keeps_realize _) supplied
  have candid : Candid (Engine.bindSupplied supplied constructor) :=
    bindSupplied_of candid_selective (fun _ _ => candid_realize _) supplied
  have kept := evolves engine sound
  rw [ran] at kept
  cases result with
  | error failure => exact ⟨kept, candid engine failure later ran⟩
  | ok binding =>
    refine ⟨kept, ?_⟩
    cases binding with
    | missing name => trivial
    | bound sources => exact (sound.bindSupplied ran).2.2 sources rfl

theorem gives_dealt (sound : engine.Sound) (implementation : TypeInfo) (supplied : List ServiceType) :
    Gives (fun later prepared =>
        prepared.1 ∈ engine.blueprint.catalog.constructors implementation.id ∧
          later.Sourced supplied [] prepared.1.parameters prepared.2 ∧ Deals supplied prepared.2)
      engine (Engine.prepare implementation supplied) :=
  gives_select (fun _ _ _ _ holds grown =>
      ⟨holds.1.mono grown.memo fun _ _ => grown.graph?, holds.2⟩)
    (fun constructor _ _ sound _ => gives_sources sound supplied constructor) sound _

section Typing
variable [Interfaces]

theorem Sourced.furnish (sound : engine.Sound)
    (sourced : engine.Sourced supplied services parameters sources)
    (fallbacks : ∀ parameter ∈ parameters, ∀ value ∈ parameter.fallback, value.Fits parameter.service) :
    ArgumentSource.Furnish engine.Serves supplied sources (parameters.map (·.service)) := by
  induction parameters generalizing services sources with
  | nil =>
    obtain rfl := List.length_eq_zero_iff.1 sourced.length
    exact .nil
  | cons parameter parameters ih =>
    obtain ⟨source, sources, rfl⟩ := List.exists_cons_of_length_eq_add_one sourced.length
    refine .cons ?_ (ih sourced.tail fun other member => fallbacks other (List.mem_cons_of_mem _ member))
    cases sourced.head with
    | supplied ranked =>
      obtain ⟨⟨given, listed, same⟩, _⟩ := ranked
      exact .supplied listed same
    | service _ renders =>
      obtain ⟨callSite, graph, known⟩ := renders
      exact .service ⟨callSite, graph, sound.memo.makes known⟩
    | fallback _ _ declared => exact .fallback (fallbacks parameter List.mem_cons_self _ declared)

theorem gives_prepare (supplied : List ServiceType) {known : Known} (sound : engine.Sound)
    (typed : engine.blueprint.Typed known) (implementation : TypeInfo) :
    Gives (fun later prepared => prepared.1 ∈ engine.blueprint.catalog.constructors implementation.id ∧
      ArgumentSource.Furnish later.Serves supplied prepared.2 prepared.1.signature) engine
      (Engine.prepare implementation supplied) := by
  intro result later ran
  obtain ⟨kept, holds⟩ := gives_dealt sound implementation supplied result later ran
  refine ⟨kept, holds.mono fun prepared dealt => ?_⟩
  obtain ⟨listed, sourced, _⟩ := dealt
  exact ⟨listed, sourced.furnish kept.1 (typed.catalog.constructor listed).2.fallbacks⟩

end Typing
end Engine
end ServiceContainer
