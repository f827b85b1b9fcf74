import ServiceContainer.Proofs.Engine.Learned

/-! What an engine announces. A graph is realized once for its service, after it passed the lifetime
checks, and a notice is left of it. Main statement: whatever an engine is asked, the notices that it
leaves are those of the graphs that it realized meanwhile. -/
namespace ServiceContainer
open Stateful

def Verdicts.Grows (verdicts later : Verdicts) : Prop :=
  ∀ key, verdicts.lookup key ≠ none → later.lookup key ≠ none

namespace Verdicts

theorem Grows.refl (verdicts : Verdicts) : verdicts.Grows verdicts := fun _ known => known

theorem Grows.trans {verdicts later last : Verdicts} (first : verdicts.Grows later)
    (second : later.Grows last) : verdicts.Grows last :=
  fun key known => second key (first key known)

theorem grows_insert (verdicts : Verdicts) (key : CacheKey) (verdict : Option String) :
    verdicts.Grows (verdicts.insert key verdict) := by
  intro other known
  rw [Table.lookup_insert]
  split
  · simp
  · exact known

theorem grows_compositional : Compositional fun {_} check => Keeps Grows check :=
  keeps_compositional Grows.refl fun _ _ _ => Grows.trans

end Verdicts

theorem Site.grows_check (site : Site) {children : Check (Option String)}
    (grows : Keeps Verdicts.Grows children) (verdicts : Verdicts) :
    verdicts.Grows ((site.check children).run verdicts).2 ∧
      ∀ verdict, ((site.check children).run verdicts).1 = .ok verdict →
        ((site.check children).run verdicts).2.lookup site.key ≠ none := by
  rw [Site.run_check]
  cases known : verdicts.lookup site.key with
  | some found => exact ⟨.refl _, fun _ _ => by simp [known]⟩
  | none =>
    dsimp only
    have checked := grows verdicts
    rw [run_bind]
    cases ran : children.run verdicts with
    | mk outcome between =>
      rw [ran] at checked
      cases outcome with
      | error failure => exact ⟨checked, by rintro _ ⟨⟩⟩
      | ok beneath =>
        dsimp only
        rw [run_bind, run_mk]
        cases site.verdict beneath with
        | error failure => exact ⟨checked, by rintro _ ⟨⟩⟩
        | ok verdict =>
          refine ⟨checked.trans (Verdicts.grows_insert between site.key verdict), fun _ _ => ?_⟩
          change (between.insert site.key verdict).lookup site.key ≠ none
          rw [Table.lookup_insert, if_pos BEq.rfl]
          exact Option.some_ne_none verdict

namespace CallSite

theorem grows_checkNone : Keeps Verdicts.Grows (checkAll []) := by
  rw [checkAll]
  exact Verdicts.grows_compositional.pure none

mutual
theorem grows_checkLifetimes : ∀ callSite : CallSite, Keeps Verdicts.Grows callSite.checkLifetimes
  | .construct site activate cast parameters => by
    rw [checkLifetimes_eq]
    exact fun verdicts => (site.grows_check (grows_checkAll parameters) verdicts).1
  | .collect site items => by
    rw [checkLifetimes_eq]
    exact fun verdicts => (site.grows_check (grows_checkAll items) verdicts).1
  | .constant site value | .fallback site value | .factory site body | .own site service => by
    rw [checkLifetimes_eq]
    exact fun verdicts => (site.grows_check grows_checkNone verdicts).1
theorem grows_checkAll : ∀ callSites : List CallSite, Keeps Verdicts.Grows (checkAll callSites)
  | [] => grows_checkNone
  | callSite :: rest => by
    rw [checkAll]
    refine Verdicts.grows_compositional.bind (grows_checkLifetimes callSite) fun _ => ?_
    exact Verdicts.grows_compositional.bind (grows_checkAll rest) fun _ =>
      Verdicts.grows_compositional.pure _
end

def announcement (callSite : CallSite) : Notice :=
  .built callSite.kind callSite.site.service callSite.site.lifetime

end CallSite

/-- A remembered graph makes the service that it is remembered for. -/
theorem Memo.Sound.makes {blueprint : Blueprint} {memo : Memo} (sound : Memo.Sound blueprint memo)
    {key : CacheKey} {callSite : CallSite} (known : memo.lookup key = some (some callSite)) :
    (callSite.site.service == key.service) = true := by
  obtain ⟨target, _, assembled, same, _⟩ := sound.assembles known
  have answers := assembled.answers?_eq
  have services : callSite.site.service = target.key.service := by
    cases callSite with
    | fallback site value => cases answers
    | constant site value | factory site body | construct site activate cast parameters
    | collect site items | own site service =>
      exact congrArg CacheKey.service (Option.some.inj answers)
  rw [services]
  exact (CacheKey.beq_iff.1 same).1

namespace Engine
variable {engine later last : Engine}

def Accepts (engine : Engine) (callSite : CallSite) : Prop :=
  (Engine.validateGraph callSite).run engine = (.ok (), engine)

/-- Realizations are published under the services of their graphs, and have been checked. -/
structure Published (engine : Engine) : Prop where
  numbered : ∀ number callSite, (engine.realizations.map (·.callSite))[number]? = some callSite →
    engine.published.lookup callSite.site.service = some (some number)
  checked : engine.options.validateScopes = true →
    ∀ callSite ∈ engine.realizations.map (·.callSite),
      engine.verdicts.lookup callSite.site.key ≠ none

theorem published_of_unused (unused : engine.realizations = []) : engine.Published where
  numbered number callSite listed := by simp [unused] at listed
  checked _ callSite realized := by simp [unused] at realized

theorem Published.answered (published : engine.Published)
    (checks : engine.options.validateScopes = true) {callSite : CallSite}
    (realized : callSite ∈ engine.realizations.map (·.callSite)) :
    ∃ verdict, callSite.checkLifetimes.run engine.verdicts = (.ok verdict, engine.verdicts) := by
  obtain ⟨verdict, known⟩ := Option.ne_none_iff_exists'.1 (published.checked checks _ realized)
  refine ⟨verdict, ?_⟩
  rw [CallSite.checkLifetimes_eq, Site.run_check, known]

theorem Published.accepts (published : engine.Published) {callSite : CallSite}
    (realized : callSite ∈ engine.realizations.map (·.callSite)) : engine.Accepts callSite := by
  rw [Accepts, run_validateGraph]
  split
  · rename_i checks
    obtain ⟨verdict, answered⟩ := published.answered checks realized
    rw [answered]
    rfl
  · rfl

/-- No service has two realizations. -/
theorem Published.distinct (published : engine.Published) :
    (engine.realizations.map (·.callSite)).Pairwise
      fun one other => (one.site.service == other.site.service) = false := by
  rw [List.pairwise_iff_getElem]
  intro first second inside within before
  rw [Bool.eq_false_iff]
  intro same
  have one := published.numbered first _ (List.getElem?_eq_getElem inside)
  have other := published.numbered second _ (List.getElem?_eq_getElem within)
  rw [engine.published.lookup_congr same, other] at one
  simp only [Option.some.injEq] at one
  omega

/-- The engine has left a notice of each graph that it realized, and of nothing else. -/
structure Announced (engine later : Engine) : Prop where
  sound : later.Sound
  published : later.Published
  announced : ∃ realized, later.realizations.map (·.callSite) =
      engine.realizations.map (·.callSite) ++ realized ∧
    later.outbox = engine.outbox ++ realized.map (·.announcement)

def Announces (engine later : Engine) : Prop := engine.Sound → engine.Published → engine.Announced later

theorem Announces.trans (first : engine.Announces later) (second : later.Announces last) :
    engine.Announces last := by
  intro sound published
  obtain ⟨sound, published, some, realized, told⟩ := first sound published
  obtain ⟨sound, published, more, further, also⟩ := second sound published
  refine ⟨sound, published, some ++ more, ?_, ?_⟩
  · rw [further, realized, List.append_assoc]
  · rw [also, told, List.map_append, List.append_assoc]

theorem Announced.quiet (sound : later.Sound) (published : engine.Published)
    (realizations : later.realizations.map (·.callSite) = engine.realizations.map (·.callSite))
    (known : ∀ service number, engine.published.lookup service = some (some number) →
      later.published.lookup service = some (some number))
    (options : later.options = engine.options)
    (verdicts : engine.verdicts.Grows later.verdicts) (outbox : later.outbox = engine.outbox) :
    engine.Announced later where
  sound := sound
  published :=
    { numbered := fun number callSite listed =>
        known _ _ (published.numbered number callSite (realizations ▸ listed))
      checked := fun on callSite realized =>
        verdicts _ (published.checked (options ▸ on) callSite (realizations ▸ realized)) }
  announced := ⟨[], by simpa using realizations, by simpa using outbox⟩

theorem announces_compositional : Compositional fun {_} action => Keeps Announces action :=
  keeps_compositional
    (fun _ sound published => .quiet sound published rfl (fun _ _ known => known) rfl (.refl _) rfl)
    fun _ _ _ => Announces.trans

theorem announces_callSite (service : ServiceType) : Keeps Announces (callSite service) := by
  intro engine sound published
  have kept := (keeps_callSite service engine sound).1
  rw [run_callSite] at kept ⊢
  exact .quiet kept published rfl (fun _ _ known => known) rfl (.refl _) rfl

theorem announces_validateGraph {callSite : CallSite} (held : engine.memo.Holds callSite) :
    engine.Announces ((validateGraph callSite).run engine).2 := by
  intro sound published
  cases ended : (validateGraph callSite).run engine with
  | mk result later =>
    have kept := (sound.validateGraph held ended).1.1
    rw [run_validateGraph] at ended
    split at ended
    · cases ended
      exact .quiet kept published rfl (fun _ _ known => known) rfl
        (CallSite.grows_checkLifetimes callSite _) rfl
    · cases ended
      exact .quiet sound published rfl (fun _ _ known => known) rfl (.refl _) rfl

theorem announced_withRealization (sound : engine.Sound) (published : engine.Published)
    {service : ServiceType} {callSite : CallSite}
    (fresh : engine.published.lookup service = none)
    (answered : engine.memo.lookup ⟨service, 0⟩ = some (some callSite))
    (checked : engine.options.validateScopes = true →
      engine.verdicts.lookup callSite.site.key ≠ none)
    (kept : (engine.withRealization service callSite).Sound) :
    engine.Announced (engine.withRealization service callSite) := by
  have makes : (callSite.site.service == service) = true := sound.memo.makes answered
  have graphs : (engine.withRealization service callSite).realizations.map (·.callSite) =
      engine.realizations.map (·.callSite) ++ [callSite] := by
    simp [withRealization]
  refine ⟨kept, ⟨fun number other listed => ?_, fun on other realized => ?_⟩, [callSite], graphs, rfl⟩
  · rw [graphs] at listed
    change (engine.published.insert service _).lookup other.site.service = _
    rw [Table.lookup_insert]
    by_cases inside : number < (engine.realizations.map (·.callSite)).length
    · rw [List.getElem?_append_left inside] at listed
      have known := published.numbered number other listed
      split
      · rename_i same
        rw [← engine.published.lookup_congr same, fresh] at known
        cases known
      · exact known
    · rw [List.getElem?_append_right (Nat.not_lt.1 inside)] at listed
      have last : number - (engine.realizations.map (·.callSite)).length = 0 := by
        have bound := (List.getElem?_eq_some_iff.1 listed).1
        simpa using bound
      rw [last] at listed
      cases listed
      rw [if_pos (BEq.symm makes)]
      simp only [List.length_map] at inside last
      exact congrArg (some ∘ some) (by omega)
  · rw [graphs] at realized
    obtain old | new := List.mem_append.1 realized
    · exact published.checked on other old
    · rw [List.mem_singleton.1 new]
      exact checked on

/-- What a request for a service may leave an engine as. -/
inductive Realizes (engine : Engine) (service : ServiceType) : Engine → Prop where
  | known {found : Option Nat} (published : engine.published.lookup service = some found) :
      Realizes engine service engine
  | unbuilt {failure : Failure} {later : Engine}
      (built : (callSite service).run engine = (.error failure, later)) :
      Realizes engine service later
  | absent {later : Engine} (fresh : engine.published.lookup service = none)
      (built : (callSite service).run engine = (.ok none, later)) :
      Realizes engine service { later with published := later.published.insert service none }
  | refused {callSite : CallSite} {failure : Failure} {between later : Engine}
      (built : (Engine.callSite service).run engine = (.ok (some callSite), between))
      (checked : (validateGraph callSite).run between = (.error failure, later)) :
      Realizes engine service later
  | realized {callSite : CallSite} {between later : Engine}
      (fresh : engine.published.lookup service = none)
      (built : (Engine.callSite service).run engine = (.ok (some callSite), between))
      (checked : (validateGraph callSite).run between = (.ok (), later)) :
      Realizes engine service (later.withRealization service callSite)

theorem realizes_realize (service : ServiceType) (engine : Engine) :
    engine.Realizes service ((realize service).run engine).2 := by
  rw [realize, run_get_bind]
  cases fresh : engine.published.lookup service with
  | some known => exact .known fresh
  | none =>
    dsimp only
    rw [run_bind]
    cases built : (callSite service).run engine with
    | mk result between =>
      cases result with
      | error failure => exact .unbuilt built
      | ok found =>
        cases found with
        | none => exact .absent fresh built
        | some callSite =>
          dsimp only
          rw [run_bind]
          cases checked : (validateGraph callSite).run between with
          | mk outcome later =>
            cases outcome with
            | error failure => exact .refused built checked
            | ok _ => exact .realized fresh built checked

theorem announces_realize (service : ServiceType) : Keeps Announces (realize service) := by
  intro engine sound published
  have kept := (keeps_realize service engine sound).1
  have answered := realizes_realize service engine
  generalize ((realize service).run engine).2 = last at kept answered ⊢
  have builds : ∀ {result : Except Failure (Option CallSite)} {later : Engine},
      (callSite service).run engine = (result, later) →
        engine.Announced later ∧ later.published = engine.published := by
    intro result later built
    have first := announces_callSite service engine sound published
    rw [built] at first
    rw [run_callSite] at built
    exact ⟨first, (congrArg (·.2.published) built).symm⟩
  have checks : ∀ {callSite : CallSite} {between later : Engine} {result : Except Failure Unit},
      (Engine.callSite service).run engine = (.ok (some callSite), between) →
      (validateGraph callSite).run between = (result, later) →
        between.Announced later ∧ later.published = between.published ∧
          later.memo.lookup ⟨service, 0⟩ = some (some callSite) ∧
          (result = .ok () → later.options.validateScopes = true →
            later.verdicts.lookup callSite.site.key ≠ none) := by
    intro callSite between later result built checked
    have recorded := (sound.callSite built).2 _ rfl
    have first := (builds built).1
    have second := announces_validateGraph (.inl ⟨_, recorded⟩) first.sound first.published
    rw [checked] at second
    rw [run_validateGraph] at checked
    split at checked
    · cases checked
      refine ⟨second, rfl, recorded, fun passed _ => ?_⟩
      have grown := callSite.site.grows_check (CallSite.grows_checkAll callSite.children)
        between.verdicts
      rw [← CallSite.checkLifetimes_eq] at grown
      cases judged : (callSite.checkLifetimes.run between.verdicts).1 with
      | error failure => simp [judged, Except.map] at passed
      | ok verdict => exact grown.2 verdict judged
    · rename_i off
      cases checked
      exact ⟨second, rfl, recorded, fun _ on => absurd on off⟩
  cases answered with
  | known _ => exact .quiet sound published rfl (fun _ _ known => known) rfl (.refl _) rfl
  | unbuilt built => exact (builds built).1
  | @absent later fresh built =>
    obtain ⟨first, same⟩ := builds built
    refine Announces.trans (fun _ _ => first) (fun _ between => ?_) sound published
    refine .quiet kept between rfl (fun other number known => ?_) rfl (.refl _) rfl
    rw [Table.lookup_insert]
    split
    · rename_i here
      rw [← later.published.lookup_congr here, same, fresh] at known
      cases known
    · exact known
  | refused built checked =>
    exact Announces.trans (fun _ _ => (builds built).1) (fun _ _ => (checks built checked).1) sound
      published
  | realized fresh built checked =>
    obtain ⟨first, unchanged⟩ := builds built
    obtain ⟨second, same, answered, passed⟩ := checks built checked
    refine Announces.trans (fun _ _ => first) (Announces.trans (fun _ _ => second) ?_) sound published
    intro sound published
    exact announced_withRealization sound published (by rw [same, unchanged, fresh]) answered
      (passed rfl) kept

theorem announces_prepare (implementation : TypeInfo) (supplied : List ServiceType) :
    Keeps Announces (prepare implementation supplied) := by
  refine announces_compositional.bind (fun _ sound published => ?_) fun engine => ?_
  · exact .quiet sound published rfl (fun _ _ known => known) rfl (.refl _) rfl
  · refine announces_compositional.select (fun constructor _ => ?_) _
    exact bindSupplied_of announces_compositional.selective (fun _ _ => announces_realize _) supplied

/-- Whatever an engine is asked, it announces what it realizes. -/
theorem Asked.announces (asked : engine.Asked later) : engine.Announces later := by
  intro sound published
  have kept := (asked.evolves sound).1
  cases asked with
  | graph service => exact announces_callSite service engine sound published
  | realize service => exact announces_realize service engine sound published
  | prepare implementation supplied =>
    exact announces_prepare implementation supplied engine sound published
  | @validate realization listed fromRoot =>
    rw [run_validateResolution] at kept ⊢
    split
    · rename_i checks
      rw [if_pos checks] at kept
      exact .quiet kept published rfl (fun _ _ known => known) rfl
        (realization.callSite.grows_checkLifetimes _) rfl
    · exact .quiet sound published rfl (fun _ _ known => known) rfl (.refl _) rfl
  | plan realization =>
    have same := (sound.nextPlan realization).1.2.realizations
    rw [run_nextPlan] at kept same ⊢
    cases listed : engine.realizations[realization]? with
    | none => exact .quiet sound published rfl (fun _ _ known => known) rfl (.refl _) rfl
    | some found =>
      simp only [listed] at kept same
      refine .quiet kept published (same.eq_of_length (by simp)).symm (fun _ _ known => known) rfl
        (.refl _) rfl

def Idles (engine later : Engine) : Prop :=
  later.realizations = engine.realizations ∧ later.outbox = engine.outbox

theorem idles_compositional : Compositional fun {_} action => Keeps Idles action :=
  keeps_compositional (fun _ => ⟨rfl, rfl⟩)
    fun _ _ _ first second => ⟨second.1.trans first.1, second.2.trans first.2⟩

theorem idles_validateDescriptor (position : Nat) : Keeps Idles (validateDescriptor position) := by
  refine idles_compositional.bind (fun _ => ⟨rfl, rfl⟩) fun engine => ?_
  refine idles_compositional.bind (fun _ => ⟨rfl, rfl⟩) fun found => ?_
  cases found with
  | none => exact idles_compositional.pure _
  | some callSite =>
    exact validateGraph_of idles_compositional (fun _ => ⟨rfl, rfl⟩) (fun _ _ => ⟨rfl, rfl⟩) callSite

theorem idles_collectFailures (position remaining : Nat) (engine : Engine) :
    engine.Idles ((collectFailures position remaining).run engine).2 := by
  induction remaining generalizing position engine with
  | zero => exact ⟨rfl, rfl⟩
  | succ remaining ih =>
    rw [run_collectFailures]
    obtain ⟨realized, told⟩ := idles_validateDescriptor position engine
    obtain ⟨others, also⟩ := ih (position + 1) ((validateDescriptor position).run engine).2
    exact ⟨others.trans realized, also.trans told⟩

theorem idle_of_build {blueprint : Blueprint} {options : Options} {observers : List Observer}
    (h : build blueprint options observers = .ok engine) :
    Idles { blueprint, options, observers } engine := by
  unfold build at h
  split at h
  · have validated : Keeps Idles validateDescriptors := by
      refine idles_compositional.bind (fun _ => ⟨rfl, rfl⟩) fun engine => ?_
      refine idles_compositional.bind (idles_collectFailures 0 _) fun failures => ?_
      split
      · exact idles_compositional.pure _
      · exact idles_compositional.throw _
    have idle := validated { blueprint, options, observers }
    dsimp only at h
    cases ended : validateDescriptors.run { blueprint, options, observers } with
    | mk result later =>
      rw [ended] at h idle
      cases result with
      | error failure => cases h
      | ok _ =>
        cases h
        exact idle
  · cases h
    exact ⟨rfl, rfl⟩

end Engine
end ServiceContainer
