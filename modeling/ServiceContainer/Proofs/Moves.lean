import ServiceContainer.Proofs.Step

/-! Moves of the world: steps as providers take them. Their engines change only when asked, and a
construction whose instance its owner takes over succeeds at once. Main statement: every move
consists of steps. -/
namespace ServiceContainer
namespace Engine

/-- What providers ask of their engines once these are built, and where it leaves them. -/
inductive Asked : Engine → Engine → Prop where
  | graph {engine : Engine} (service : ServiceType) : Asked engine ((callSite service).run engine).2
  | realize {engine : Engine} (service : ServiceType) :
      Asked engine ((Engine.realize service).run engine).2
  | prepare {engine : Engine} (implementation : TypeInfo) (supplied : List ServiceType) :
      Asked engine ((Engine.prepare implementation supplied).run engine).2
  | validate {engine : Engine} {realization : Realization}
      (listed : realization ∈ engine.realizations) (fromRoot : Bool) :
      Asked engine ((validateResolution realization.callSite fromRoot).run engine).2
  | plan {engine : Engine} (realization : Nat) :
      Asked engine ((nextPlan realization).run engine).2

theorem Asked.evolves {engine later : Engine} (asked : engine.Asked later) :
    engine.Evolves later := by
  cases asked with
  | graph service => exact keeps_callSite service engine
  | realize service => exact keeps_realize service engine
  | prepare implementation supplied => exact keeps_prepare implementation supplied engine
  | validate listed fromRoot =>
    intro sound
    cases ended : (validateResolution _ fromRoot).run engine with
    | mk result last => exact (sound.validateResolution (sound.holds listed) ended).1
  | plan realization => exact fun sound => (sound.nextPlan realization).1

end Engine

def Event.accepts : Event → Bool
  | .entrusted _ _ _ accepted => accepted
  | _ => false

theorem Event.accepts_of_unbooked {event : Event} (quiet : event.unbooked = true) :
    event.accepts = false := by
  cases event <;> first | rfl | cases quiet

namespace World

def Steps : World → World → Prop := Relation.ReflTransGen Step

theorem Steps.extends {world later : World} (steps : world.Steps later) : world.Extends later := by
  induction steps with
  | refl => exact .refl _
  | tail _ step ih => exact ih.trans step.extends

theorem Steps.wellFormed {world later : World} (formed : world.WellFormed)
    (steps : world.Steps later) : later.WellFormed := by
  induction steps with
  | refl => exact formed
  | tail _ step ih => exact step.wellFormed ih

inductive Move : World → World → Prop where
  | ask {world : World} (id : EngineId) {engine : Engine} (sound : engine.Sound)
      (grown : (world.engine id).Extends engine) (asked : (world.engine id).Asked engine) :
      Move world (world.withEngine id engine)
  /-- The innermost construction succeeds, the owner having taken over its instance. -/
  | settle {world : World} {site : Site} {owner : ScopeId} {disposable : Disposable}
      {value : Value} (making : world.Making site owner)
      (opened : (world.scope owner).state = .open) :
      Move world ((world.entrust site owner disposable value).finish site owner value)
  | step {world later : World} (events : List Event) (step : world.Step later)
      (engines : world.engines <+: later.engines)
      (journal : later.journal = events ++ world.journal)
      (untaken : ∀ event ∈ events, event.accepts = false) : Move world later

def Moves : World → World → Prop := Relation.ReflTransGen Move

namespace Making
variable {world : World} {site : Site} {owner : ScopeId} (making : world.Making site owner)
  (disposable : Disposable) (value : Value)
include making

theorem hosts_entrust : (world.entrust site owner disposable value).Hosts owner
    (world.scope owner).engine := by
  rw [Hosts, shapes_entrust]
  exact making.hosted

theorem engine_entrust : ((world.entrust site owner disposable value).scope owner).engine =
    (world.scope owner).engine :=
  (making.hosts_entrust disposable value).listed.2

theorem entrust : (world.entrust site owner disposable value).Making site owner := by
  have same := making.engine_entrust disposable value
  refine ⟨?_, same.symm ▸ making.hosts_entrust disposable value, ?_⟩
  · obtain ⟨outer, innermost⟩ := making.innermost
    exact ⟨outer, by rw [stack_entrust, innermost, World.frame, World.frame, same]⟩
  · rw [same, journal_entrust]
    exact List.mem_cons_of_mem _ making.begun

end Making

theorem Move.steps {world later : World} (move : world.Move later) : world.Steps later := by
  cases move with
  | ask id sound grown _ => exact .single (.engine id sound grown)
  | settle making opened =>
    exact .tail (.single (.entrust making (.inl opened))) (.complete (making.entrust _ _))
  | step _ step _ _ _ => exact .single step

theorem Moves.steps {world later : World} (moves : world.Moves later) : world.Steps later := by
  induction moves with
  | refl => exact .refl
  | tail _ move ih => exact ih.trans move.steps

theorem Moves.extends {world later : World} (moves : world.Moves later) : world.Extends later :=
  moves.steps.extends

theorem Step.unbookedMove {world later : World} (step : world.Step later)
    (unbooked : world.Unbooked later) (engines : world.engines <+: later.engines) :
    world.Move later := by
  obtain ⟨events, journal, quiet⟩ := unbooked.journal
  exact .step events step engines journal fun event member =>
    Event.accepts_of_unbooked (quiet event member)

end World
end ServiceContainer
