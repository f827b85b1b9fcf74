import ServiceContainer.Proofs.Constructor.Selection

/-! Actions that may fail and keep what they did to their state until then. What every step does to
the state, and every change of state that no step notices, carries over to sequences. -/
namespace ServiceContainer.Stateful
variable {σ ε α β : Type}

theorem run_mk (result : Except ε α) (state : σ) :
    (ExceptT.mk (pure result) : ExceptT ε (StateM σ) α).run state = (result, state) := rfl

theorem run_get_bind (next : σ → ExceptT ε (StateM σ) α) (state : σ) :
    ((get : ExceptT ε (StateM σ) σ) >>= next).run state = (next state).run state := rfl

theorem run_bind (first : ExceptT ε (StateM σ) α) (next : α → ExceptT ε (StateM σ) β)
    (state : σ) :
    (first >>= next).run state =
      match first.run state with
      | (.ok value, later) => (next value).run later
      | (.error failure, later) => (.error failure, later) := by
  change ((first.run >>= ExceptT.bindCont next : StateM σ (Except ε β)) state) = _
  change (match first.run state with
    | (result, later) => (ExceptT.bindCont next result : StateM σ (Except ε β)) later) = _
  obtain ⟨result, later⟩ := first.run state
  cases result <;> rfl

theorem run_bind_eq {first : ExceptT ε (StateM σ) α} {next : α → ExceptT ε (StateM σ) β}
    {state last : σ} {result : Except ε β} (h : (first >>= next).run state = (result, last)) :
    (∃ value later, first.run state = (.ok value, later) ∧
      (next value).run later = (result, last)) ∨
    ∃ failure, first.run state = (.error failure, last) ∧ result = .error failure := by
  rw [run_bind] at h
  cases ended : first.run state with
  | mk outcome later =>
    rw [ended] at h
    cases outcome with
    | ok value => exact .inl ⟨value, later, rfl, h⟩
    | error failure =>
      cases h
      exact .inr ⟨failure, rfl, rfl⟩

/-- However the action ends, it leaves a state that the relation allows. -/
def Keeps (allowed : σ → σ → Prop) (action : ExceptT ε (StateM σ) α) : Prop :=
  ∀ state, allowed state (action.run state).2

theorem bind_allowed (allowed : σ → σ → Prop)
    (trans : ∀ state later last, allowed state later → allowed later last → allowed state last)
    {first : ExceptT ε (StateM σ) α} {next : α → ExceptT ε (StateM σ) β} {state : σ}
    (before : allowed state (first.run state).2) (rest : ∀ value, Keeps allowed (next value)) :
    allowed state ((first >>= next).run state).2 := by
  rw [run_bind]
  cases ended : first.run state with
  | mk outcome later =>
    rw [ended] at before
    cases outcome with
    | ok value => exact trans _ _ _ before (rest value later)
    | error failure => exact before

theorem keeps_compositional {allowed : σ → σ → Prop} (refl : ∀ state, allowed state state)
    (trans : ∀ state later last, allowed state later → allowed later last → allowed state last) :
    Compositional fun {_} action => Keeps allowed action where
  pure _ state := refl state
  throw _ state := refl state
  bind kept rest state := bind_allowed allowed trans (kept state) rest

/-- The action does not notice the change of state, and its own changes go along with it. -/
def Commutes (change : σ → σ) (action : ExceptT ε (StateM σ) α) : Prop :=
  ∀ state, action.run (change state) = ((action.run state).1, change (action.run state).2)

theorem commutes_compositional (change : σ → σ) :
    Compositional fun {_} action => Commutes change action where
  pure _ _ := rfl
  throw _ _ := rfl
  bind {_ _ first next} same rest state := by
    have before := same state
    rw [run_bind, run_bind, before]
    cases ended : first.run state with
    | mk outcome later =>
      cases outcome with
      | ok value => exact rest value later
      | error failure => rfl

/-- A look at the state goes unnoticed if what follows does not depend on the change. -/
theorem commutes_get {change : σ → σ} {next : σ → ExceptT ε (StateM σ) α}
    (same : ∀ state, next (change state) = next state)
    (rest : ∀ state, Commutes change (next state)) :
    Commutes change ((get : ExceptT ε (StateM σ) σ) >>= next) := by
  intro state
  rw [run_get_bind, run_get_bind, same]
  exact rest state state

end ServiceContainer.Stateful
