import ServiceContainer.Proofs.Engine.Veil
import ServiceContainer.Proofs.World

/-! Worlds behind a veil, which leaves out of one engine how it checks lifetimes, or who observes it
and what they were told. Main statement: notices, and all that an engine does, are the same behind
the veil but for what it hides. -/
namespace ServiceContainer

namespace Veil

/-- Whether an event is more than a notice to hidden observers. -/
def hears (veil : Veil) : Event → Bool
  | .notified engine _ => !(veil.deaf && engine == veil.engine)
  | _ => true

def metrics (veil : Veil) (metrics : List Metrics) : List Metrics :=
  if veil.deaf then [] else metrics

end Veil

namespace World
variable {veil : Veil}

/-- The world with what the veil hides left out; if it hides observers, then also their metrics. -/
def behind (world : World) (veil : Veil) : World :=
  { world with
    engines := world.engines.modify veil.engine (·.behind veil)
    journal := world.journal.filter veil.hears
    metrics := veil.metrics world.metrics }

theorem engine_behind (world : World) (id : EngineId) :
    (world.behind veil).engine id =
      if id = veil.engine then (world.engine id).behind veil else world.engine id := by
  have fresh : ({} : Engine).behind veil = {} := by
    obtain ⟨engine, deaf, lax⟩ := veil
    cases deaf <;> cases lax <;> rfl
  change ((world.engines.modify veil.engine (·.behind veil))[id]?).getD {} =
    if id = veil.engine then Engine.behind (world.engines[id]?.getD {}) veil
    else world.engines[id]?.getD {}
  rw [List.getElem?_modify]
  by_cases here : veil.engine = id
  · rw [if_pos here.symm]
    cases world.engines[id]? with
    | none => exact fresh.symm
    | some engine => exact if_pos here
  · rw [if_neg (Ne.symm here)]
    cases world.engines[id]? with
    | none => rfl
    | some engine => exact if_neg here

theorem observers_hidden (deaf : veil.deaf = true) (world : World) :
    ((world.behind veil).engine veil.engine).observers = [] := by
  rw [engine_behind, if_pos rfl]
  exact if_pos deaf

theorem observers_shown {id : EngineId} (shown : ¬(veil.deaf = true ∧ id = veil.engine))
    (world : World) : ((world.behind veil).engine id).observers = (world.engine id).observers := by
  rw [engine_behind]
  split
  next here => exact if_neg fun deaf => shown ⟨deaf, here⟩
  next => rfl

theorem graph?_behind (world : World) (id : EngineId) (realization : Nat) :
    (world.behind veil).graph? id realization = world.graph? id realization := by
  unfold graph?
  rw [engine_behind]
  split <;> rfl

/-- A veil that hides no observers covers nothing but the engine. -/
theorem behind_of_hearing (hearing : veil.deaf = false) (world : World) :
    world.behind veil = world.updateEngine veil.engine (·.behind veil) := by
  have all : world.journal.filter veil.hears = world.journal := by
    refine List.filter_eq_self.2 fun event _ => ?_
    cases event <;> simp [Veil.hears, hearing]
  simp [behind, updateEngine, all, Veil.metrics, hearing]

theorem behind_absent (hearing : veil.deaf = false) {world : World}
    (absent : world.engines[veil.engine]? = none) : world.behind veil = world := by
  rw [behind_of_hearing hearing, updateEngine_absent absent]

theorem behind_clear (id : EngineId) (world : World) : world.behind ⟨id, false, false⟩ = world := by
  rw [behind_of_hearing rfl, updateEngine]
  exact congrArg (fun engines => { world with engines }) (List.modify_id id world.engines)

theorem behind_record {event : Event} (heard : veil.hears event = true) (world : World) :
    (world.record event).behind veil = (world.behind veil).record event := by
  simp only [behind, record, List.filter_cons_of_pos heard]

theorem behind_count (world : World) (notice : Notice) (observer : Observer) :
    (world.count notice observer).behind veil = (world.behind veil).count notice observer := by
  cases observer with
  | counter metrics =>
    simp only [count, behind, Veil.metrics]
    split
    · rw [List.modify_nil]
    · rfl
  | recorder name | quiet | silent => rfl

theorem behind_counted (observers : List Observer) (world : World) (notice : Notice) :
    (observers.foldl (count · notice) world).behind veil =
      observers.foldl (count · notice) (world.behind veil) := by
  induction observers generalizing world with
  | nil => rfl
  | cons observer rest ih => rw [List.foldl_cons, List.foldl_cons, ih, behind_count]

theorem counted_behind (deaf : veil.deaf = true) (observers : List Observer) (world : World)
    (notice : Notice) :
    observers.foldl (count · notice) (world.behind veil) = world.behind veil := by
  have none : veil.metrics world.metrics = [] := by simp [Veil.metrics, deaf]
  induction observers with
  | nil => rfl
  | cons observer rest ih =>
    have same : (world.behind veil).count notice observer = world.behind veil := by
      cases observer with
      | counter metrics => simp only [count, behind, none, List.modify_nil]
      | recorder name | quiet | silent => rfl
    rw [List.foldl_cons, same, ih]

theorem notify_hidden (deaf : veil.deaf = true) (world : World) (notice : Notice) :
    notify veil.engine (world.behind veil) notice = world.behind veil := by
  rw [notify, observers_hidden deaf]
  rfl

theorem behind_notify (id : EngineId) (world : World) (notice : Notice) :
    (notify id world notice).behind veil = notify id (world.behind veil) notice := by
  by_cases hidden : veil.deaf = true ∧ id = veil.engine
  · obtain ⟨deaf, rfl⟩ := hidden
    have unheard : veil.hears (.notified veil.engine notice) = false := by
      simp [Veil.hears, deaf]
    have silent :
        (world.record (.notified veil.engine notice)).behind veil = world.behind veil := by
      simp only [behind, record, List.filter_cons, unheard, Bool.false_eq_true, if_false]
    rw [notify_hidden deaf, notify]
    split
    · rfl
    · rw [behind_counted, silent, counted_behind deaf]
  · have heard : veil.hears (.notified id notice) = true := by
      cases deaf : veil.deaf with
      | false => simp [Veil.hears, deaf]
      | true => simp [Veil.hears, show id ≠ veil.engine from fun same => hidden ⟨deaf, same⟩]
    rw [notify, notify, observers_shown hidden]
    split
    · rfl
    · rw [behind_counted, behind_record heard]

theorem behind_sent (id : EngineId) (notices : List Notice) (world : World) :
    (notices.foldl (notify id) world).behind veil =
      notices.foldl (notify id) (world.behind veil) := by
  induction notices generalizing world with
  | nil => rfl
  | cons notice rest ih => rw [List.foldl_cons, ih, behind_notify, List.foldl_cons]

theorem behind_updateEngine (world : World) (id : EngineId) (engine : Engine) :
    (world.updateEngine id fun _ => engine).behind veil =
      (world.behind veil).updateEngine id
        fun _ => if id = veil.engine then engine.behind veil else engine := by
  have same : (world.engines.modify id fun _ => engine).modify veil.engine (·.behind veil) =
      (world.engines.modify veil.engine (·.behind veil)).modify id
        fun _ => if id = veil.engine then engine.behind veil else engine := by
    apply List.ext_getElem?
    intro place
    simp only [List.getElem?_modify]
    cases world.engines[place]? with
    | none => rfl
    | some found =>
      by_cases here : id = place
      · by_cases mine : id = veil.engine
        · subst here mine
          simp
        · have other : veil.engine ≠ id := Ne.symm mine
          subst here
          simp [other, mine]
      · simp [here]
  simp only [behind, updateEngine, same]

theorem behind_withEngine (world : World) (id : EngineId) (engine : Engine) :
    (world.withEngine id engine).behind veil =
      (world.behind veil).withEngine id
        (if id = veil.engine then engine.behind veil else engine) := by
  unfold withEngine
  rw [behind_sent, behind_updateEngine]
  split <;> rfl

end World
end ServiceContainer
