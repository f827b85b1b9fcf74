import ServiceContainer.Proofs.Execution.Mirroring
import ServiceContainer.Proofs.Execution.Unfolding

/-! Handlers that answer more. Main statement: what is found with a handler that answers some of the
requests only, is found in the same way with one that answers all of them. -/
namespace ServiceContainer

/-- Whenever the act ends, the other one ends in the same way. -/
def Refines (act other : Act α) : Prop :=
  ∀ world ended, act world = some ended → other world = some ended

def Handler.Refines (handler other : Handler) : Prop :=
  ∀ request, ServiceContainer.Refines (handler request) (other request)

def Veil.clear : Veil := ⟨0, false, false⟩

/-- To refine an act is to mirror it as far as it ends, with nothing hidden. -/
theorem refines_iff_mirrors {act other : Act α} :
    Refines act other ↔ Mirrors Veil.clear.disguise True act other := by
  rw [Veil.mirrors_iff]
  refine forall_congr' fun world => ?_
  rw [Veil.clear, World.behind_clear]
  cases act world with
  | none => simp
  | some ended => simp [World.behind_clear]

namespace Container

theorem refines_respond {handler other : Handler} (more : handler.Refines other) :
    (respond handler).Refines (respond other) := by
  intro request
  have answers : handler.Mirrors Veil.clear.disguise True other := fun request =>
    refines_iff_mirrors.1 (more request)
  have paced := Run.paced_behind answers (Run.mirrored_onEngine rfl True)
  have answered := mirrors_respond answers paced request
  rw [respondBy_onEngine] at answered
  exact refines_iff_mirrors.2 answered

/-- Where all requests keep to the scopes that are handed, it makes no difference that others would
not have been answered. -/
theorem refines_confine (fuel : Nat) : (confine fuel).Refines (perform fuel) := by
  induction fuel with
  | zero =>
    rintro request world _ ⟨⟩
  | succ fuel ih =>
    intro request world ended h
    rw [confine] at h
    dsimp only at h
    split at h
    · exact refines_respond ih request world ended h
    · cases h

end Container
end ServiceContainer
