import ServiceContainer.CallSite
import ServiceContainer.Table

/-! Lifetime checks of graphs. A call site needs a scoped service if it is one, or if a child that
is not a singleton needs one; a singleton that would need one is refused. Answers are
remembered by instance key. -/
namespace ServiceContainer

/-- The scoped service that is needed, by instance key. -/
abbrev Verdicts := Table CacheKey (Option String)

abbrev Check := ExceptT Failure (StateM Verdicts)

def Site.verdict (site : Site) (beneath : Option String) : Except Failure (Option String) :=
  match site.location, beneath with
  | .root, some dependency => .error (.invalidLifetimeCapture site.service.name dependency)
  | .root, none => .ok none
  | .scope, _ => .ok (some site.service.name)
  | .nowhere, beneath => .ok beneath

def Site.check (site : Site) (children : Check (Option String)) : Check (Option String) := do
  match (← get).lookup site.key with
  | some known => pure known
  | none =>
    let beneath ← children
    let verdict ← ExceptT.mk (pure (site.verdict beneath))
    modify (·.insert site.key verdict)
    pure verdict

namespace CallSite

mutual
/-- The scoped service that a graph needs from the scope it is resolved in, if any. -/
def checkLifetimes : CallSite → Check (Option String)
  | .construct site _ _ parameters => site.check (checkAll parameters)
  | .collect site items => site.check (checkAll items)
  | .constant site _ => site.check (pure none)
  | .fallback site _ => site.check (pure none)
  | .factory site _ => site.check (pure none)
  | .own site _ => site.check (pure none)
/-- The first scoped service that any of the graphs needs; all of them are checked. -/
def checkAll : List CallSite → Check (Option String)
  | [] => pure none
  | callSite :: rest => do
    let first ← callSite.checkLifetimes
    let others ← checkAll rest
    pure (first.or others)
end

end CallSite
end ServiceContainer
