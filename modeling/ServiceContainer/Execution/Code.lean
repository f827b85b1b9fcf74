import ServiceContainer.CallSite
import ServiceContainer.Table

/-! Compiled call sites. Code has the parts of the call site that execution needs; constants
stand in it directly, and a node that a graph shares is compiled once. -/
namespace ServiceContainer

inductive Code where
  | constant (value : Value)
  | factory (site : Site) (body : ScopeId → Body)
  | construct (site : Site) (activate : Arguments → Body) (cast : Option InterfaceCast)
      (parameters : List Code)
  | collect (site : Site) (items : List Code)
  | own (site : Site) (service : OwnService)

namespace Code

abbrev Compiled := Table CacheKey Code

/-- Compiles a node that is met for the first time. -/
def once (node : Option CacheKey) (compile : StateM Compiled Code) : StateM Compiled Code := do
  match node with
  | none => compile
  | some key =>
    match (← get).lookup key with
    | some code => pure code
    | none =>
      let code ← compile
      modify (·.insert key code)
      pure code

mutual
def compileNode : CallSite → StateM Compiled Code
  | .constant site value => once (CallSite.constant site value).answers? (pure (.constant value))
  | .fallback _ value => pure (.constant value)
  | .factory site body => once (CallSite.factory site body).answers? (pure (.factory site body))
  | .own site service => once (CallSite.own site service).answers? (pure (.own site service))
  | .construct site activate cast parameters =>
    once (CallSite.construct site activate cast parameters).answers? do
      let parameters ← compileAll parameters
      pure (.construct site activate cast parameters)
  | .collect site items =>
    once (CallSite.collect site items).answers? do
      let items ← compileAll items
      pure (.collect site items)
def compileAll : List CallSite → StateM Compiled (List Code)
  | [] => pure []
  | callSite :: rest => do
    let code ← compileNode callSite
    let others ← compileAll rest
    pure (code :: others)
end

def ofCallSite (callSite : CallSite) : Code := ((compileNode callSite).run {}).1

end Code

inductive Accessor where
  | interpreted
  | compiled (code : Code)
  /-- Interprets the first call and compiles at the second; counts calls until then. -/
  | adaptive (calls : Nat) (code : Option Code)

inductive Plan where
  | interpret (callSite : CallSite)
  | execute (code : Code)

namespace Accessor

def next (callSite : CallSite) : Accessor → Plan × Accessor
  | .interpreted => (.interpret callSite, .interpreted)
  | .compiled code => (.execute code, .compiled code)
  | .adaptive calls (some code) => (.execute code, .adaptive calls (some code))
  | .adaptive 0 none => (.interpret callSite, .adaptive 1 none)
  | .adaptive (calls + 1) none =>
    let code := Code.ofCallSite callSite
    (.execute code, .adaptive (calls + 2) (some code))

end Accessor
end ServiceContainer
