import ServiceContainer.CallSite
import ServiceContainer.Table

/-! Listing of a graph's nodes. Nodes are numbered from zero in the order in which a walk from the
root, parents first, meets them; a shared node is listed once. -/
namespace ServiceContainer

structure ListedNode where
  site : Site
  kind : SiteKind
  children : List Nat

structure Listing where
  known : Table CacheKey Nat := {}
  nodes : List ListedNode := []

namespace Listing

/-- The number of a node; one that is met for the first time is listed before its children. -/
def place (callSite : CallSite) (children : StateM Listing (List Nat)) : StateM Listing Nat := do
  let listing ← get
  match callSite.answers?.bind listing.known.lookup with
  | some number => pure number
  | none =>
    let number := listing.nodes.length
    set { known := match callSite.answers? with
            | some key => listing.known.insert key number
            | none => listing.known
          nodes := listing.nodes ++ [⟨callSite.site, callSite.kind, []⟩] : Listing }
    let children ← children
    modify fun listing =>
      { listing with nodes := listing.nodes.modify number fun node => { node with children } }
    pure number

mutual
def number : CallSite → StateM Listing Nat
  | .construct site activate cast parameters =>
    place (.construct site activate cast parameters) (numberAll parameters)
  | .collect site items => place (.collect site items) (numberAll items)
  | .constant site value => place (.constant site value) (pure [])
  | .fallback site value => place (.fallback site value) (pure [])
  | .factory site body => place (.factory site body) (pure [])
  | .own site service => place (.own site service) (pure [])
def numberAll : List CallSite → StateM Listing (List Nat)
  | [] => pure []
  | callSite :: rest => do
    let first ← number callSite
    let others ← numberAll rest
    pure (first :: others)
end

end Listing

def CallSite.listed (callSite : CallSite) : List ListedNode :=
  ((Listing.number callSite).run {}).2.nodes

end ServiceContainer
