/-! How long an instance is kept, and where the result of a call site is stored. -/
namespace ServiceContainer

inductive Lifetime
  /-- one instance for the provider, kept by the root scope -/
  | singleton
  /-- one instance for each scope -/
  | scoped
  /-- a new instance for each resolution -/
  | transient
  deriving DecidableEq, Repr

def Lifetime.name : Lifetime → String
  | .singleton => "Singleton"
  | .scoped => "Scoped"
  | .transient => "Transient"

inductive CacheLocation
  | root
  | scope
  | nowhere
  deriving DecidableEq, Repr

def CacheLocation.name : CacheLocation → String
  | .root => "Root"
  | .scope => "Scope"
  | .nowhere => "None"

def Lifetime.location : Lifetime → CacheLocation
  | .singleton => .root
  | .scoped => .scope
  | .transient => .nowhere

theorem Lifetime.location_eq_nowhere_iff {lifetime : Lifetime} :
    lifetime.location = .nowhere ↔ lifetime = .transient := by
  cases lifetime <;> decide

end ServiceContainer
