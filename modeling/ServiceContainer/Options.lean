import ServiceContainer.Text.Blank

/-! The options that a provider is built with. -/
namespace ServiceContainer

inductive Mode
  /-- interpret the first time, compile afterwards -/
  | dynamic
  /-- always interpret -/
  | runtime
  /-- always compile -/
  | compiled
  deriving DecidableEq, Repr, Inhabited

namespace Mode

def all : List Mode := [.dynamic, .runtime, .compiled]

def name : Mode → String
  | .dynamic => "Dynamic"
  | .runtime => "Runtime"
  | .compiled => "Compiled"

def key : Mode → String
  | .dynamic => "dynamic"
  | .runtime => "runtime"
  | .compiled => "compiled"

def ofKey? (key : String) : Option Mode := all.find? (·.key == key)

/-- Reads a mode apart from blanks around it and the case of its letters; fails with the text that
it was compared as. -/
def parse (text : String) : Except String Mode :=
  match ofKey? (Text.fold text) with
  | some mode => .ok mode
  | none => .error ("unknown provider mode '" ++ Text.fold text ++ "'")

theorem ofKey?_key (mode : Mode) : ofKey? mode.key = some mode := by
  cases mode <;> rfl

end Mode

structure Options where
  /-- Check every registration when the provider is built. -/
  validateOnBuild : Bool := false
  /-- Refuse singletons that keep scoped services, and scoped services from the root. -/
  validateScopes : Bool := false
  mode : Mode := .dynamic
  deriving DecidableEq, Repr, Inhabited

namespace Options

def validating : Options := { validateOnBuild := true, validateScopes := true }

def withValidateOnBuild (options : Options) (enabled : Bool) : Options :=
  { options with validateOnBuild := enabled }

def withValidateScopes (options : Options) (enabled : Bool) : Options :=
  { options with validateScopes := enabled }

def withMode (options : Options) (mode : Mode) : Options :=
  { options with mode := mode }

end Options
end ServiceContainer
