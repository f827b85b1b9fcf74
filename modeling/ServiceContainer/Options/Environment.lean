import ServiceContainer.Options
import ServiceContainer.Text.Uppercase

/-! Options from environment variables. A variable that is absent, is not text or has no valid
value leaves its default. -/
namespace ServiceContainer

/-- Bytes of the entries `name=value`, in their order. -/
abbrev Environment := List (List UInt8)

namespace Environment

def ofPairs (pairs : List (String × List UInt8)) : Environment :=
  pairs.map fun (name, value) => name.toUTF8.toList ++ '='.toUInt8 :: value

/-- The value in the first entry that begins with the name and `=`. -/
def value? (environment : Environment) (name : String) : Option (List UInt8) :=
  let start := name.toUTF8.toList ++ ['='.toUInt8]
  (List.find? start.isPrefixOf environment).map (·.drop start.length)

def text? (environment : Environment) (name : String) : Option String := do
  let bytes ← environment.value? name
  String.fromUTF8? ⟨bytes.toArray⟩

end Environment

def parseFlag (text : String) : Option Bool :=
  let word := Text.fold text
  if ["1", "true", "yes", "on"].contains word then some true
  else if ["0", "false", "no", "off"].contains word then some false
  else none

/-- Options from the variables whose names begin with the prefix in upper case. -/
def Options.ofEnvironment (start : String) (environment : Environment) : Options :=
  let found (name : String) := environment.text? (Text.uppercase start ++ "_" ++ name)
  let options : Options := {}
  { validateOnBuild := ((found "VALIDATE_ON_BUILD").bind parseFlag).getD options.validateOnBuild
    validateScopes := ((found "VALIDATE_SCOPES").bind parseFlag).getD options.validateScopes
    mode := ((found "MODE").bind fun text => (Mode.parse text).toOption).getD options.mode }

end ServiceContainer
