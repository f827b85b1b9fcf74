import ServiceContainer.Json.Reader
import ServiceContainer.Options
import ServiceContainer.Service.Lifetime

/-! Options and lifetimes as JSON. Options are an object, in which each known field stands at most
once and unknown fields are passed over, or an array of the fields in their order, which may end
early. -/
namespace ServiceContainer
namespace Options

inductive Field
  | validateOnBuild
  | validateScopes
  | mode
  deriving DecidableEq, Repr

def Field.all : List Field := [.validateOnBuild, .validateScopes, .mode]

def Field.key : Field → String
  | .validateOnBuild => "validate_on_build"
  | .validateScopes => "validate_scopes"
  | .mode => "mode"

def readField (options : Options) (field : Field) (text : List Char) :
    Option (Options × List Char) :=
  match field with
  | .validateOnBuild =>
    (Json.boolean text).map fun (enabled, rest) => (options.withValidateOnBuild enabled, rest)
  | .validateScopes =>
    (Json.boolean text).map fun (enabled, rest) => (options.withValidateScopes enabled, rest)
  | .mode =>
    (Json.choice Mode.ofKey? text).map fun (mode, rest) => (options.withMode mode, rest)

/-- The members of an object up to its closing brace; `free` lists the known fields not yet read. -/
def readMembers (fuel : Nat) (free : List Field) (options : Options) (text : List Char) :
    Option (Options × List Char) :=
  match fuel with
  | 0 => none
  | fuel + 1 => do
    let (name, rest) ← Json.string text
    let rest ← Json.token ':' rest
    let (options, free, rest) ←
      match Field.all.find? (·.key == name) with
      | some field =>
        if free.contains field then
          (readField options field rest).map fun (options, rest) =>
            (options, free.erase field, rest)
        else none
      | none => (Json.skipValue rest).map fun rest => (options, free, rest)
    match Json.skipSpaces rest with
    | ',' :: rest => readMembers fuel free options rest
    | '}' :: rest => some (options, rest)
    | _ => none

def readElements (options : Options) : List Field → List Char → Option (Options × List Char)
  | [], text => (Json.token ']' text).map fun rest => (options, rest)
  | field :: fields, text => do
    let (options, rest) ← readField options field text
    match Json.skipSpaces rest, fields with
    | ']' :: rest, _ => some (options, rest)
    | ',' :: rest, _ :: _ => readElements options fields rest
    | _, _ => none

def read (text : List Char) : Option (Options × List Char) :=
  match Json.skipSpaces text with
  | '{' :: rest =>
    match Json.skipSpaces rest with
    | '}' :: rest => some ({}, rest)
    | _ => readMembers rest.length Field.all {} rest
  | '[' :: rest =>
    match Json.skipSpaces rest with
    | ']' :: rest => some ({}, rest)
    | _ => readElements {} Field.all rest
  | _ => none

def ofJson? (text : String) : Option Options := Json.whole read text

def flagText (flag : Bool) : String := if flag then "true" else "false"

def toJson (options : Options) : String :=
  "\x7b\"validate_on_build\":" ++ flagText options.validateOnBuild ++
    ",\"validate_scopes\":" ++ flagText options.validateScopes ++
    ",\"mode\":\"" ++ options.mode.key ++ "\"\x7d"

end Options

namespace Lifetime

def all : List Lifetime := [.singleton, .scoped, .transient]

def ofName? (name : String) : Option Lifetime := all.find? (·.name == name)

def ofJson? (text : String) : Option Lifetime := Json.whole (Json.choice ofName?) text

def toJson (lifetime : Lifetime) : String := "\"" ++ lifetime.name ++ "\""

end Lifetime
end ServiceContainer
