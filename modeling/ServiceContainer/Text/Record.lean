import ServiceContainer.Text.Glyph

/-! Texts of records: a name and its fields in braces, lists in brackets, quoted strings. -/
namespace ServiceContainer.Text

def flag (b : Bool) : String := if b then "true" else "false"

def commas (items : List String) : String := String.intercalate ", " items

def list (items : List String) : String := "[" ++ commas items ++ "]"

def fields (named : List (String × String)) : List String :=
  named.map fun (name, text) => name ++ ": " ++ text

def record (name : String) (named : List (String × String)) : String :=
  name ++ " \x7b " ++ commas (fields named) ++ " \x7d"

def openRecord (name : String) (named : List (String × String)) : String :=
  name ++ " \x7b " ++ commas (fields named ++ [".."]) ++ " \x7d"

def hexText (n : Nat) : String := String.ofList (Nat.toDigits 16 n)

/-- A character within quotes; one without a glyph is written by its number. -/
def quotedChar (c : Char) : String :=
  match c with
  | '"' => "\\\""
  | '\\' => "\\\\"
  | '\n' => "\\n"
  | '\r' => "\\r"
  | '\t' => "\\t"
  | '\x00' => "\\0"
  | c =>
    if hasGlyph c then String.singleton c else "\\u\x7b" ++ hexText c.toNat ++ "\x7d"

def quoted (text : String) : String :=
  "\"" ++ String.join (text.toList.map quotedChar) ++ "\""

end ServiceContainer.Text
