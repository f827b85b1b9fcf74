/-! Reading JSON text. A reader takes characters from the front of the text and returns what is
left; `none` means that the text has no such beginning. A value that nobody asks for is skipped:
its form is checked, its content is not. -/
namespace ServiceContainer.Json

abbrev Reader (α : Type) := List Char → Option (α × List Char)

def isSpace (c : Char) : Bool := c == ' ' || c == '\n' || c == '\t' || c == '\r'

def skipSpaces (text : List Char) : List Char := text.dropWhile isSpace

def literal : List Char → Reader Unit
  | [], text => some ((), text)
  | c :: rest, d :: text => if c == d then literal rest text else none
  | _ :: _, [] => none

def token (c : Char) (text : List Char) : Option (List Char) :=
  match skipSpaces text with
  | d :: rest => if c == d then some rest else none
  | [] => none

def hexDigit (c : Char) : Option Nat :=
  if '0' ≤ c ∧ c ≤ '9' then some (c.toNat - 48)
  else if 'a' ≤ c ∧ c ≤ 'f' then some (c.toNat - 87)
  else if 'A' ≤ c ∧ c ≤ 'F' then some (c.toNat - 55)
  else none

def hexFour : Reader Nat
  | a :: b :: c :: d :: rest => do
    let a ← hexDigit a
    let b ← hexDigit b
    let c ← hexDigit c
    let d ← hexDigit d
    some (((a * 16 + b) * 16 + c) * 16 + d, rest)
  | _ => none

def escaped : Char → Option Char
  | '"' => some '"'
  | '\\' => some '\\'
  | '/' => some '/'
  | 'b' => some (Char.ofNat 8)
  | 'f' => some (Char.ofNat 12)
  | 'n' => some '\n'
  | 'r' => some '\r'
  | 't' => some '\t'
  | _ => none

/-- The character that a `\u` escape begins: a high half needs a low half after it, and a low
half has no place of its own. -/
def unicodeEscape (text : List Char) : Option (Char × List Char) := do
  let (unit, rest) ← hexFour text
  if 0xDC00 ≤ unit ∧ unit ≤ 0xDFFF then none
  else if 0xD800 ≤ unit ∧ unit ≤ 0xDBFF then
    match rest with
    | '\\' :: 'u' :: rest =>
      let (low, rest) ← hexFour rest
      if 0xDC00 ≤ low ∧ low ≤ 0xDFFF then
        some (Char.ofNat (0x10000 + (unit - 0xD800) * 0x400 + (low - 0xDC00)), rest)
      else none
    | _ => none
  else some (Char.ofNat unit, rest)

def stringBody (fuel : Nat) (text : List Char) : Option (List Char × List Char) :=
  match fuel with
  | 0 => none
  | fuel + 1 =>
    match text with
    | '"' :: rest => some ([], rest)
    | '\\' :: 'u' :: rest => do
      let (c, rest) ← unicodeEscape rest
      let (cs, rest) ← stringBody fuel rest
      some (c :: cs, rest)
    | '\\' :: e :: rest => do
      let c ← escaped e
      let (cs, rest) ← stringBody fuel rest
      some (c :: cs, rest)
    | c :: rest =>
      if c == '\\' || c.toNat < 0x20 then none
      else do
        let (cs, rest) ← stringBody fuel rest
        some (c :: cs, rest)
    | [] => none

def string (text : List Char) : Option (String × List Char) := do
  let text ← token '"' text
  let (cs, rest) ← stringBody (text.length + 1) text
  some (String.ofList cs, rest)

/-- Passes over the rest of a string; a `\u` escape may name half a character. -/
def skipStringBody (fuel : Nat) (text : List Char) : Option (List Char) :=
  match fuel with
  | 0 => none
  | fuel + 1 =>
    match text with
    | '"' :: rest => some rest
    | '\\' :: 'u' :: rest => do
      let (_, rest) ← hexFour rest
      skipStringBody fuel rest
    | '\\' :: e :: rest => if (escaped e).isSome then skipStringBody fuel rest else none
    | c :: rest => if c == '\\' || c.toNat < 0x20 then none else skipStringBody fuel rest
    | [] => none

def skipDigits (text : List Char) : List Char := text.dropWhile Char.isDigit

def someDigits : List Char → Option (List Char)
  | c :: rest => if c.isDigit then some (skipDigits rest) else none
  | [] => none

def skipExponent : List Char → Option (List Char)
  | '+' :: rest | '-' :: rest => someDigits rest
  | rest => someDigits rest

/-- Passes over an unsigned number; only zero itself begins with the digit zero. -/
def skipNumber (text : List Char) : Option (List Char) := do
  let whole ←
    match text with
    | '0' :: rest => if (rest.head?.any Char.isDigit) then none else some rest
    | rest => someDigits rest
  let fraction ←
    match whole with
    | '.' :: rest => someDigits rest
    | rest => some rest
  match fraction with
  | 'e' :: rest | 'E' :: rest => skipExponent rest
  | rest => some rest

def skipScalar (text : List Char) : Option (List Char) :=
  match text with
  | 'n' :: rest => (literal "ull".toList rest).map (·.2)
  | 't' :: rest => (literal "rue".toList rest).map (·.2)
  | 'f' :: rest => (literal "alse".toList rest).map (·.2)
  | '"' :: rest => skipStringBody (rest.length + 1) rest
  | '-' :: rest => skipNumber rest
  | rest => skipNumber rest

def skipName (text : List Char) : Option (List Char) := do
  let text ← token '"' text
  let rest ← skipStringBody (text.length + 1) text
  token ':' rest

/-- What a skipped text goes on with: a value, or what may follow one. -/
inductive Expect
  | value
  | first
  | after
  deriving DecidableEq

/-- Passes over one value. `opened` tells, for each bracket not yet closed, whether it is a
brace. -/
def skipValueIn (fuel : Nat) (expect : Expect) (opened : List Bool) (text : List Char) :
    Option (List Char) :=
  match fuel with
  | 0 => none
  | fuel + 1 =>
    match expect, opened, skipSpaces text with
    | .after, [], _ => some text
    | .after, brace :: outer, ',' :: rest => do
      let rest ← if brace then skipName rest else some rest
      skipValueIn fuel .value (brace :: outer) rest
    | .after, false :: outer, ']' :: rest | .first, false :: outer, ']' :: rest =>
      skipValueIn fuel .after outer rest
    | .after, true :: outer, '}' :: rest | .first, true :: outer, '}' :: rest =>
      skipValueIn fuel .after outer rest
    | .after, _, _ => none
    | .first, true :: outer, rest => do
      let rest ← skipName rest
      skipValueIn fuel .value (true :: outer) rest
    | .value, opened, '[' :: rest | .first, opened, '[' :: rest =>
      skipValueIn fuel .first (false :: opened) rest
    | .value, opened, '{' :: rest | .first, opened, '{' :: rest =>
      skipValueIn fuel .first (true :: opened) rest
    | .value, opened, rest | .first, opened, rest => do
      let rest ← skipScalar rest
      skipValueIn fuel .after opened rest

def skipValue (text : List Char) : Option (List Char) :=
  skipValueIn (2 * text.length + 2) .value [] text

def boolean (text : List Char) : Option (Bool × List Char) :=
  match skipSpaces text with
  | 't' :: rest => (literal "rue".toList rest).map fun (_, rest) => (true, rest)
  | 'f' :: rest => (literal "alse".toList rest).map fun (_, rest) => (false, rest)
  | _ => none

/-- One of several names, written as a string or as an object that maps the name to null. -/
def choice (find : String → Option α) (text : List Char) : Option (α × List Char) :=
  match skipSpaces text with
  | '{' :: rest => do
    let (name, rest) ← string rest
    let found ← find name
    let rest ← token ':' rest
    let (_, rest) ← literal "null".toList (skipSpaces rest)
    let rest ← token '}' rest
    some (found, rest)
  | rest => do
    let (name, rest) ← string rest
    let found ← find name
    some (found, rest)

def whole (read : List Char → Option (α × List Char)) (text : String) : Option α := do
  let (value, rest) ← read text.toList
  if (skipSpaces rest).isEmpty then some value else none

end ServiceContainer.Json
