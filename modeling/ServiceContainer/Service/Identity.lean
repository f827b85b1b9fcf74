/-! Identities of services. A type is told apart by its number alone; its name is only for
messages. A closed generic is another service than the plain type it closes to, and a
collection another than its element. Main statements: `==` is an equivalence, and equal
services have equal digests. -/
namespace ServiceContainer

abbrev TypeId := Nat

structure TypeInfo where
  id : TypeId
  name : String
  deriving Repr

namespace TypeInfo

instance : BEq TypeInfo where
  beq a b := a.id == b.id

def afterLastPath : List Char → Option (List Char)
  | [] => none
  | c :: rest =>
    match afterLastPath rest with
    | some found => some found
    | none => if c == ':' && rest.head? == some ':' then some rest.tail else none

/-- The name without its path; the path ends before the first type argument. -/
def shortName (info : TypeInfo) : String :=
  let base := info.name.toList.takeWhile (· != '<')
  match afterLastPath base with
  | some short => String.ofList (short ++ info.name.toList.dropWhile (· != '<'))
  | none => info.name

end TypeInfo

inductive ServiceType where
  | plain (info : TypeInfo)
  /-- A closed generic type, which open registrations of its definition may serve. -/
  | generic (closed definition : TypeInfo) (arguments : List ServiceType)
  | collection (element : ServiceType)

namespace ServiceType

def same : ServiceType → ServiceType → Bool
  | .plain a, .plain b => a == b
  | .generic a _ _, .generic b _ _ => a == b
  | .collection a, .collection b => same a b
  | _, _ => false

instance : BEq ServiceType where
  beq := same

def digest : ServiceType → List Nat
  | .plain info => [0, info.id]
  | .collection element => 1 :: digest element
  | .generic closed _ _ => [2, closed.id]

/-- The name used in messages; a collection has the name of its element. -/
def name : ServiceType → String
  | .plain info => info.name
  | .generic closed _ _ => closed.name
  | .collection element => element.name

def display : ServiceType → String
  | .collection element => "Enumerable<" ++ element.display ++ ">"
  | service => service.name

def displayAll (services : List ServiceType) : String :=
  "[" ++ String.intercalate ", " (services.map display) ++ "]"

def typeId : ServiceType → Option TypeId
  | .plain info => some info.id
  | .generic closed _ _ => some closed.id
  | .collection _ => none

def element : ServiceType → Option ServiceType
  | .collection element => some element
  | _ => none

def isCollection : ServiceType → Bool
  | .collection _ => true
  | _ => false

def definition : ServiceType → Option TypeInfo
  | .generic _ definition _ => some definition
  | _ => none

/-- The identity under which registrations are filed: a closed generic is filed under its
plain type. -/
def canonical : ServiceType → ServiceType
  | .generic closed _ _ => .plain closed
  | service => service

theorem same_refl : ∀ a : ServiceType, same a a = true
  | .plain info => by simp [same, BEq.beq]
  | .generic closed _ _ => by simp [same, BEq.beq]
  | .collection element => by simpa [same] using same_refl element

theorem same_symm : ∀ {a b : ServiceType}, same a b = true → same b a = true
  | .plain _, .plain _, h => by simp_all [same, BEq.beq]
  | .generic _ _ _, .generic _ _ _, h => by simp_all [same, BEq.beq]
  | .collection a, .collection b, h => by
    simp only [same] at h ⊢
    exact same_symm h
  | .plain _, .generic _ _ _, h | .plain _, .collection _, h => by simp [same] at h
  | .generic _ _ _, .plain _, h | .generic _ _ _, .collection _, h => by simp [same] at h
  | .collection _, .plain _, h | .collection _, .generic _ _ _, h => by simp [same] at h

/-- Equal services feed the same numbers to a hash, and only equal ones do. -/
theorem digest_eq_iff : ∀ {a b : ServiceType}, a.digest = b.digest ↔ same a b = true
  | .plain _, .plain _ => by simp [same, digest, BEq.beq]
  | .generic _ _ _, .generic _ _ _ => by simp [same, digest, BEq.beq]
  | .collection a, .collection b => by simpa [same, digest] using digest_eq_iff (a := a) (b := b)
  | .plain _, .generic _ _ _ | .plain _, .collection _ => by simp [same, digest]
  | .generic _ _ _, .plain _ | .generic _ _ _, .collection _ => by simp [same, digest]
  | .collection _, .plain _ | .collection _, .generic _ _ _ => by simp [same, digest]

instance : EquivBEq ServiceType where
  rfl {a} := same_refl a
  symm h := same_symm h
  trans hab hbc := digest_eq_iff.1 ((digest_eq_iff.2 hab).trans (digest_eq_iff.2 hbc))

end ServiceType

inductive OwnService
  | scope
  | scopeFactory
  | activatorFactory
  deriving DecidableEq, Repr

/-- The numbers of the container's own types; a host numbers its types from `firstFree` on. -/
def OwnService.id : OwnService → TypeId
  | .scope => 0
  | .scopeFactory => 1
  | .activatorFactory => 2

def listTypeId : TypeId := 3

def firstFreeTypeId : TypeId := 4

def OwnService.ofId? (id : TypeId) : Option OwnService :=
  [OwnService.scope, .scopeFactory, .activatorFactory].find? (·.id == id)

def ServiceType.own? (service : ServiceType) : Option OwnService :=
  service.typeId.bind OwnService.ofId?

end ServiceContainer
