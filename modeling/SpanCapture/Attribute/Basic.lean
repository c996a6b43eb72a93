import SpanCapture.Clock
import SpanCapture.Keyed
import SpanCapture.Number.Binary64

/-! Attribute values: what an operation, a hint or a setting may hold. There is no null,
and nothing that could refer back to a frame or a trace, so every value is a finite
tree. -/
namespace SpanCapture

/-- What can be stored under a name. -/
inductive Value where
  | bool (b : Bool)
  | int (i : Int64)
  | float (x : Binary64)
  | text (s : String)
  | date (t : Instant)
  | map (entries : List (String × Value))
  | list (items : List Value)
  deriving Repr, Inhabited

abbrev Attributes := Keyed Value

namespace Value

mutual

/-- Equality of values. Floating numbers are compared as numbers, so a value holding a
not-a-number differs from itself. -/
def same : Value → Value → Bool
  | .bool a, .bool b => a == b
  | .int a, .int b => a == b
  | .float a, .float b => a.same b
  | .text a, .text b => a == b
  | .date a, .date b => a == b
  | .map a, .map b => sameEntries a b
  | .list a, .list b => sameItems a b
  | _, _ => false

def sameEntries : List (String × Value) → List (String × Value) → Bool
  | [], [] => true
  | (k, v) :: rest, (k', v') :: rest' => k == k' && same v v' && sameEntries rest rest'
  | _, _ => false

def sameItems : List Value → List Value → Bool
  | [], [] => true
  | v :: rest, v' :: rest' => same v v' && sameItems rest rest'
  | _, _ => false

end

def sameOption : Option Value → Option Value → Bool
  | none, none => true
  | some a, some b => same a b
  | _, _ => false

def asBool? : Value → Option Bool
  | .bool b => some b
  | _ => none

def asInt? : Value → Option Int64
  | .int i => some i
  | _ => none

/-- A whole number also reads as the nearest floating one. -/
def asFloat? : Value → Option Binary64
  | .float x => some x
  | .int i => some (.ofInt i.toInt)
  | _ => none

def asText? : Value → Option String
  | .text s => some s
  | _ => none

def asMap? : Value → Option Attributes
  | .map entries => some entries
  | _ => none

def asList? : Value → Option (List Value)
  | .list items => some items
  | _ => none

def ofInt (i : Int) : Value := .int (Int64.ofInt i)

/-- The value of an unsigned number. One beyond the signed words becomes floating. -/
def ofUnsigned (n : Nat) : Value :=
  if n < twoTo 63 then .int (Int64.ofNat n) else .float (.ofNat n)

@[simp] theorem asBool?_bool (b : Bool) : (Value.bool b).asBool? = some b := rfl

@[simp] theorem asText?_text (s : String) : (Value.text s).asText? = some s := rfl

@[simp] theorem asInt?_int (i : Int64) : (Value.int i).asInt? = some i := rfl

theorem same_bool (a b : Bool) : same (.bool a) (.bool b) = (a == b) := by simp [same]

end Value

namespace Attributes

def getBool? (key : String) (m : Attributes) : Option Bool := (m.find? key).bind Value.asBool?

def getText? (key : String) (m : Attributes) : Option String := (m.find? key).bind Value.asText?

def getInt? (key : String) (m : Attributes) : Option Int64 := (m.find? key).bind Value.asInt?

/-- The map under a name; whatever else is there counts as an empty map. -/
def mapAt (key : String) (m : Attributes) : Attributes :=
  ((m.find? key).bind Value.asMap?).getD []

def listAt (key : String) (m : Attributes) : List Value :=
  ((m.find? key).bind Value.asList?).getD []

/-- Opens the map at the end of a path and replaces it by the result of `f`. Maps missing
on the way are made, and other values on the way are replaced by maps. -/
def within {β : Type} (path : List String) (f : Attributes → β × Attributes)
    (m : Attributes) : β × Attributes :=
  match path with
  | [] => f m
  | key :: rest =>
    let (answer, inner) := within rest f (m.mapAt key)
    (answer, m.insert key (.map inner))

/-- Appends to the list under a name, made if it is missing or not a list. -/
def append (key : String) (value : Value) (m : Attributes) : Attributes :=
  m.insert key (.list (m.listAt key ++ [value]))

end Attributes
end SpanCapture
