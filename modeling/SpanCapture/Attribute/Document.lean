import SpanCapture.Attribute.Basic
import SpanCapture.Failure
import SpanCapture.Json.Printer

/-! Attribute values as documents, and documents as attribute values. Writing loses the
kind of a value but keeps its content; the one value without a written form is a date
before 1970. Reading refuses null, at any depth, and names the path at which it
stands. -/
namespace SpanCapture
namespace Value

/-- How an instant is written: seconds and nanoseconds since 1970. -/
def dateFields (t : Instant) : List (String × Json) :=
  [("secs_since_epoch", .int t.seconds), ("nanos_since_epoch", .int t.nanos)]

mutual

def written : Value → Written
  | .bool b => Json.print (.bool b)
  | .int i => Json.print (.int i.toInt)
  | .float x => Json.print (.float x)
  | .text s => Json.print (.text s)
  | .date t => if t.isBefore1970 then Written.stop else Json.print (.object (dateFields t))
  | .map entries => Json.objectText (writtenEntries entries)
  | .list items => Json.arrayText (writtenItems items)

def writtenEntries : List (String × Value) → List (String × Written)
  | [] => []
  | (key, value) :: rest => (key, written value) :: writtenEntries rest

def writtenItems : List Value → List Written
  | [] => []
  | value :: rest => written value :: writtenItems rest

end

mutual

/-- The document of a value. What is no finite number has only null to stand for it. -/
def toJson : Value → Json
  | .bool b => .bool b
  | .int i => .int i.toInt
  | .float x => if x.isFinite then .float x else .null
  | .text s => .text s
  | .date t => .object (dateFields t)
  | .map entries => .object (toJsonEntries entries)
  | .list items => .array (toJsonItems items)

def toJsonEntries : List (String × Value) → List (String × Json)
  | [] => []
  | (key, value) :: rest => (key, toJson value) :: toJsonEntries rest

def toJsonItems : List Value → List Json
  | [] => []
  | value :: rest => toJson value :: toJsonItems rest

end

/-- The value of a whole number in a document: floating outside the signed words. -/
def ofJsonInt (i : Int) : Value :=
  if -(twoTo 63 : Int) ≤ i ∧ i < twoTo 63 then .int (Int64.ofInt i) else .float (.ofInt i)

mutual

/-- The value a document stands for. The key is the name it is to be stored under; it is
used for nothing but the path of a null. Fields are read in the order of their names. -/
def ofJson (key : String) : Json → Except Failure Value
  | .null => .error (.nullAttribute key)
  | .bool b => .ok (.bool b)
  | .int i => .ok (ofJsonInt i)
  | .float x => .ok (.float x)
  | .text s => .ok (.text s)
  | .array items => (ofJsonItems key items).map .list
  | .object fields => (ofJsonFields key fields).map fun entries => .map (Keyed.ofList entries)

def ofJsonItems (key : String) : List Json → Except Failure (List Value)
  | [] => .ok []
  | item :: rest => do
    let value ← ofJson key item
    let values ← ofJsonItems key rest
    .ok (value :: values)

def ofJsonFields (key : String) : List (String × Json) → Except Failure (List (String × Value))
  | [] => .ok []
  | (name, item) :: rest => do
    let value ← ofJson (key ++ "." ++ name) item
    let values ← ofJsonFields key rest
    .ok ((name, value) :: values)

end

def text? (value : Value) : Except Failure String := value.written.text?

end Value

namespace Attributes

def written (m : Attributes) : Written := Json.objectText (Value.writtenEntries m)

/-- Stores the value a document stands for; a refused document changes nothing. -/
def putJson (key : String) (document : Json) (m : Attributes) : Except Failure Attributes :=
  (Value.ofJson key document).map fun value => m.insert key value

end Attributes
end SpanCapture
