import SpanCapture.Keyed
import SpanCapture.Number.Shortest

/-! JSON documents. Whole numbers and binary floating numbers are kept apart, and the
fields of an object are sorted by name, each name once. -/
namespace SpanCapture

inductive Json where
  | null
  | bool (b : Bool)
  | int (i : Int)
  | float (x : Binary64)
  | text (s : String)
  | array (items : List Json)
  | object (fields : List (String × Json))
  deriving Repr, Inhabited

end SpanCapture
