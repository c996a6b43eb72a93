/-! Streams that take text. A stream may have room for only so many bytes; it takes what
fits, and a character that fits only in part tears it. -/
namespace SpanCapture

/-- A stream and what has been written to it. -/
structure Writer where
  text : String := ""
  /-- The bytes there is still room for; no bound if none is given. -/
  room : Option Nat := none
  /-- The last character fitted only in part. -/
  torn : Bool := false
  flushFails : Bool := false
  deriving Repr, DecidableEq

namespace Writer

/-- As many leading characters as fit into some bytes, and the bytes left. -/
def fitting (room : Nat) : List Char → List Char × Nat
  | [] => ([], room)
  | c :: rest =>
    if c.utf8Size ≤ room then
      let (taken, left) := fitting (room - c.utf8Size) rest
      (c :: taken, left)
    else ([], room)

/-- Writes a text; the flag tells whether all of it fitted. -/
def write (text : String) (w : Writer) : Bool × Writer :=
  match w.room with
  | none => (true, { w with text := w.text ++ text })
  | some room =>
    if text.utf8ByteSize ≤ room then
      (true, { w with text := w.text ++ text, room := some (room - text.utf8ByteSize) })
    else
      let (taken, left) := fitting room text.toList
      (false, { w with
        text := w.text ++ String.ofList taken
        room := some 0
        torn := w.torn || 0 < left })

@[simp] theorem write_unbounded (text : String) (w : Writer) (h : w.room = none) :
    w.write text = (true, { w with text := w.text ++ text }) := by
  simp [write, h]

end Writer
end SpanCapture
