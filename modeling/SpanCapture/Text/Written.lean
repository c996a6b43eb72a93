import SpanCapture.Failure

/-! Text as it is written to a stream piece by piece. Writing can have to stop half way,
because a value has no written form; what was written before stays written. -/
namespace SpanCapture

/-- What has been written, and whether writing had to stop after it, at a date before
1970. -/
structure Written where
  text : String
  stopped : Bool
  deriving Repr, DecidableEq

namespace Written

def ofString (text : String) : Written := ⟨text, false⟩

/-- Nothing written, and nothing more can be. -/
def stop : Written := ⟨"", true⟩

/-- One piece after another; after a stop nothing follows. -/
def append (first second : Written) : Written :=
  if first.stopped then first else ⟨first.text ++ second.text, second.stopped⟩

instance : Append Written := ⟨append⟩

instance : Coe String Written := ⟨ofString⟩

def separated (separator : String) : List Written → Written
  | [] => ofString ""
  | piece :: rest => rest.foldl (fun sofar next => sofar ++ ofString separator ++ next) piece

/-- The whole text, if writing came to its end. -/
def text? (written : Written) : Except Failure String :=
  if written.stopped then .error (.document .dateBefore1970) else .ok written.text

theorem append_def (a b : Written) :
    a ++ b = if a.stopped then a else ⟨a.text ++ b.text, b.stopped⟩ := rfl

@[simp] theorem ofString_append (a b : String) :
    (ofString a ++ ofString b : Written) = ofString (a ++ b) := rfl

@[simp] theorem stop_append (a : Written) : stop ++ a = stop := rfl

@[simp] theorem stopped_ofString (a : String) : (ofString a).stopped = false := rfl

@[simp] theorem text_ofString (a : String) : (ofString a).text = a := rfl

end Written
end SpanCapture
