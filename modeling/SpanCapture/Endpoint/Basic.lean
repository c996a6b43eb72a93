import SpanCapture.Number.Power
import SpanCapture.Operation.Basic

/-! Endpoints: the operation a trace is named for. Candidates carry a score, and a later
candidate replaces an earlier one only with a strictly greater score. -/
namespace SpanCapture

/-- A candidate for the endpoint of a trace, or the endpoint itself. -/
structure Endpoint where
  name : String
  resource : String
  sample : String
  /-- A signed thirty-two bit number. -/
  score : Int
  kind : String
  frame : Nat
  deriving Repr, DecidableEq

namespace Endpoint

def leastScore : Int := -(twoTo 31 : Int)

def greatestScore : Int := twoTo 31 - 1

/-- Brings a score into the range of signed thirty-two bit numbers. -/
def clampScore (i : Int) : Int := max leastScore (min greatestScore i)

/-- Whether a candidate takes the place of what was found so far. A tie does not. -/
def beats (candidate : Endpoint) : Option Endpoint → Bool
  | none => true
  | some current => current.score < candidate.score

/-- What is kept after one more candidate, if there is one. -/
def prefer (current : Option Endpoint) : Option Endpoint → Option Endpoint
  | none => current
  | some candidate => if candidate.beats current then some candidate else current

def written (e : Endpoint) : Written :=
  Json.print (.object [("endpoint_name", .text e.name), ("resource_label", .text e.resource),
    ("example", .text e.sample), ("score", .int e.score), ("source_type", .text e.kind),
    ("source_frame", .int e.frame)])

@[simp] theorem beats_none (e : Endpoint) : e.beats none = true := rfl

theorem beats_some (e current : Endpoint) :
    e.beats (some current) = true ↔ current.score < e.score := by simp [beats]

theorem clampScore_of_inside {i : Int} (low : leastScore ≤ i) (high : i ≤ greatestScore) :
    clampScore i = i := by
  unfold clampScore
  omega

theorem clampScore_bounds (i : Int) :
    leastScore ≤ clampScore i ∧ clampScore i ≤ greatestScore := by
  have ordered : leastScore ≤ greatestScore := by decide
  unfold clampScore
  omega

end Endpoint
end SpanCapture
