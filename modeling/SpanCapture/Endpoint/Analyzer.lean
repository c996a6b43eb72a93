import SpanCapture.Endpoint.Basic
import SpanCapture.Outcome
import SpanCapture.Text.Quoted

/-! Endpoint analyzers. An analyzer declares the kinds of operation it knows and proposes
candidates for operations of these kinds. A register asks its analyzers in the order
they came and keeps the best candidate; the first frame of a trace always has one. -/
namespace SpanCapture

/-- Someone who knows endpoints of certain kinds. -/
structure Analyzer where
  kinds : List String
  /-- What it proposes for an operation, the number of its frame and its depth. -/
  locate : Operation → Nat → Nat → Outcome (Option Endpoint)

namespace Analyzer

/-- A base score, less a penalty for each level below the first. Levels, penalty and
score each stop at the ends of their range. -/
def levelScore (base penalty : Int) (depth : Nat) : Int :=
  let levels := min ((depth - 1 : Nat) : Int) Endpoint.greatestScore
  Endpoint.clampScore (base - Endpoint.clampScore (penalty * levels))

/-- What a typed analyzer proposes; nothing for an operation of another kind. -/
def typedCandidate (kinds : List String) (base penalty : Int) (op : Operation)
    (frame depth : Nat) : Option Endpoint :=
  if kinds.contains op.kind then
    some {
      name := op.label, resource := op.kind ++ ":" ++ op.label, sample := op.label
      score := levelScore base penalty depth, kind := op.kind, frame }
  else none

/-- The analyzer that names an operation of certain kinds by its label. -/
def typed (kinds : List String) (base : Int) (penalty : Int := 0) : Analyzer where
  kinds := kinds
  locate op frame depth := .done (typedCandidate kinds base penalty op frame depth)

/-- The candidate every operation gives, with the least score. -/
def fallbackCandidate (op : Operation) (frame : Nat) : Endpoint where
  name := op.label
  resource := op.label
  sample := op.kind ++ " " ++ op.label
  score := Endpoint.leastScore
  kind := op.kind
  frame := frame

/-- The analyzer behind all others. It declares no kinds. -/
def fallback : Analyzer where
  kinds := []
  locate op frame _ := .done (some (fallbackCandidate op frame))

end Analyzer

abbrev AnalyzerRegister := List Analyzer

namespace AnalyzerRegister

/-- Asks analyzers one after another and keeps the best candidate. The first that crashes
ends the search. -/
def best (op : Operation) (frame depth : Nat) (current : Option Endpoint) :
    List Analyzer → Outcome (Option Endpoint)
  | [] => .done current
  | analyzer :: rest =>
    match analyzer.locate op frame depth with
    | .crashed message => .crashed message
    | .done candidate => best op frame depth (Endpoint.prefer current candidate) rest

/-- The analyzers to ask about an operation. None is asked when an open frame above has
the same kind. -/
def relevant (op : Operation) (ancestors : List String) (register : AnalyzerRegister) :
    List Analyzer :=
  if ancestors.contains op.kind then [] else register.filter (·.kinds.contains op.kind)

/-- The candidate for a frame being entered, below open frames of the given kinds. Without
such frames it is the first of a trace, and the fallback stands in where no analyzer
proposes anything. -/
def locate (op : Operation) (frame depth : Nat) (ancestors : List String)
    (register : AnalyzerRegister) : Outcome (Option Endpoint) :=
  (best op frame depth none (register.relevant op ancestors)).map fun found =>
    if found.isNone && ancestors.isEmpty then some (Analyzer.fallbackCandidate op frame)
    else found

def kinds (register : AnalyzerRegister) : List String :=
  (Keyed.ofList ((register.flatMap (·.kinds)).map fun kind => (kind, ()))).keys

def shown (register : AnalyzerRegister) : String :=
  "EndPointAnalyzerRegistry \x7b analyzers: " ++ toString register.length ++ ", types: " ++
    Text.quotedList register.kinds ++ " \x7d"

end AnalyzerRegister
end SpanCapture
