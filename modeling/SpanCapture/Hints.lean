import SpanCapture.Attribute.Basic

/-! Hints: side notes on the trace in progress, by name. Most hold an attribute value and
end up in the trace; some hold an object that is passed along but never shown. -/
namespace SpanCapture

/-- A side note: a value that is shown, or an object that is not. -/
inductive Hint where
  | value (v : Value)
  | textObject (s : String)
  | numberObject (n : Int)
  deriving Repr, Inhabited

abbrev Hints := Keyed Hint

namespace HintName

def application : String := "application-name"

def traceId : String := "trace-id"

def traceType : String := "trace-type"

/-- The trace has grown too large and will not be finished. -/
def aborted : String := "aborted"

def sensitive : String := "sensitive"

/-- The trace is not wanted, unless there is a failure in it. -/
def discard : String := "discard"

/-- The trace is downgraded: only probes of endpoints are let through. -/
def onlyEndpoints : String := "collect-only-endpoints"

def collectionLevel : String := "operation-collection-level"

def hasException : String := "has-exception"

/-- The watchdog closed the trace. -/
def overdue : String := "exceeded-max-time"

end HintName

namespace Hints

def set (key : String) (value : Value) (hints : Hints) : Hints := hints.insert key (.value value)

/-- The value under a name; objects are no values. -/
def value? (key : String) (hints : Hints) : Option Value :=
  match hints.find? key with
  | some (.value v) => some v
  | _ => none

def textObject? (key : String) (hints : Hints) : Option String :=
  match hints.find? key with
  | some (.textObject s) => some s
  | _ => none

def numberObject? (key : String) (hints : Hints) : Option Int :=
  match hints.find? key with
  | some (.numberObject n) => some n
  | _ => none

/-- Whether a flag is set: only the truth value true sets it. -/
def flag (key : String) (hints : Hints) : Bool := ((hints.value? key).bind Value.asBool?).getD false

def text? (key : String) (hints : Hints) : Option String := (hints.value? key).bind Value.asText?

/-- Keeps the hints of some names only. -/
def retain (names : List String) (hints : Hints) : Hints :=
  hints.filter fun entry => names.contains entry.1

/-- The hints that hold values. -/
def values : Hints → Attributes
  | [] => []
  | (key, .value v) :: rest => (key, v) :: values rest
  | _ :: rest => values rest

theorem value?_set_self (key : String) (v : Value) (hints : Hints) :
    (hints.set key v).value? key = some v := by
  simp [set, value?, Keyed.find?_insert_self]

theorem value?_set_of_ne {key other : String} (v : Value) (h : other ≠ key) (hints : Hints) :
    (hints.set key v).value? other = hints.value? other := by
  simp [set, value?, Keyed.find?_insert_of_ne _ h]

@[simp] theorem flag_set_self (key : String) (b : Bool) (hints : Hints) :
    (hints.set key (.bool b)).flag key = b := by
  simp [flag, value?_set_self]

theorem flag_set_of_ne {key other : String} (v : Value) (h : other ≠ key) (hints : Hints) :
    (hints.set key v).flag other = hints.flag other := by
  simp [flag, value?_set_of_ne _ h]

theorem mem_of_flag {key : String} {hints : Hints} (on : hints.flag key) :
    (key, .value (.bool true)) ∈ hints := by
  unfold flag value? at on
  refine Keyed.mem_of_find? ?_
  split at on
  · rename_i v found
    cases v <;> simp_all [Value.asBool?]
  · cases on

theorem find?_retain (names : List String) (key : String) (hints : Hints) :
    (hints.retain names).find? key = if names.contains key then hints.find? key else none := by
  induction hints with
  | nil => simp [retain]
  | cons entry rest ih =>
    obtain ⟨k, v⟩ := entry
    have first : retain names ((k, v) :: rest) =
        if names.contains k then (k, v) :: retain names rest else retain names rest :=
      List.filter_cons
    rw [first]
    by_cases same : k = key
    · subst same
      split
      · rw [Keyed.find?, Keyed.find?, if_pos rfl, if_pos rfl]
      · rename_i dropped
        rw [ih, if_neg dropped]
    · have later : Keyed.find? key ((k, v) :: rest) = Keyed.find? key rest := if_neg same
      rw [later, ← ih]
      split
      · exact if_neg same
      · rfl

theorem flag_retain {names : List String} {key : String} {hints : Hints}
    (h : hints.flag key = false) : (hints.retain names).flag key = false := by
  unfold flag value? at h ⊢
  rw [find?_retain]
  by_cases kept : names.contains key
  · rw [if_pos kept]
    exact h
  · rw [if_neg kept]
    rfl

theorem find?_values {key : String} {v : Value} {hints : Hints} (h : hints.value? key = some v) :
    hints.values.find? key = some v := by
  induction hints with
  | nil => cases h
  | cons entry rest ih =>
    obtain ⟨k, hint⟩ := entry
    rw [value?, Keyed.find?] at h
    by_cases same : k = key
    · rw [if_pos same] at h
      cases hint with
      | value w =>
        cases h
        exact if_pos same
      | textObject s => cases h
      | numberObject n => cases h
    · rw [if_neg same] at h
      cases hint with
      | value w => exact (if_neg same).trans (ih h)
      | textObject s => exact ih h
      | numberObject n => exact ih h

end Hints
end SpanCapture
