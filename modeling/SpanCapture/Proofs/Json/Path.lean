import SpanCapture.Json.Basic
import SpanCapture.Proofs.Sorted

/-! Paths into documents. A path goes into an array by position and into an object by name. Whoever
goes through a document in order, each container from its first item or field to its last, meets
the places in it in the order of their paths. -/
namespace SpanCapture

namespace Json

inductive Step where
  | item (position : Nat)
  | field (name : String)
  deriving Repr, DecidableEq

/-- Which of two steps out of one container comes first. -/
def Step.Before : Step → Step → Prop
  | .item a, .item b => a < b
  | .field a, .field b => a < b
  | _, _ => False

def part? : List Step → Json → Option Json
  | [], document => some document
  | .item position :: path, .array items => items[position]?.bind (part? path)
  | .field name :: path, .object fields => (Keyed.find? name fields).bind (part? path)
  | _ :: _, _ => none

/-- A null that is met before every other null. -/
structure FirstNull (document : Json) (path : List Step) : Prop where
  null : document.part? path = some .null
  least : ∀ other, document.part? other = some .null → other = path ∨ List.Lex Step.Before path other

mutual

def everywhere (holds : Json → Bool) : Json → Bool
  | .array items => holds (.array items) && everywhereInItems holds items
  | .object fields => holds (.object fields) && everywhereInFields holds fields
  | document => holds document

def everywhereInItems (holds : Json → Bool) : List Json → Bool
  | [] => true
  | item :: rest => everywhere holds item && everywhereInItems holds rest

def everywhereInFields (holds : Json → Bool) : List (String × Json) → Bool
  | [] => true
  | (_, item) :: rest => everywhere holds item && everywhereInFields holds rest

end

def isSorted : Json → Bool
  | .object fields => decide (Keyed.Sorted fields)
  | _ => true

/-- All objects in a document have their fields sorted by name, each name once. -/
def Ordered (document : Json) : Prop := document.everywhere isSorted

instance (document : Json) : Decidable document.Ordered := inferInstanceAs (Decidable (_ = true))

section
variable {item : Json} {items rest : List Json} {name other : String}
  {fields later : List (String × Json)} {path : List Step} {step : Step} {position : Nat}

theorem part?_item_cons_zero :
    (array (item :: rest)).part? (.item 0 :: path) = item.part? path := rfl

theorem part?_item_cons_succ : (array (item :: rest)).part? (.item (position + 1) :: path) =
    (array rest).part? (.item position :: path) := rfl

theorem part?_field_cons_self :
    (object ((name, item) :: later)).part? (.field name :: path) = item.part? path := by
  rw [part?, Keyed.find?_cons_self]
  rfl

theorem part?_field_cons_of_ne (apart : name ≠ other) :
    (object ((name, item) :: later)).part? (.field other :: path) =
      (object later).part? (.field other :: path) := by
  rw [part?, part?, Keyed.find?_cons_of_ne apart]

/-- A null in an array is a null in one of its items. -/
theorem null_in_array (null : (array items).part? path = some .null) :
    ∃ position inner, path = .item position :: inner ∧ position < items.length := by
  match path, null with
  | [], null => cases null
  | .field _ :: _, null => cases null
  | .item position :: inner, null =>
      obtain ⟨item, here, -⟩ := Option.bind_eq_some_iff.mp null
      exact ⟨position, inner, rfl, (List.getElem?_eq_some_iff.mp here).1⟩

/-- A null in an object is a null in one of its fields. -/
theorem null_in_object (null : (object fields).part? path = some .null) :
    ∃ name inner item, path = .field name :: inner ∧ Keyed.find? name fields = some item := by
  match path, null with
  | [], null => cases null
  | .item _ :: _, null => cases null
  | .field name :: inner, null =>
      obtain ⟨item, here, -⟩ := Option.bind_eq_some_iff.mp null
      exact ⟨name, inner, item, rfl, here⟩

theorem ordered_array_cons :
    (array (item :: rest)).Ordered ↔ item.Ordered ∧ (array rest).Ordered := by
  simp [Ordered, everywhere, everywhereInItems, isSorted]

theorem ordered_object_cons : (object ((name, item) :: later)).Ordered ↔
    Keyed.Sorted ((name, item) :: later) ∧ item.Ordered ∧ (object later).Ordered := by
  simp only [Ordered, everywhere, everywhereInFields, isSorted, Bool.and_eq_true, decide_eq_true_eq]
  refine ⟨fun ⟨sorted, here, behind⟩ => ⟨sorted, here, List.Pairwise.of_cons sorted, behind⟩, ?_⟩
  exact fun ⟨sorted, here, _, behind⟩ => ⟨sorted, here, behind⟩

end

namespace FirstNull

section
variable {item : Json} {rest : List Json} {name : String} {later : List (String × Json)}
  {path : List Step} {position : Nat}

theorem self : FirstNull .null [] where
  null := rfl
  least other null := by
    cases other with
    | nil => exact .inl rfl
    | cons step path => cases step <;> cases null

/-- A null in the first item comes before those in the others. -/
theorem in_item (first : item.FirstNull path) :
    (array (item :: rest)).FirstNull (.item 0 :: path) where
  null := by rw [part?_item_cons_zero, first.null]
  least other null := by
    obtain ⟨position, inner, rfl, -⟩ := null_in_array null
    cases position with
    | zero =>
        refine (first.least inner null).imp (congrArg _) fun behind => ?_
        exact .cons behind
    | succ position => exact .inr (.rel (Nat.succ_pos position))

/-- Behind an item without a null it is the first of the others. -/
theorem behind_item (free : ∀ path, item.part? path ≠ some .null)
    (first : (array rest).FirstNull (.item position :: path)) :
    (array (item :: rest)).FirstNull (.item (position + 1) :: path) where
  null := by rw [part?_item_cons_succ, first.null]
  least other null := by
    obtain ⟨place, inner, rfl, -⟩ := null_in_array null
    cases place with
    | zero => exact absurd null (free inner)
    | succ place =>
        rcases first.least (.item place :: inner) null with same | behind
        · cases same
          exact .inl rfl
        · cases behind with
          | rel before => exact .inr (.rel (Nat.succ_lt_succ before))
          | cons behind => exact .inr (.cons behind)

theorem in_field (sorted : Keyed.Sorted ((name, item) :: later)) (first : item.FirstNull path) :
    (object ((name, item) :: later)).FirstNull (.field name :: path) where
  null := by rw [part?_field_cons_self, first.null]
  least other null := by
    obtain ⟨place, inner, found, rfl, here⟩ := null_in_object null
    by_cases same : name = place
    · subst same
      rw [part?_field_cons_self] at null
      refine (first.least inner null).imp (congrArg _) fun behind => ?_
      exact .cons behind
    · rw [Keyed.find?_cons_of_ne same] at here
      exact .inr (.rel (sorted.lt_of_find? here))

theorem behind_field (sorted : Keyed.Sorted ((name, item) :: later))
    (free : ∀ path, item.part? path ≠ some .null) (first : (object later).FirstNull path) :
    (object ((name, item) :: later)).FirstNull path := by
  obtain ⟨place, inner, found, rfl, here⟩ := null_in_object first.null
  have apart : name ≠ place := String.ne_of_lt (sorted.lt_of_find? here)
  refine ⟨(part?_field_cons_of_ne apart).trans first.null, fun other null => ?_⟩
  obtain ⟨place', inner', found', rfl, here'⟩ := null_in_object null
  by_cases same : name = place'
  · subst same
    rw [part?_field_cons_self] at null
    exact absurd null (free inner')
  · rw [part?_field_cons_of_ne same] at null
    exact first.least _ null

end

end FirstNull

end Json
end SpanCapture
