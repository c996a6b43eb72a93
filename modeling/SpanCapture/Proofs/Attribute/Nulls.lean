import SpanCapture.Proofs.Json.Reading
import SpanCapture.Proofs.Operation.Calm

/-! Reading documents as values. A document is refused exactly if a null stands somewhere in it, and
the failure names the way to the null that is met first: the key, and behind it the name of each
field on the way. What is refused is not stored, and what is stored changes nothing under any
other key. -/
namespace SpanCapture
namespace Value

open Json (Step)

/-- The name of a place in a document kept under a key. Positions in arrays add nothing. -/
def pathKey (key : String) : List Step → String
  | [] => key
  | .item _ :: path => pathKey key path
  | .field name :: path => pathKey (key ++ "." ++ name) path

/-- What reading a document comes to: something, if no null stands anywhere in it, or else a failure
that names the first. -/
inductive Reads {α : Type} (key : String) (document : Json) : Except Failure α → Prop
  | read (a : α) (free : ∀ path, document.part? path ≠ some .null) : Reads key document (.ok a)
  | refused (path : List Step) (first : document.FirstNull path) :
      Reads key document (.error (.nullAttribute (pathKey key path)))

section
variable {α β : Type} {key name : String} {document item : Json} {items rest : List Json}
  {fields later : List (String × Json)} {result : Except Failure α} {value : Value}

theorem Reads.map (f : α → β) (h : Reads key document result) :
    Reads key document (result.map f) := by
  cases h with
  | read a free => exact .read (f a) free
  | refused path first => exact .refused path first

/-- A document that holds no others and is no null. -/
theorem reads_leaf (a : α) (null : document ≠ .null)
    (leaf : ∀ step path, document.part? (step :: path) = none) : Reads key document (.ok a) := by
  refine .read a fun path => ?_
  cases path with
  | nil => exact fun same => null (Option.some.inj same)
  | cons step path =>
      rw [leaf]
      nofun

theorem reads_array_nil : Reads (α := List Value) key (.array []) (.ok []) := by
  refine .read [] fun path null => ?_
  obtain ⟨position, -, -, inside⟩ := Json.null_in_array null
  exact absurd inside (Nat.not_lt_zero position)

theorem reads_array_cons {first : Except Failure Value} {others : Except Failure (List Value)}
    (here : Reads key item first) (behind : Reads key (.array rest) others) :
    Reads key (.array (item :: rest))
      (do let value ← first; let values ← others; .ok (value :: values)) := by
  cases here with
  | refused path null => exact .refused (.item 0 :: path) null.in_item
  | read value free =>
      cases behind with
      | refused path null =>
          obtain ⟨position, inner, rfl, -⟩ := Json.null_in_array null.null
          exact .refused (.item (position + 1) :: inner) (null.behind_item free)
      | read values freeRest =>
          refine .read (value :: values) fun path null => ?_
          obtain ⟨position, inner, rfl, -⟩ := Json.null_in_array null
          cases position with
          | zero => exact free inner null
          | succ position => exact freeRest (.item position :: inner) null

theorem reads_object_nil : Reads (α := List (String × Value)) key (.object []) (.ok []) := by
  refine .read [] fun path null => ?_
  obtain ⟨name, -, item, -, found⟩ := Json.null_in_object null
  cases found

theorem reads_object_cons {first : Except Failure Value}
    {others : Except Failure (List (String × Value))}
    (sorted : Keyed.Sorted ((name, item) :: later)) (here : Reads (key ++ "." ++ name) item first)
    (behind : Reads key (.object later) others) :
    Reads key (.object ((name, item) :: later))
      (do let value ← first; let values ← others; .ok ((name, value) :: values)) := by
  cases here with
  | refused path null => exact .refused (.field name :: path) (null.in_field sorted)
  | read value free =>
      cases behind with
      | refused path null => exact .refused path (null.behind_field sorted free)
      | read values freeLater =>
          refine .read ((name, value) :: values) fun path null => ?_
          obtain ⟨other, inner, found, rfl, -⟩ := Json.null_in_object null
          by_cases same : name = other
          · subst same
            rw [Json.part?_field_cons_self] at null
            exact free inner null
          · rw [Json.part?_field_cons_of_ne same] at null
            exact freeLater _ null

mutual

theorem reads_ofJson (key : String) : {document : Json} → document.Ordered →
    Reads key document (ofJson key document)
  | .null, _ => .refused [] .self
  | .bool b, _ => reads_leaf _ nofun fun step _ => by cases step <;> rfl
  | .int i, _ => reads_leaf _ nofun fun step _ => by cases step <;> rfl
  | .float x, _ => reads_leaf _ nofun fun step _ => by cases step <;> rfl
  | .text s, _ => reads_leaf _ nofun fun step _ => by cases step <;> rfl
  | .array _, ordered => by
      rw [ofJson]
      exact (reads_ofJsonItems key ordered).map _
  | .object _, ordered => by
      rw [ofJson]
      exact (reads_ofJsonFields key ordered).map _

theorem reads_ofJsonItems (key : String) : {items : List Json} → (Json.array items).Ordered →
    Reads key (.array items) (ofJsonItems key items)
  | [], _ => reads_array_nil
  | _ :: _, ordered =>
      have ⟨here, behind⟩ := Json.ordered_array_cons.mp ordered
      reads_array_cons (reads_ofJson key here) (reads_ofJsonItems key behind)

theorem reads_ofJsonFields (key : String) : {fields : List (String × Json)} →
    (Json.object fields).Ordered → Reads key (.object fields) (ofJsonFields key fields)
  | [], _ => reads_object_nil
  | (name, _) :: _, ordered =>
      have ⟨sorted, here, behind⟩ := Json.ordered_object_cons.mp ordered
      reads_object_cons sorted (reads_ofJson (key ++ "." ++ name) here)
        (reads_ofJsonFields key behind)

end

/-- A document is refused just if there is a null in it. -/
theorem Reads.isError_iff (h : Reads key document result) :
    (∃ failure, result = .error failure) ↔ ∃ path, document.part? path = some .null := by
  cases h with
  | read a free => exact iff_of_false nofun fun ⟨path, null⟩ => free path null
  | refused path first => exact iff_of_true ⟨_, rfl⟩ ⟨path, first.null⟩

theorem Reads.names_first (h : Reads key document result) {failure : Failure}
    (refused : result = .error failure) :
    ∃ path, document.FirstNull path ∧ failure = .nullAttribute (pathKey key path) := by
  cases h with
  | read a free => cases refused
  | refused path first =>
      cases refused
      exact ⟨path, first, rfl⟩

end
end Value

section
variable {key text : String} {document : Json}

/-- Storing a document among the properties of an operation. -/
theorem Operation.act_putJson (parsed : Json.parse? text = some document) (clock : Clock)
    (op : Operation) : op.act clock (.putJson key text) =
      match Value.ofJson key document with
      | .ok value => (clock, op.put key value, .done .nothing)
      | .error failure => (clock, op, .done (.refused failure)) := by
  rw [act, run_act (fun _ => by simp) (by simp)]
  simp only [apply, parsed, Attributes.putJson]
  cases Value.ofJson key document with
  | ok value => rfl
  | error failure => rfl

/-- A document is refused exactly if a null stands in it, and the failure names the way to the first.
A refused document changes nothing; one that is taken changes what stands under its key alone. -/
theorem Value.document_refused_at_first_null (ordered : document.Ordered) (key : String) :
    ((∃ failure, ofJson key document = .error failure) ↔
      ∃ path, document.part? path = some .null) ∧
    (∀ failure, ofJson key document = .error failure →
      (∃ path, document.FirstNull path ∧ failure = .nullAttribute (pathKey key path)) ∧
      (∀ m : Attributes, m.putJson key document = .error failure) ∧
      ∀ clock op text, Json.parse? text = some document →
        Operation.act clock op (.putJson key text) = (clock, op, .done (.refused failure))) ∧
    ∀ value, ofJson key document = .ok value →
      (∀ m : Attributes, ∃ m', m.putJson key document = .ok m' ∧ m'.find? key = some value ∧
        m'.erase key = m.erase key) ∧
      ∀ clock op text, Json.parse? text = some document →
        Operation.act clock op (.putJson key text) = (clock, op.put key value, .done .nothing) := by
  have reads := reads_ofJson key ordered
  refine ⟨reads.isError_iff, fun failure refused => ⟨reads.names_first refused, ?_, ?_⟩,
    fun value read => ⟨?_, ?_⟩⟩
  · intro m
    rw [Attributes.putJson, refused]
    rfl
  · intro clock op text parsed
    rw [Operation.act_putJson parsed, refused]
  · intro m
    refine ⟨m.insert key value, ?_, Keyed.find?_insert_self key value m,
      Operation.erase_insert_self key value m⟩
    rw [Attributes.putJson, read]
    rfl
  · intro clock op text parsed
    rw [Operation.act_putJson parsed, read]

/-- A text that is read and refused leaves the operation alone, and the failure names its first null. -/
theorem Operation.refused_text (parsed : Json.parse? text = some document) {clock : Clock}
    {op : Operation} {failure : Failure}
    (refused : (op.act clock (.putJson key text)).2.2 = .done (.refused failure)) :
    op.act clock (.putJson key text) = (clock, op, .done (.refused failure)) ∧
      ∃ path, document.FirstNull path ∧ failure = .nullAttribute (Value.pathKey key path) := by
  have reads := Value.reads_ofJson key (Json.ordered_of_parse? parsed)
  rw [act_putJson parsed] at refused ⊢
  cases read : Value.ofJson key document with
  | ok value =>
      rw [read] at refused
      cases refused
  | error found =>
      rw [read] at refused
      cases refused
      exact ⟨rfl, reads.names_first read⟩

namespace Value

def payload : Json :=
  .object [("ids", .array [.int 1, .object [("at", .null)]]), ("last", .null)]

theorem payload_refused_below_list :
    payload.Ordered ∧
      ofJson "payload" payload = .error (.nullAttribute "payload.ids.at") ∧
      (∃ path, payload.FirstNull path ∧ "payload.ids.at" = pathKey "payload" path) ∧
      ∀ m : Attributes, m.putJson "payload" payload =
        .error (.nullAttribute "payload.ids.at") := by
  have ordered : payload.Ordered := by decide
  have refused : ofJson "payload" payload = .error (.nullAttribute "payload.ids.at") := rfl
  obtain ⟨-, failing, -⟩ := document_refused_at_first_null ordered "payload"
  obtain ⟨⟨path, first, named⟩, unstored, -⟩ := failing _ refused
  exact ⟨ordered, refused, ⟨path, first, Failure.nullAttribute.inj named⟩, unstored⟩

end Value

end
end SpanCapture
