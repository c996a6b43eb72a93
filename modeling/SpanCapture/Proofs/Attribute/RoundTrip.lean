import SpanCapture.Attribute.Document
import SpanCapture.Proofs.Json.Path

/-! Values and documents, there and back. A document tells the kind of a value only by its shape, and
that is enough but for dates and for floating numbers that are not finite: every other value is
read back as it was written, and every document without a null whose whole numbers are signed words
is written as it was read. -/
namespace SpanCapture

namespace Keyed

variable {α β : Type} {entries : Keyed α}

theorem sorted_iff_keys : entries.Sorted ↔ entries.keys.Pairwise (· < ·) :=
  List.pairwise_map.symm

/-- Only the keys decide whether a list is sorted. -/
theorem sorted_congr {entries' : Keyed β} (same : entries'.keys = entries.keys) :
    entries'.Sorted ↔ entries.Sorted := by
  rw [sorted_iff_keys, sorted_iff_keys, same]

end Keyed

def fitsWord (i : Int) : Bool := decide (-(twoTo 63 : Int) ≤ i ∧ i < twoTo 63)

theorem fitsWord_toInt (i : Int64) : fitsWord i.toInt := by
  have low : -2 ^ 63 ≤ i.toInt := i.le_toInt
  have high : i.toInt < 2 ^ 63 := i.toInt_lt
  exact decide_eq_true ⟨low, high⟩

namespace Json

/-- What of its own a document must not be, or must be like, to stand for a value exactly. -/
def isExact : Json → Bool
  | .null => false
  | .int i => fitsWord i
  | .float x => x.isFinite
  | .object fields => decide (Keyed.Sorted fields)
  | _ => true

/-- Without nulls, with whole numbers that are signed words and others that are finite, and with its
fields in order. -/
def Exact (document : Json) : Prop := document.everywhere isExact

instance (document : Json) : Decidable document.Exact := inferInstanceAs (Decidable (_ = true))

end Json

namespace Value

mutual

/-- Whether a document can hold a value without loss: no date is in it, floating numbers are finite,
and maps are in order. -/
def exact : Value → Bool
  | .date _ => false
  | .float x => x.isFinite
  | .map entries => decide (Keyed.Sorted entries) && exactEntries entries
  | .list items => exactItems items
  | _ => true

def exactEntries : List (String × Value) → Bool
  | [] => true
  | (_, value) :: rest => exact value && exactEntries rest

def exactItems : List Value → Bool
  | [] => true
  | value :: rest => exact value && exactItems rest

end

section
variable {key : String} {entries : List (String × Value)} {fields : List (String × Json)}

theorem keys_toJsonEntries (entries : List (String × Value)) :
    (toJsonEntries entries).map Prod.fst = entries.map Prod.fst := by
  induction entries with
  | nil => rfl
  | cons entry rest ih => exact congrArg (entry.1 :: ·) ih

theorem sorted_toJsonEntries :
    Keyed.Sorted (toJsonEntries entries) ↔ Keyed.Sorted entries :=
  Keyed.sorted_congr (keys_toJsonEntries entries)

theorem ofJsonInt_toInt (i : Int64) : ofJsonInt i.toInt = .int i := by
  have fits := of_decide_eq_true (fitsWord_toInt i)
  rw [ofJsonInt, if_pos fits, Int64.ofInt_toInt]

theorem toInt_ofInt_of_fits {i : Int} (fits : fitsWord i) : (Int64.ofInt i).toInt = i := by
  obtain ⟨low, high⟩ := of_decide_eq_true fits
  exact Int64.toInt_ofInt_of_le low high

mutual

/-- The document of an exact value is exact. -/
theorem exact_toJson : (value : Value) → value.exact → value.toJson.Exact
  | .bool _, _ => rfl
  | .int i, _ => fitsWord_toInt i
  | .float x, finite => by
      have whole : (Value.float x).toJson = .float x := if_pos finite
      rw [whole]
      exact finite
  | .text _, _ => rfl
  | .map entries, h => by
      rw [exact, Bool.and_eq_true, decide_eq_true_eq] at h
      rw [toJson]
      exact Bool.and_eq_true_iff.mpr
        ⟨decide_eq_true (sorted_toJsonEntries.mpr h.1), exact_toJsonEntries entries h.2⟩
  | .list items, h => exact_toJsonItems items h

theorem exact_toJsonEntries : (entries : List (String × Value)) → exactEntries entries →
    Json.everywhereInFields Json.isExact (toJsonEntries entries)
  | [], _ => rfl
  | (_, value) :: rest, h => by
      obtain ⟨here, behind⟩ := Bool.and_eq_true_iff.mp h
      exact Bool.and_eq_true_iff.mpr ⟨exact_toJson value here, exact_toJsonEntries rest behind⟩

theorem exact_toJsonItems : (items : List Value) → exactItems items →
    Json.everywhereInItems Json.isExact (toJsonItems items)
  | [], _ => rfl
  | value :: rest, h => by
      obtain ⟨here, behind⟩ := Bool.and_eq_true_iff.mp h
      exact Bool.and_eq_true_iff.mpr ⟨exact_toJson value here, exact_toJsonItems rest behind⟩

end

mutual

/-- An exact value is read back from its document. -/
theorem ofJson_toJson (key : String) : (value : Value) → value.exact →
    ofJson key value.toJson = .ok value
  | .bool _, _ => rfl
  | .int i, _ => congrArg Except.ok (ofJsonInt_toInt i)
  | .float x, finite => by
      have whole : (Value.float x).toJson = .float x := if_pos finite
      rw [whole]
      rfl
  | .text _, _ => rfl
  | .map entries, h => by
      rw [exact, Bool.and_eq_true, decide_eq_true_eq] at h
      rw [toJson, ofJson, ofJsonFields_toJsonEntries key entries h.2, Except.map,
        Keyed.ofList_of_sorted h.1]
  | .list items, h => by rw [toJson, ofJson, ofJsonItems_toJsonItems key items h, Except.map]

theorem ofJsonFields_toJsonEntries (key : String) :
    (entries : List (String × Value)) → exactEntries entries →
      ofJsonFields key (toJsonEntries entries) = .ok entries
  | [], _ => rfl
  | (name, value) :: rest, h => by
      obtain ⟨here, behind⟩ := Bool.and_eq_true_iff.mp h
      rw [toJsonEntries, ofJsonFields, ofJson_toJson (key ++ "." ++ name) value here,
        ofJsonFields_toJsonEntries key rest behind]
      rfl

theorem ofJsonItems_toJsonItems (key : String) : (items : List Value) → exactItems items →
    ofJsonItems key (toJsonItems items) = .ok items
  | [], _ => rfl
  | value :: rest, h => by
      obtain ⟨here, behind⟩ := Bool.and_eq_true_iff.mp h
      rw [toJsonItems, ofJsonItems, ofJson_toJson key value here,
        ofJsonItems_toJsonItems key rest behind]
      rfl

end

mutual

/-- What is written of an exact value is the text of its document. -/
theorem written_eq_print : (value : Value) → value.exact → value.written = value.toJson.print
  | .bool _, _ => rfl
  | .int _, _ => rfl
  | .float x, finite => by
      have whole : (Value.float x).toJson = .float x := if_pos finite
      rw [whole]
      rfl
  | .text _, _ => rfl
  | .map entries, h => by
      rw [exact, Bool.and_eq_true] at h
      rw [written, toJson, Json.print, writtenEntries_eq_printFields entries h.2]
  | .list items, h => by rw [written, toJson, Json.print, writtenItems_eq_printItems items h]

theorem writtenEntries_eq_printFields : (entries : List (String × Value)) → exactEntries entries →
    writtenEntries entries = Json.printFields (toJsonEntries entries)
  | [], _ => rfl
  | (name, value) :: rest, h => by
      obtain ⟨here, behind⟩ := Bool.and_eq_true_iff.mp h
      rw [writtenEntries, toJsonEntries, Json.printFields, written_eq_print value here,
        writtenEntries_eq_printFields rest behind]

theorem writtenItems_eq_printItems : (items : List Value) → exactItems items →
    writtenItems items = Json.printItems (toJsonItems items)
  | [], _ => rfl
  | value :: rest, h => by
      obtain ⟨here, behind⟩ := Bool.and_eq_true_iff.mp h
      rw [writtenItems, toJsonItems, Json.printItems, written_eq_print value here,
        writtenItems_eq_printItems rest behind]

end

mutual

/-- An exact document is read as an exact value, and this one is written as the document. -/
theorem toJson_ofJson (key : String) : (document : Json) → document.Exact →
    ∃ value, ofJson key document = .ok value ∧ value.exact ∧ value.toJson = document
  | .null, h => by cases h
  | .bool b, _ => ⟨.bool b, rfl, rfl, rfl⟩
  | .int i, fits => by
      refine ⟨.int (Int64.ofInt i), ?_, rfl, congrArg Json.int (toInt_ofInt_of_fits fits)⟩
      exact congrArg Except.ok (if_pos (of_decide_eq_true fits))
  | .float x, finite => ⟨.float x, rfl, finite, if_pos finite⟩
  | .text s, _ => ⟨.text s, rfl, rfl, rfl⟩
  | .array items, h => by
      obtain ⟨values, read, exact, same⟩ := toJsonItems_ofJsonItems key items h
      refine ⟨.list values, ?_, exact, ?_⟩
      · rw [ofJson, read, Except.map]
      · rw [toJson, same]
  | .object fields, h => by
      obtain ⟨sorted, inside⟩ := Bool.and_eq_true_iff.mp h
      have inOrder : Keyed.Sorted fields := of_decide_eq_true sorted
      obtain ⟨entries, read, exact, same⟩ := toJsonEntries_ofJsonFields key fields inside
      subst same
      have sortedEntries := sorted_toJsonEntries.mp inOrder
      refine ⟨.map entries, ?_, ?_, by rw [toJson]⟩
      · rw [ofJson, read, Except.map, Keyed.ofList_of_sorted sortedEntries]
      · exact Bool.and_eq_true_iff.mpr ⟨decide_eq_true sortedEntries, exact⟩

theorem toJsonItems_ofJsonItems (key : String) : (items : List Json) →
    Json.everywhereInItems Json.isExact items →
    ∃ values, ofJsonItems key items = .ok values ∧ exactItems values ∧ toJsonItems values = items
  | [], _ => ⟨[], rfl, rfl, rfl⟩
  | item :: rest, h => by
      obtain ⟨here, behind⟩ := Bool.and_eq_true_iff.mp h
      obtain ⟨value, read, exact, same⟩ := toJson_ofJson key item here
      obtain ⟨values, readRest, exactRest, sameRest⟩ := toJsonItems_ofJsonItems key rest behind
      refine ⟨value :: values, ?_, Bool.and_eq_true_iff.mpr ⟨exact, exactRest⟩, ?_⟩
      · rw [ofJsonItems, read, readRest]
        rfl
      · rw [toJsonItems, same, sameRest]

theorem toJsonEntries_ofJsonFields (key : String) : (fields : List (String × Json)) →
    Json.everywhereInFields Json.isExact fields →
    ∃ entries, ofJsonFields key fields = .ok entries ∧ exactEntries entries ∧
      toJsonEntries entries = fields
  | [], _ => ⟨[], rfl, rfl, rfl⟩
  | (name, item) :: rest, h => by
      obtain ⟨here, behind⟩ := Bool.and_eq_true_iff.mp h
      obtain ⟨value, read, exact, same⟩ := toJson_ofJson (key ++ "." ++ name) item here
      obtain ⟨values, readRest, exactRest, sameRest⟩ := toJsonEntries_ofJsonFields key rest behind
      refine ⟨(name, value) :: values, ?_, Bool.and_eq_true_iff.mpr ⟨exact, exactRest⟩, ?_⟩
      · rw [ofJsonFields, read, readRest]
        rfl
      · rw [toJsonEntries, same, sameRest]

end

/-- Values survive being written and read, and documents being read and written, whatever the key:
exact values and exact documents stand for one another. What is written of such a value is the text
of its document. -/
theorem values_survive_documents (key : String) :
    (∀ value : Value, value.exact →
      value.toJson.Exact ∧ value.written = value.toJson.print ∧
        ofJson key value.toJson = .ok value) ∧
    ∀ document : Json, document.Exact →
      ∃ value, ofJson key document = .ok value ∧ value.exact ∧ value.toJson = document := by
  refine ⟨fun value exact => ⟨exact_toJson value exact, ?_, ?_⟩, toJson_ofJson key⟩
  · exact written_eq_print value exact
  · exact ofJson_toJson key value exact

/-- A map that holds the number one twice, as a whole number and as a floating one. -/
def order : Value :=
  .map [("counts", .list [.int 1, .float ⟨0x3ff0000000000000⟩, .map []]), ("paid", .bool true),
    ("shop", .text "north")]

theorem order_survives :
    order.exact ∧ order.toJson.Exact ∧ order.written = order.toJson.print ∧
      ofJson "order" order.toJson = .ok order ∧
      ∃ value, ofJson "again" order.toJson = .ok value ∧ value.exact ∧
        value.toJson = order.toJson := by
  have exact : order.exact := by decide
  obtain ⟨read, -⟩ := values_survive_documents "order"
  obtain ⟨-, written⟩ := values_survive_documents "again"
  obtain ⟨whole, printed, same⟩ := read order exact
  exact ⟨exact, whole, printed, same, written order.toJson whole⟩

end
end Value
end SpanCapture
