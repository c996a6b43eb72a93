import SpanCapture.Trace.Basic

/-! Documents stand on one line. Line breaks inside strings are escaped and none stands between
pieces, so whatever has been written of a document, finished or not, holds no line break. -/
namespace SpanCapture

def OneLine (text : String) : Prop := '\n' ∉ text.toList

instance (text : String) : Decidable (OneLine text) :=
  inferInstanceAs (Decidable ('\n' ∉ text.toList))

section
variable {first second separator name : String} {cs : List Char}

theorem oneLine_append (before : OneLine first) (behind : OneLine second) :
    OneLine (first ++ second) := by
  unfold OneLine
  rw [String.toList_append, List.mem_append]
  exact not_or.mpr ⟨before, behind⟩

theorem oneLine_ofList (free : '\n' ∉ cs) : OneLine (String.ofList cs) := by
  unfold OneLine
  rwa [String.toList_ofList]

/-- Digits are no line breaks. -/
theorem not_mem_toDigits (n : Nat) : '\n' ∉ Nat.toDigits 10 n := by
  intro member
  have digit : '\n'.isDigit = true := Nat.isDigit_of_mem_toDigits (by decide) (by decide) member
  exact absurd digit (by decide)

theorem oneLine_nat (n : Nat) : OneLine (toString n) := oneLine_ofList (not_mem_toDigits n)

theorem oneLine_int : (i : Int) → OneLine (toString i)
  | .ofNat n => oneLine_nat n
  | .negSucc n => oneLine_append (by decide : OneLine "-") (oneLine_nat (n + 1))

namespace NumberLayout

theorem toList_zeros (n : Nat) : (zeros n).toList = List.replicate n '0' := by
  unfold zeros String.pushn
  induction n with
  | zero => rfl
  | succ n ih => rw [Nat.repeat, String.toList_push, ih, List.replicate_succ']

theorem oneLine_zeros (n : Nat) : OneLine (zeros n) := by
  unfold OneLine
  rw [toList_zeros]
  intro member
  exact absurd (List.eq_of_mem_replicate member) (by decide)

/-- A layout whose own marks hold no line break. -/
structure Plain (layout : NumberLayout) : Prop where
  suffix : OneLine layout.wholeSuffix
  mark : OneLine layout.positiveMark

variable {layout : NumberLayout}

theorem Plain.oneLine_text (h : Plain layout) (d : Decimal) : OneLine (layout.text d) := by
  have digits := not_mem_toDigits d.digits
  have point : OneLine "." := by decide
  unfold text
  dsimp only
  split
  · split
    · exact oneLine_append (oneLine_append (oneLine_ofList digits) (oneLine_zeros _)) h.suffix
    · split
      · have whole := mt (List.mem_of_mem_take (i := d.leading.toNat + 1)) digits
        have places := mt (List.mem_of_mem_drop (i := d.leading.toNat + 1)) digits
        exact oneLine_append (oneLine_append (oneLine_ofList whole) point) (oneLine_ofList places)
      · have start : OneLine "0." := by decide
        exact oneLine_append (oneLine_append start (oneLine_zeros _)) (oneLine_ofList digits)
  · have letter : OneLine "e" := by decide
    have mark : OneLine (if d.leading < 0 then "-" else layout.positiveMark) := by
      split
      · decide
      · exact h.mark
    refine oneLine_append (oneLine_append (oneLine_append ?_ letter) mark) (oneLine_nat _)
    split
    · decide
    · rename_i c same
      exact oneLine_ofList (same ▸ digits)
    · rename_i c rest same
      rw [same, List.mem_cons, not_or] at digits
      have leading := oneLine_ofList (mt List.mem_singleton.mp digits.1)
      exact oneLine_append (oneLine_append leading point) (oneLine_ofList digits.2)

theorem Plain.oneLine_finiteText (h : Plain layout) (x : Binary64) :
    OneLine (layout.finiteText x) := by
  have sign : OneLine (if x.isNegative then "-" else "") := by split <;> decide
  unfold finiteText
  dsimp only
  split
  · exact oneLine_append (oneLine_append sign (by decide)) h.suffix
  · exact oneLine_append sign (h.oneLine_text _)

end NumberLayout

namespace Written

variable {a b : Written}

theorem oneLine_append (before : OneLine a.text) (behind : OneLine b.text) :
    OneLine (a ++ b).text := by
  rw [append_def]
  split
  · exact before
  · exact SpanCapture.oneLine_append before behind

theorem oneLine_separated (between : OneLine separator) {pieces : List Written}
    (each : ∀ piece ∈ pieces, OneLine piece.text) : OneLine (separated separator pieces).text := by
  cases pieces with
  | nil => exact (by decide : OneLine "")
  | cons piece rest =>
      obtain ⟨here, later⟩ := List.forall_mem_cons.mp each
      unfold separated
      induction rest generalizing piece with
      | nil => exact here
      | cons next rest ih =>
          obtain ⟨following, others⟩ := List.forall_mem_cons.mp later
          have longer := oneLine_append (b := next)
            (oneLine_append (b := ofString separator) here between) following
          exact ih _ (List.forall_mem_cons.mpr ⟨longer, others⟩) longer others

end Written

namespace Json

theorem not_mem_escapeChar (c : Char) : '\n' ∉ escapeChar c := by
  have digits : ∀ n, n < 16 → hexDigit n ≠ '\n' := by decide
  by_cases isBreak : c = '\n'
  · rw [isBreak]
    decide
  unfold escapeChar
  -- The characters that have a letter of their own.
  iterate 6
    split
    · decide
  split
  · rename_i control
    have high : hexDigit (c.toNat / 16) ≠ '\n' := digits _ (by omega)
    have low : hexDigit (c.toNat % 16) ≠ '\n' := digits _ (by omega)
    simp [high.symm, low.symm]
  · exact fun member => isBreak (List.mem_singleton.mp member).symm

/-- Line breaks in a string are escaped. -/
theorem oneLine_quote (s : String) : OneLine (quote s) := by
  have mark : OneLine "\"" := by decide
  refine oneLine_append (oneLine_append mark (oneLine_ofList fun member => ?_)) mark
  obtain ⟨c, -, inside⟩ := List.mem_flatMap.mp member
  exact not_mem_escapeChar c inside

theorem oneLine_floatText (x : Binary64) : OneLine (floatText x) := by
  have plain : NumberLayout.Plain numberLayout := ⟨by decide, by decide⟩
  unfold floatText
  split
  · exact plain.oneLine_finiteText x
  · decide

theorem oneLine_field {value : Written} (inside : OneLine value.text) :
    OneLine (field name value).text :=
  Written.oneLine_append (a := Written.ofString _)
    (oneLine_append (oneLine_quote name) (by decide)) inside

/-- Pieces between two marks. -/
theorem oneLine_enclosed {opening closing : String} (opens : OneLine opening)
    (closes : OneLine closing) {pieces : List Written}
    (each : ∀ piece ∈ pieces, OneLine piece.text) :
    OneLine (Written.ofString opening ++ Written.separated "," pieces ++
      Written.ofString closing).text := by
  have inside := Written.oneLine_separated (by decide : OneLine ",") each
  exact Written.oneLine_append (b := Written.ofString closing)
    (Written.oneLine_append (a := Written.ofString opening) opens inside) closes

theorem oneLine_arrayText {items : List Written} (each : ∀ item ∈ items, OneLine item.text) :
    OneLine (arrayText items).text := oneLine_enclosed (by decide) (by decide) each

theorem oneLine_objectText {fields : List (String × Written)}
    (each : ∀ field ∈ fields, OneLine field.2.text) : OneLine (objectText fields).text := by
  refine oneLine_enclosed (by decide) (by decide) ?_
  intro piece member
  obtain ⟨named, listed, rfl⟩ := List.mem_map.mp member
  exact oneLine_field (each named listed)

mutual

theorem oneLine_print : (document : Json) → OneLine (print document).text
  | .null => by decide
  | .bool true => by decide
  | .bool false => by decide
  | .int i => oneLine_int i
  | .float x => oneLine_floatText x
  | .text s => oneLine_quote s
  | .array items => by
      rw [print]
      exact oneLine_arrayText (oneLine_printItems items)
  | .object fields => by
      rw [print]
      exact oneLine_objectText (oneLine_printFields fields)

theorem oneLine_printItems : (items : List Json) → ∀ item ∈ printItems items, OneLine item.text
  | [] => List.forall_mem_nil _
  | item :: rest => List.forall_mem_cons.mpr ⟨oneLine_print item, oneLine_printItems rest⟩

theorem oneLine_printFields :
    (fields : List (String × Json)) → ∀ field ∈ printFields fields, OneLine field.2.text
  | [] => List.forall_mem_nil _
  | (_, value) :: rest => List.forall_mem_cons.mpr ⟨oneLine_print value, oneLine_printFields rest⟩

end

end Json

namespace Value

mutual

theorem oneLine_written : (value : Value) → OneLine value.written.text
  | .bool b => Json.oneLine_print (.bool b)
  | .int i => Json.oneLine_print (.int i.toInt)
  | .float x => Json.oneLine_print (.float x)
  | .text s => Json.oneLine_print (.text s)
  | .date t => by
      unfold written
      split
      · decide
      · exact Json.oneLine_print _
  | .map entries => Json.oneLine_objectText (oneLine_writtenEntries entries)
  | .list items => Json.oneLine_arrayText (oneLine_writtenItems items)

theorem oneLine_writtenEntries : (entries : List (String × Value)) →
    ∀ entry ∈ writtenEntries entries, OneLine entry.2.text
  | [] => List.forall_mem_nil _
  | (_, value) :: rest =>
      List.forall_mem_cons.mpr ⟨oneLine_written value, oneLine_writtenEntries rest⟩

theorem oneLine_writtenItems : (items : List Value) →
    ∀ item ∈ writtenItems items, OneLine item.text
  | [] => List.forall_mem_nil _
  | value :: rest => List.forall_mem_cons.mpr ⟨oneLine_written value, oneLine_writtenItems rest⟩

end

end Value

theorem Attributes.oneLine_written (m : Attributes) : OneLine m.written.text :=
  Json.oneLine_objectText (Value.oneLine_writtenEntries m)

theorem Operation.oneLine_written (op : Operation) : OneLine op.written.text := by
  refine Json.oneLine_objectText ?_
  simp only [List.forall_mem_append, List.forall_mem_cons, List.forall_mem_map]
  refine ⟨⟨⟨Json.oneLine_print _, Json.oneLine_print _, List.forall_mem_nil _⟩, ?_⟩, ?_⟩
  · exact fun place _ => Json.oneLine_print _
  · exact ⟨op.props.oneLine_written, List.forall_mem_nil _⟩

namespace Frame

mutual

theorem oneLine_written : (frame : Frame) → OneLine frame.written.text
  | .node entry children => by
      refine Json.oneLine_objectText ?_
      have below := Json.oneLine_arrayText (oneLine_writtenAll children)
      simp only [List.forall_mem_append, List.forall_mem_cons, List.forall_mem_map]
      refine ⟨⟨⟨Json.oneLine_print _, List.forall_mem_nil _⟩, fun _ _ => Json.oneLine_print _⟩, ?_⟩
      exact ⟨Json.oneLine_print _, Json.oneLine_print _, entry.op.oneLine_written, below,
        List.forall_mem_nil _⟩

theorem oneLine_writtenAll :
    (frames : List Frame) → ∀ written ∈ writtenAll frames, OneLine written.text
  | [] => List.forall_mem_nil _
  | frame :: rest => List.forall_mem_cons.mpr ⟨oneLine_written frame, oneLine_writtenAll rest⟩

end

end Frame

/-- Whatever has been written of a trace stands on one line. -/
theorem Trace.oneLine_written (t : Trace) : OneLine t.written.text := by
  refine Json.oneLine_objectText ?_
  simp only [List.forall_mem_append, List.forall_mem_cons, List.forall_mem_map]
  refine ⟨⟨Json.oneLine_print _, Json.oneLine_print _, Json.oneLine_print _, Json.oneLine_print _,
    Value.oneLine_written _, t.root.oneLine_written, t.hints.oneLine_written, Json.oneLine_print _,
    Json.oneLine_print _, List.forall_mem_nil _⟩, ?_⟩
  exact fun endpoint _ => Json.oneLine_print _

end
end SpanCapture
