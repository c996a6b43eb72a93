import Mathlib.Algebra.Ring.Nat
import SpanCapture.Proofs.Json.SingleLine

/-! The outline of a trace. It is made of rows, one for the whole and one for each frame in the order
the frames were entered, each ended by a line break. The texts a trace was given stand in the rows
as they are, so a row is a line exactly if none of its texts holds a line break. -/
namespace SpanCapture

def lineBreaks (text : String) : Nat := text.toList.count '\n'

section
variable {first second : String} {rows : List String}

theorem lineBreaks_append (first second : String) :
    lineBreaks (first ++ second) = lineBreaks first + lineBreaks second := by
  unfold lineBreaks
  rw [String.toList_append, List.count_append]

theorem lineBreaks_eq_zero {text : String} : lineBreaks text = 0 ↔ OneLine text :=
  List.count_eq_zero

theorem oneLine_append_iff : OneLine (first ++ second) ↔ OneLine first ∧ OneLine second := by
  rw [← lineBreaks_eq_zero, lineBreaks_append, Nat.add_eq_zero_iff, lineBreaks_eq_zero,
    lineBreaks_eq_zero]

/-- Rows that each end in a line break have so many more than they hold. -/
theorem lineBreaks_join_rows (rows : List String) :
    lineBreaks (String.join (rows.map (· ++ "\n"))) = rows.length + (rows.map lineBreaks).sum := by
  induction rows with
  | nil => rfl
  | cons row rest ih =>
      have one : lineBreaks "\n" = 1 := rfl
      rw [List.map_cons, String.join_cons, lineBreaks_append, lineBreaks_append, ih, one,
        List.map_cons, List.sum_cons, List.length_cons]
      omega

/-- There is a line for every row exactly if no row holds a line break. -/
theorem lineBreaks_eq_length_iff :
    lineBreaks (String.join (rows.map (· ++ "\n"))) = rows.length ↔ ∀ row ∈ rows, OneLine row := by
  rw [lineBreaks_join_rows, Nat.add_eq_left, List.sum_eq_zero_iff_forall_eq_nat, List.forall_mem_map]
  exact forall₂_congr fun row _ => lineBreaks_eq_zero

end

namespace Trace

def rows (t : Trace) : List String :=
  t.headRow :: (t.root.walk 0).map fun (depth, e) => frameRow depth e

def headTexts (t : Trace) : List String :=
  [t.id, t.application, t.kind] ++ t.endpoint.toList.map (·.name)

/-- All texts in the outline of a trace that the trace was given. -/
def texts (t : Trace) : List String :=
  t.headTexts ++ t.root.entries.flatMap fun e => [e.op.kind, e.op.label]

section
variable {t : Trace} {depth : Nat} {e : FrameEntry}

theorem toList_indent (depth : Nat) :
    (indent depth).toList = List.replicate (2 * (depth + 1)) ' ' := by
  have pushed : ∀ n, ("".pushn ' ' n).toList = List.replicate n ' ' := by
    intro n
    unfold String.pushn
    induction n with
    | zero => rfl
    | succ n ih => rw [Nat.repeat, String.toList_push, ih, List.replicate_succ']
  exact pushed _

theorem oneLine_indent (depth : Nat) : OneLine (indent depth) := by
  unfold OneLine
  rw [toList_indent]
  exact fun member => absurd (List.eq_of_mem_replicate member) (by decide)

theorem oneLine_marks (op : Operation) : OneLine (marks op) := by
  unfold marks
  refine oneLine_append ?_ ?_
  · split <;> decide
  · split <;> decide

/-- Of what stands in a row of a frame only kind and label can break it. -/
theorem oneLine_frameRow : OneLine (frameRow depth e) ↔ OneLine e.op.kind ∧ OneLine e.op.label := by
  have blank : OneLine " " := by decide
  have number : OneLine "#" := by decide
  have opens : OneLine " (" := by decide
  have closes : OneLine "us)" := by decide
  simp only [frameRow, oneLine_append_iff, oneLine_indent, oneLine_nat, oneLine_marks, blank,
    number, opens, closes, true_and, and_true]

theorem oneLine_headRow : OneLine t.headRow ↔ ∀ text ∈ t.headTexts, OneLine text := by
  have words : OneLine "trace " ∧ OneLine " app=" ∧ OneLine " type=" ∧ OneLine " frames=" ∧
      OneLine " endpoint=\"" ∧ OneLine "\"" ∧ OneLine "" := by decide
  obtain ⟨trace, app, type, frames, endpoint, mark, nothing⟩ := words
  have size : OneLine (toString t.size) := oneLine_nat _
  unfold headRow headTexts
  cases t.endpoint with
  | none =>
      simp only [Option.elim, Option.toList, List.map, List.append_nil, oneLine_append_iff, trace,
        app, type, frames, size, nothing, true_and, and_true, List.forall_mem_cons,
        List.not_mem_nil, false_implies, implies_true, and_assoc]
  | some e =>
      simp only [Option.elim, Option.toList, List.map, List.cons_append, List.nil_append,
        oneLine_append_iff, trace, app, type, frames, size, endpoint, mark, true_and, and_true,
        List.forall_mem_cons, List.not_mem_nil, false_implies, implies_true, and_assoc]

/-- The rows of frames are lines exactly if no kind and no label holds a line break. -/
theorem oneLine_frameRows (visited : List (Nat × FrameEntry)) :
    (∀ row ∈ visited.map (fun (depth, e) => frameRow depth e), OneLine row) ↔
      ∀ text ∈ (visited.map Prod.snd).flatMap fun e => [e.op.kind, e.op.label], OneLine text := by
  induction visited with
  | nil => exact iff_of_true (List.forall_mem_nil _) (List.forall_mem_nil _)
  | cons visit rest ih =>
      obtain ⟨depth, e⟩ := visit
      rw [List.map_cons, List.forall_mem_cons, ih, List.map_cons, List.flatMap_cons,
        List.forall_mem_append, oneLine_frameRow]
      simp only [List.forall_mem_cons, List.not_mem_nil, false_implies, implies_true, and_true]

theorem outline_eq_join_rows (t : Trace) : t.outline = String.join (t.rows.map (· ++ "\n")) := by
  rw [rows, List.map_cons, String.join_cons, List.map_map]
  rfl

theorem length_rows (t : Trace) : t.rows.length = 1 + t.size := by
  rw [rows, List.length_cons, List.length_map, Frame.length_walk, Nat.add_comm]
  rfl

/-- A row of a frame begins with its place in the tree and its number. -/
theorem frameRow_begins (depth : Nat) (e : FrameEntry) : ∃ rest : String,
    frameRow depth e = indent depth ++ ("#" ++ toString e.id ++ " ") ++ rest := by
  refine ⟨e.op.kind ++ " " ++ e.op.label ++ " (" ++ toString (e.span.duration / 1000) ++ "us)" ++
    marks e.op, ?_⟩
  simp only [frameRow, String.append_assoc]

/-- The rows are lines exactly if the trace was given no line break. -/
theorem oneLine_rows (t : Trace) :
    (∀ row ∈ t.rows, OneLine row) ↔ ∀ text ∈ t.texts, OneLine text := by
  rw [rows, List.forall_mem_cons, oneLine_headRow, oneLine_frameRows, texts,
    List.forall_mem_append]
  rfl

/-- The outline of a trace has a row for the whole and one for each frame, in the order the frames
were entered, each indented by its depth and with the number of its frame in front. It has as many
lines exactly if no text the trace was given holds a line break. -/
theorem outline_has_row_per_frame (t : Trace) :
    t.outline = String.join (t.rows.map (· ++ "\n")) ∧ t.rows.length = 1 + t.size ∧
    t.rows.head? = some t.headRow ∧
    (∀ i depth e, (t.root.walk 0)[i]? = some (depth, e) → ∃ row rest,
      t.rows[i + 1]? = some row ∧
        row.toList = List.replicate (2 * (depth + 1)) ' ' ++ ("#" ++ toString e.id ++ " ").toList ++
          rest) ∧
    ((∀ row ∈ t.rows, OneLine row) ↔ ∀ text ∈ t.texts, OneLine text) ∧
    (lineBreaks t.outline = 1 + t.size ↔ ∀ text ∈ t.texts, OneLine text) := by
  refine ⟨outline_eq_join_rows t, length_rows t, rfl, ?_, oneLine_rows t, ?_⟩
  · intro i depth e visited
    obtain ⟨rest, begins⟩ := frameRow_begins depth e
    refine ⟨frameRow depth e, rest.toList, ?_, ?_⟩
    · rw [rows, List.getElem?_cons_succ, List.getElem?_map, visited]
      rfl
    · rw [begins, String.toList_append, String.toList_append, toList_indent]
  · rw [outline_eq_join_rows, ← length_rows, lineBreaks_eq_length_iff, oneLine_rows]

def labelled (label : String) : Trace where
  id := "t"
  application := "shop"
  server := "local"
  kind := "sql"
  start := ⟨0, 0⟩
  root := .node (.opened 1 none { kind := "sql", label } 0) []
  hints := []
  sensitive := false
  minimal := false
  endpoint := none

/-- A label of two lines makes three lines where a trace of one frame should have two. -/
theorem label_of_two_lines_breaks_row :
    (labelled "SELECT *\nFROM orders").size = 1 ∧
      lineBreaks (labelled "SELECT *\nFROM orders").outline = 3 ∧
      ¬∃ lines : List String, lines.length = 1 + (labelled "SELECT *\nFROM orders").size ∧
        (∀ line ∈ lines, OneLine line) ∧
        (labelled "SELECT *\nFROM orders").outline = String.join (lines.map (· ++ "\n")) := by
  have size : (labelled "SELECT *\nFROM orders").size = 1 := rfl
  have breaks : lineBreaks (labelled "SELECT *\nFROM orders").outline = 3 := by decide +kernel
  refine ⟨size, breaks, ?_⟩
  rintro ⟨lines, two, each, whole⟩
  rw [whole, lineBreaks_eq_length_iff.mpr each, two, size] at breaks
  exact absurd breaks (by decide)

end
end Trace
end SpanCapture
