import SpanCapture.Delivery.Receiver
import SpanCapture.Proofs.Json.SingleLine
import SpanCapture.Proofs.Run

/-! What the receiver of documents leaves in its stream. A trace that has a document leaves it on a line
of its own. Of one that has none, because of a date before 1970, all that could be written before
the date stays, with no line break behind it; so the next document goes on in the same line. -/
namespace SpanCapture
namespace Receiver

def hear (receiver : Receiver) (trace : Trace) : Verdict × Receiver := receiver.offer trace

/-- What the offer of a trace adds to a stream with room enough. -/
def trail (trace : Trace) : String :=
  match trace.document with
  | .ok document => document ++ "\n"
  | .error _ => trace.written.text

def trails (history : List (Moment Receiver Trace Verdict)) : String :=
  String.join (history.map fun m => trail m.call)

def taken (history : List (Moment Receiver Trace Verdict)) : List (Moment Receiver Trace Verdict) :=
  history.filter (·.answer.isAccepted)

/-- What one offer comes to: the verdict, and what is in the stream for it. -/
inductive Leaves (flushFails : Bool) (trace : Trace) : Verdict → String → Prop
  | document (document : String) (whole : trace.document = .ok document) (line : OneLine document) :
      Leaves flushFails trace
        (if flushFails then .failed (.stream .flushFailed) else .accepted) (document ++ "\n")
  | beginning (rest : String) (none : trace.document = .error (.document .dateBefore1970))
      (line : OneLine ("\x7b" ++ rest)) :
      Leaves flushFails trace (.failed (.document .dateBefore1970)) ("\x7b" ++ rest)

section
variable {receiver : Receiver} {writer : Writer} {trace : Trace} {verdict : Verdict}
  {flushFails : Bool} {history : List (Moment Receiver Trace Verdict)}

/-- The text of an object starts with its brace, finished or not. -/
theorem objectText_begins (fields : List (String × Written)) :
    ∃ rest, (Json.objectText fields).text = "\x7b" ++ rest := by
  have whole : Json.objectText fields =
      ⟨"\x7b" ++ (Written.separated "," (fields.map fun f => Json.field f.1 f.2)).text,
        (Written.separated "," (fields.map fun f => Json.field f.1 f.2)).stopped⟩ ++
        Written.ofString "\x7d" := rfl
  rw [whole, Written.append_def]
  split
  · exact ⟨_, rfl⟩
  · exact ⟨_, String.append_assoc⟩

/-- One line more, or the beginning of one. -/
theorem leaves_writeLine (unbounded : writer.room = none) (trace : Trace) :
    Leaves writer.flushFails trace (Sink.writeLine trace writer).1 (trail trace) ∧
      (Sink.writeLine trace writer).2 = { writer with text := writer.text ++ trail trace } := by
  have line := trace.oneLine_written
  by_cases stopped : trace.written.stopped = true
  · have none : trace.document = .error (.document .dateBefore1970) := if_pos stopped
    have wrote : Sink.writeLine trace writer =
        (.failed (.document .dateBefore1970),
          { writer with text := writer.text ++ trace.written.text }) := by
      simp only [Sink.writeLine, Writer.write_unbounded _ _ unbounded, stopped, if_true]
    have begun : trail trace = trace.written.text := by rw [trail, none]
    obtain ⟨rest, begins⟩ : ∃ rest, trace.written.text = "\x7b" ++ rest := objectText_begins _
    rw [wrote, begun]
    rw [begins] at line ⊢
    exact ⟨.beginning rest none line, rfl⟩
  · have whole : trace.document = .ok trace.written.text := if_neg stopped
    have wrote : Sink.writeLine trace writer =
        (Sink.flush writer, { writer with text := writer.text ++ trace.written.text ++ "\n" }) := by
      have broken := Writer.write_unbounded "\n"
        { writer with text := writer.text ++ trace.written.text } unbounded
      simp only [Sink.writeLine, Writer.write_unbounded _ _ unbounded, if_neg stopped, broken]
      rfl
    have ended : trail trace = trace.written.text ++ "\n" := by rw [trail, whole]
    rw [wrote, ended, String.append_assoc]
    exact ⟨.document _ whole line, rfl⟩

theorem hear_eq (keeps : receiver.sink = .jsonLines writer) (trace : Trace) :
    (receiver.hear trace).1 = (Sink.writeLine trace writer).1 ∧
      (receiver.hear trace).2.sink = .jsonLines (Sink.writeLine trace writer).2 := by
  unfold hear offer
  rw [keeps]
  exact ⟨rfl, rfl⟩

/-- Every offer leaves something. -/
theorem Leaves.length_pos {text : String} (h : Leaves flushFails trace verdict text) :
    0 < text.length := by
  cases h with
  | document document => rw [String.length_append]; exact Nat.lt_add_left _ (by decide)
  | beginning rest => rw [String.length_append]; exact Nat.lt_add_right _ (by decide)

theorem trails_cons (m : Moment Receiver Trace Verdict)
    (history : List (Moment Receiver Trace Verdict)) :
    trails (m :: history) = trail m.call ++ trails history := String.join_cons

theorem length_trails_taken_le (history : List (Moment Receiver Trace Verdict)) :
    (trails (taken history)).length ≤ (trails history).length := by
  induction history with
  | nil => exact Nat.le_refl _
  | cons m rest ih =>
      rw [taken, List.filter_cons, trails_cons, String.length_append]
      split
      · rw [trails_cons, String.length_append]
        exact Nat.add_le_add_left ih _
      · exact Nat.le_add_left_of_le ih

/-- The stream holds nothing but accepted documents exactly if all were accepted. -/
theorem trails_eq_taken_iff
    (left : ∀ m ∈ history, Leaves flushFails m.call m.answer (trail m.call)) :
    trails history = trails (taken history) ↔ ∀ m ∈ history, m.answer.isAccepted := by
  induction history with
  | nil => exact iff_of_true rfl (List.forall_mem_nil _)
  | cons m rest ih =>
      obtain ⟨here, later⟩ := List.forall_mem_cons.mp left
      rw [List.forall_mem_cons, taken, List.filter_cons, trails_cons]
      split
      · rename_i accepted
        rw [trails_cons, String.append_right_inj, ← taken, ih later]
        exact (and_iff_right accepted).symm
      · rename_i refused
        refine iff_of_false (fun same => ?_) fun all => refused all.1
        have longer := congrArg String.length same
        rw [String.length_append] at longer
        have shorter := length_trails_taken_le rest
        have something := here.length_pos
        unfold taken at shorter
        omega

/-- What the offers leave stands one behind the other. -/
theorem sink_after (keeps : receiver.sink = .jsonLines writer) (unbounded : writer.room = none)
    (traces : List Trace) :
    (after hear receiver traces).sink =
        .jsonLines { writer with text := writer.text ++ trails (moments hear receiver traces) } ∧
      ∀ m ∈ moments hear receiver traces,
        Leaves writer.flushFails m.call m.answer (trail m.call) := by
  induction traces generalizing receiver writer with
  | nil =>
      have unchanged : writer.text ++ trails [] = writer.text := String.append_empty
      refine ⟨?_, List.forall_mem_nil _⟩
      rw [moments, unchanged]
      exact keeps
  | cons trace rest ih =>
      obtain ⟨verdict, sink⟩ := hear_eq keeps trace
      obtain ⟨leaves, text⟩ := leaves_writeLine unbounded trace
      rw [text] at sink
      obtain ⟨final, others⟩ := ih sink unbounded
      have grown : writer.text ++ trails (moments hear receiver (trace :: rest)) =
          writer.text ++ trail trace ++ trails (moments hear (receiver.hear trace).2 rest) := by
        rw [moments, trails_cons, String.append_assoc]
        rfl
      refine ⟨?_, List.forall_mem_cons.mpr ⟨?_, others⟩⟩
      · rw [grown]
        exact final
      · rwa [← verdict] at leaves

/-- What is offered to a receiver of documents: what each offer leaves stands behind the others, a
document with a line break or the beginning of one without. So the stream is made of the accepted
documents alone, one a line, exactly if every offer was accepted. -/
theorem stream_of_documents (keeps : receiver.sink = .jsonLines writer)
    (unbounded : writer.room = none) (traces : List Trace) :
    let history := moments hear receiver traces
    (after hear receiver traces).sink =
        .jsonLines { writer with text := writer.text ++ trails history } ∧
      (∀ m ∈ history, Leaves writer.flushFails m.call m.answer (trail m.call)) ∧
      (trails history = trails (taken history) ↔ ∀ m ∈ history, m.answer.isAccepted) := by
  intro history
  obtain ⟨final, left⟩ := sink_after keeps unbounded traces
  exact ⟨final, left, trails_eq_taken_iff left⟩

def dated (date : Instant) : Trace where
  id := "d"
  application := "shop"
  server := "local"
  kind := "http"
  start := ⟨0, 0⟩
  root := .node
    (.opened 1 none { kind := "http", label := "root", props := [("when", .date date)] } 0) []
  hints := []
  sensitive := false
  minimal := false
  endpoint := none

def scribe : Receiver where
  label := "json"
  sink := .jsonLines {}

theorem stream_around_old_date :
    let traces := [dated ⟨5, 0⟩, dated ⟨-1, 0⟩, dated ⟨7, 0⟩]
    let history := moments hear scribe traces
    scribe.sink = .jsonLines {} ∧
      history.map (·.answer.isAccepted) = [true, false, true] ∧
      (after hear scribe traces).sink = .jsonLines { text := "" ++ trails history } ∧
      trails history ≠ trails (taken history) := by
  intro traces history
  have keeps : scribe.sink = .jsonLines {} := rfl
  obtain ⟨sink, -, framed⟩ := stream_of_documents keeps rfl traces
  have answers : history.map (·.answer.isAccepted) = [true, false, true] := by decide +kernel
  refine ⟨keeps, answers, sink, fun same => ?_⟩
  have all : ∀ accepted ∈ history.map (·.answer.isAccepted), accepted = true := by
    intro accepted member
    obtain ⟨m, inside, rfl⟩ := List.mem_map.mp member
    exact framed.mp same m inside
  rw [answers] at all
  exact absurd (all false (by decide)) Bool.false_ne_true

/-- The accepted document does not stand alone: it goes on behind the beginning of the one before. -/
theorem beginning_before_next_document :
    let traces := [dated ⟨-1, 0⟩, dated ⟨0, 0⟩]
    let history := moments hear scribe traces
    history.map (·.answer) = [.failed (.document .dateBefore1970), .accepted] ∧
      (after hear scribe traces).writer?.map (·.text) ≠ some (trails (taken history)) := by
  decide +kernel

end
end Receiver
end SpanCapture
