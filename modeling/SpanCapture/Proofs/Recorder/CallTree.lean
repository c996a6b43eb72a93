import SpanCapture.Proofs.Frame.Stack
import SpanCapture.Proofs.Recorder.Calls

/-! The tree of a completed root is the tree of the calls. A ledger is kept from the calls and
their answers alone: which frames were entered, where, and which were taken out again. The
open frames of the recorder always hold exactly what the ledger keeps, so a completed root,
walked depth first, lists it. -/
namespace SpanCapture

/-- Where a frame was entered: its number, the frame on top at that moment, and the frames
open then, innermost first. -/
structure Place where
  id : Nat
  parent : Option Nat
  above : List Nat
  deriving Repr, DecidableEq

def Visit.place (v : Visit) : Place := ⟨v.entry.id, v.entry.parent, v.above⟩

/-- Not a removed frame, and not entered below one. -/
def Place.survives (removed : List Nat) (p : Place) : Bool :=
  !removed.contains p.id && !removed.any p.above.contains

namespace Recorder

/-- The calls since the root was entered, as their answers tell them. -/
structure Ledger where
  /-- The frames entered, oldest first. -/
  entered : List Place := []
  /-- The numbers of the open frames, innermost first. -/
  opened : List Nat := []
  /-- The numbers of the frames taken out of the tree. -/
  removed : List Nat := []
  deriving Repr, DecidableEq

namespace Ledger

/-- The ledger the next call goes into: a new one once the root is closed. -/
def current (l : Ledger) : Ledger := if l.opened.isEmpty then {} else l

def kept (l : Ledger) : List Place := l.entered.filter (Place.survives l.removed)

def enter (id : Nat) (l : Ledger) : Ledger :=
  { l with entered := l.entered ++ [⟨id, l.opened.head?, l.opened⟩], opened := id :: l.opened }

/-- Discarding the root, which is the outermost frame, takes nothing out. -/
def discard (id : Nat) (l : Ledger) : Ledger :=
  if l.opened.getLast? = some id then l else { l with removed := id :: l.removed }

theorem current_of_nil {l : Ledger} (h : l.opened = []) : l.current = {} := by simp [current, h]

theorem current_of_ne {l : Ledger} (h : l.opened ≠ []) : l.current = l := by simp [current, h]

theorem opened_current (l : Ledger) : l.current.opened = l.opened := by
  by_cases empty : l.opened = []
  · rw [current_of_nil empty, empty]
  · rw [current_of_ne empty]

def note (l : Ledger) (m : Moment Session Call (Outcome Answer)) : Ledger :=
  match m.call, m.answer with
  | .enter _, .done (.entered id) => l.current.enter id
  | .exit, .done (.exited _) => { l with opened := l.opened.tail }
  | .discard id, .done (.flag true) => l.discard id
  | _, _ => l

def of (history : List (Moment Session Call (Outcome Answer))) : Ledger := history.foldl note {}

end Ledger

/-- An answered call that does not drop the trace in progress: no dump, no unwinding, and no
frame entered after the trace has grown too large. -/
def Undisturbed (m : Moment Session Call (Outcome Answer)) : Prop :=
  m.answer.isDone ∧
    match m.call with
    | .enter _ => m.before.recorder.isAborted = false
    | .dump => False
    | .unwind _ _ => False
    | _ => True

instance : DecidablePred Undisturbed := fun m => by
  unfold Undisturbed
  split <;> infer_instance

/-- The open frames hold what the ledger of a trace in progress keeps. -/
structure Holds (l : Ledger) (r : Recorder) : Prop where
  opened : r.openFrames.map Frame.id = l.opened
  numbers : l.entered.map Place.id = List.range' 1 r.lastId
  places : (Frame.openVisits r.openFrames).map Visit.place = l.kept
  removed : ∀ id ∈ l.removed, id ≤ r.lastId ∧ id ∉ l.opened

theorem places_unmarked {a b : List Frame} (h : Frame.unmarkedIn a = Frame.unmarkedIn b) :
    (Frame.openVisits a).map Visit.place = (Frame.openVisits b).map Visit.place := by
  have strip (frames : List Frame) : (Frame.openVisits frames).map Visit.place =
      (Frame.openVisits (Frame.unmarkedIn frames)).map Visit.place := by
    rw [Frame.openVisits_unmarkedIn, List.map_map]
    rfl
  rw [strip, h, ← strip]

theorem survives_cons (id : Nat) (removed : List Nat) (p : Place) :
    p.survives (id :: removed) = (p.survives [id] && p.survives removed) := by
  simp only [Place.survives, List.contains_cons, List.any_cons, List.any_nil, List.contains_nil,
    Bool.or_false, Bool.not_or]
  cases p.id == id <;> cases p.above.contains id <;> simp

theorem survives_place (id : Nat) (v : Visit) : v.place.survives [id] = v.outside id := by
  simp only [Place.survives, Visit.place, Visit.outside, List.contains_cons, List.contains_nil,
    List.any_cons, List.any_nil, Bool.or_false]
  rfl

/-- Dropping closed frames drops their places and those below. -/
theorem places_withoutIn {id : Nat} {frames : List Frame} (closed : ∀ frame ∈ frames, frame.id ≠ id) :
    (Frame.openVisits (Frame.withoutIn id frames)).map Visit.place =
      ((Frame.openVisits frames).map Visit.place).filter (Place.survives [id]) := by
  have outside : Place.survives [id] ∘ Visit.place = Visit.outside id :=
    funext fun v => survives_place id v
  rw [Frame.openVisits_withoutIn closed, List.filter_map, outside]

namespace Holds

variable {l : Ledger} {r : Recorder}

theorem idle (h : r.openFrames = []) (last : r.lastId = 0) : Holds {} r :=
  ⟨by rw [h]; rfl, by rw [last]; rfl, by rw [h]; rfl, fun _ none => by cases none⟩

/-- Only the open frames and the number given last are looked at. -/
theorem congr {r' : Recorder} (h : Holds l r) (ids : r'.openFrames.map Frame.id = r.openFrames.map Frame.id)
    (places : (Frame.openVisits r'.openFrames).map Visit.place =
      (Frame.openVisits r.openFrames).map Visit.place) (last : r'.lastId = r.lastId) : Holds l r' :=
  ⟨ids.trans h.opened, last ▸ h.numbers, places.trans h.places, last ▸ h.removed⟩

theorem nodup (h : Holds l r) : (Frame.idsIn r.openFrames).Nodup := by
  have ids : (Frame.openVisits r.openFrames).map (fun v => v.entry.id) = l.kept.map Place.id := by
    rw [← h.places, List.map_map]
    rfl
  have kept : (l.kept.map Place.id).Sublist (List.range' 1 r.lastId) := by
    rw [← h.numbers]
    exact List.filter_sublist.map _
  rw [← Frame.nodup_idsIn_reverse, Frame.idsIn, ← Frame.map_entry_openVisits, List.map_map]
  exact ids ▸ kept.nodup List.nodup_range'

theorem enter {r' : Recorder} {clock : Clock} {op : Operation} (h : Holds l r)
    (opens : Opens clock op r r') : Holds (l.enter (r.lastId + 1)) r' := by
  obtain ⟨e, outer, frames, entry, others⟩ := opens.frames
  have number : e.id = r.lastId + 1 := congrArg FrameEntry.id entry
  have parent : e.parent = r.top?.map Frame.id := congrArg FrameEntry.parent entry
  have outerIds : outer.map Frame.id = l.opened := by
    rw [← Frame.map_id_unmarkedIn, others, Frame.map_id_unmarkedIn, h.opened]
  have top : r.top?.map Frame.id = l.opened.head? := by
    rw [← h.opened, List.head?_map]
    rfl
  have fresh : Place.survives l.removed ⟨r.lastId + 1, l.opened.head?, l.opened⟩ := by
    have unused : r.lastId + 1 ∉ l.removed := fun member =>
      Nat.not_succ_le_self _ (h.removed _ member).1
    have above : ∀ id ∈ l.removed, id ∉ l.opened := fun id member => (h.removed id member).2
    simpa [Place.survives, unused] using above
  refine ⟨?_, ?_, ?_, ?_⟩
  · rw [frames, List.map_cons, outerIds]
    exact congrArg (· :: l.opened) number
  · rw [opens.lastId, List.range'_1_concat, ← h.numbers, Nat.add_comm 1]
    exact List.map_append
  · have visit : Visit.place ⟨e, outer.map Frame.id⟩ =
        ⟨r.lastId + 1, l.opened.head?, l.opened⟩ := by
      rw [Visit.place, number, parent, top, outerIds]
    rw [frames, Frame.openVisits_cons, List.map_append, places_unmarked others, h.places]
    change l.kept ++ [Visit.place ⟨e, outer.map Frame.id⟩] = _
    rw [visit, Ledger.kept, Ledger.kept, Ledger.enter, List.filter_append]
    simp [fresh]
  · intro id member
    obtain ⟨old, closed⟩ := h.removed id member
    rw [opens.lastId]
    refine ⟨Nat.le_succ_of_le old, ?_⟩
    rintro (here | below)
    · exact Nat.not_succ_le_self _ old
    · exact closed ‹_›

/-- A change of the operation on top leaves all places. -/
theorem withOperation (h : Holds l r) (f : Operation → Operation) : Holds l (r.withOperation f) := by
  have changed := changes f r
  generalize r.withOperation f = r' at changed
  cases changed with
  | idle => exact h
  | top frames =>
      refine h.congr ?_ ?_ rfl
      · rw [frames]
        rfl
      · rw [frames, Frame.openVisits_cons, Frame.openVisits_cons, List.map_append, List.map_append]
        rfl

theorem act (h : Holds l r) (clock : Clock) (action : Action) :
    Holds l (r.act clock action).2.1 := by
  rw [act_eq_withOperation]
  exact h.withOperation _

/-- Closing the top frame below the next one moves no place. -/
theorem exit_inner {e parent : FrameEntry} {cs siblings outer : List Frame} {clock : Clock}
    (h : Holds l r) (frames : r.openFrames = .node e cs :: .node parent siblings :: outer) :
    Holds { l with opened := l.opened.tail } { r with
      openFrames := .node parent (siblings ++ [.node (e.left clock) cs]) :: outer
      depth := r.depth - 1 } := by
  obtain ⟨opened, numbers, places, removed⟩ := h
  rw [frames, List.map_cons] at opened
  refine ⟨?_, numbers, ?_, ?_⟩
  · rw [← opened]
    rfl
  · change List.map Visit.place (Frame.openVisits _) = l.kept
    rw [← places, frames, Frame.openVisits_attach, Frame.openVisits_cons (.node e cs),
      List.map_append, List.map_append]
    rfl
  · intro id member
    obtain ⟨old, closed⟩ := removed id member
    exact ⟨old, fun still => closed (List.mem_of_mem_tail still)⟩

/-- A closed frame is taken out with all places below it. -/
theorem discard_closed {parent id : Nat} {root removed : Frame} {frames : List Frame}
    (h : Holds l r) (isRoot : r.root? = some root) (notRoot : root.id ≠ id)
    (closed : ∀ frame ∈ r.openFrames, frame.id ≠ id)
    (pruned : Frame.pruneIn? parent id r.openFrames = some (removed, frames)) :
    Holds (l.discard id)
      { r with openFrames := frames, frameCount := r.frameCount - removed.size } := by
  have rest := Frame.prune_eq_withoutIn h.nodup pruned
  have ids : l.opened.getLast? ≠ some id := by
    rw [← h.opened, List.getLast?_map]
    change r.root?.map Frame.id ≠ some id
    rw [isRoot]
    exact fun same => notRoot (Option.some.inj same)
  have known : id ∈ List.range' 1 r.lastId := by
    have member := Frame.mem_idsIn_of_prune pruned
    obtain ⟨e, inside, same⟩ := List.mem_map.mp member
    rw [← Frame.mem_entriesIn_reverse, ← Frame.map_entry_openVisits] at inside
    obtain ⟨v, visited, entry⟩ := List.mem_map.mp inside
    have kept : v.place ∈ l.kept := h.places ▸ List.mem_map_of_mem visited
    rw [← h.numbers, ← same, ← entry]
    exact List.mem_map_of_mem (List.mem_filter.mp kept).1
  have notOpen : id ∉ l.opened := by
    intro member
    obtain ⟨frame, inside, same⟩ := List.mem_map.mp (h.opened ▸ member)
    exact closed frame inside same
  rw [Ledger.discard, if_neg ids, rest]
  refine ⟨?_, h.numbers, ?_, ?_⟩
  · exact (Frame.map_id_withoutIn closed).trans h.opened
  · change (Frame.openVisits (Frame.withoutIn id r.openFrames)).map Visit.place =
      l.entered.filter (Place.survives (id :: l.removed))
    have both : Place.survives (id :: l.removed) =
        fun p => p.survives [id] && p.survives l.removed := funext (survives_cons id l.removed)
    rw [places_withoutIn closed, h.places, both, ← List.filter_filter]
    rfl
  · intro other member
    rcases List.mem_cons.mp member with rfl | member
    · exact ⟨by simpa [Nat.lt_succ_iff, Nat.add_comm] using (List.mem_range'_1.mp known).2, notOpen⟩
    · exact h.removed other member

end Holds

theorem holds_exit {l : Ledger} {s : Session} (h : Holds l.current s.recorder)
    (calm : (step s .exit).1.isDone) :
    Holds (l.note (.at step s .exit)).current (step s .exit).2.recorder := by
  have left := exits s.clock s.recorder
  have opened := l.opened_current ▸ h.opened
  simp only [Ledger.note, Moment.at, step] at calm ⊢
  generalize s.recorder.exit s.clock = exited at left calm ⊢
  cases left with
  | idle frames =>
      rw [frames] at opened
      have none : l.opened = [] := opened.symm
      rw [Ledger.current_of_nil none] at h
      change Holds (Ledger.current { l with opened := l.opened.tail }) s.recorder
      rwa [Ledger.current_of_nil (by rw [none]; rfl)]
  | crash frames crashed => cases calm
  | root frames finalized =>
      rw [frames] at opened
      have last : l.opened.tail = [] := by
        rw [← opened]
        rfl
      change Holds (Ledger.current { l with opened := l.opened.tail }) _
      rw [Ledger.current_of_nil last]
      exact Holds.idle rfl rfl
  | inner frames finalized =>
      rw [frames] at opened
      have some : l.opened ≠ [] := by
        rw [← opened]
        exact List.cons_ne_nil _ _
      have more : l.opened.tail ≠ [] := by
        rw [← opened]
        exact List.cons_ne_nil _ _
      rw [Ledger.current_of_ne some] at h
      change Holds (Ledger.current { l with opened := l.opened.tail }) _
      rw [Ledger.current_of_ne more]
      exact h.exit_inner frames

theorem holds_discard {l : Ledger} {s : Session} (h : Holds l.current s.recorder) (id : Nat) :
    Holds (l.note (.at step s (.discard id))).current (step s (.discard id)).2.recorder := by
  have discarded := discards id s.recorder
  have opened := l.opened_current ▸ h.opened
  have building {frame : Frame} (isRoot : s.recorder.root? = some frame) : l.opened ≠ [] := by
    intro none
    rw [none] at opened
    rw [root?, List.map_eq_nil_iff.mp opened] at isRoot
    cases isRoot
  simp only [Ledger.note, Moment.at, step]
  generalize s.recorder.discard id = result at discarded ⊢
  cases discarded with
  | refused => exact h
  | root isRoot here =>
      have outermost : l.opened.getLast? = some id := by
        rw [← opened, List.getLast?_map]
        change s.recorder.root?.map Frame.id = some id
        rw [isRoot, Option.map_some, here]
      change Holds (l.discard id).current _
      rw [Ledger.discard, if_pos outermost]
      exact h.congr rfl rfl rfl
  | closed isRoot notRoot apart found clean pruned =>
      have same (l : Ledger) : (l.discard id).opened = l.opened := by
        unfold Ledger.discard
        split <;> rfl
      rw [Ledger.current_of_ne (building isRoot)] at h
      change Holds (l.discard id).current _
      rw [Ledger.current_of_ne (same l ▸ building isRoot)]
      exact h.discard_closed isRoot notRoot apart pruned

/-- Every undisturbed call keeps ledger and recorder together. -/
theorem holds_note {l : Ledger} {s : Session} {call : Call} (h : Holds l.current s.recorder)
    (ok : Undisturbed (.at step s call)) :
    Holds (l.note (.at step s call)).current (step s call).2.recorder := by
  obtain ⟨calm, fits⟩ := ok
  cases call with
  | enter op =>
      have sound : s.recorder.isAborted = false := fits
      have fresh : s.recorder.enter s.clock op = s.recorder.enterFresh s.clock op := by
        rw [enter, sound]
        rfl
      simp only [Ledger.note, Moment.at, step, fresh] at calm ⊢
      rcases enterFresh_cases s.clock op s.recorder with ⟨message, crashed⟩ | ⟨r, entered, opens⟩
      · rw [crashed] at calm
        cases calm
      · rw [entered]
        exact h.enter opens
  | exit => exact holds_exit h calm
  | discard id => exact holds_discard h id
  | dump => exact fits.elim
  | setHint key value => exact h.congr rfl rfl rfl
  | setHintObject key object => exact h.congr rfl rfl rfl
  | setHintAtRoot key value =>
      simp only [step, setHintAtRoot]
      split <;> exact h.congr rfl rfl rfl
  | change f => exact h.withOperation f
  | act action => exact h.act s.clock action
  | unwind maxAge now => exact fits.elim
  | wait nanos => exact h

/-- Closing the last open frame completes a tree that lists what the ledger keeps. -/
theorem Holds.walk_completed {l : Ledger} {s : Session} (h : Holds l s.recorder)
    (root : l.opened.length = 1) (calm : (step s .exit).1.isDone) :
    ∃ info trace, (step s .exit).1 = .done (.exited (some ⟨info, some trace⟩)) ∧
      (trace.root.walk 0).map (fun visit => (visit.1, visit.2.id, visit.2.parent)) =
        l.kept.map fun place => (place.above.length, place.id, place.parent) := by
  have left := exits s.clock s.recorder
  have height : s.recorder.openFrames.length = 1 := by
    rw [← root, ← h.opened, List.length_map]
  simp only [step] at calm ⊢
  generalize s.recorder.exit s.clock = exited at left calm ⊢
  cases left with
  | idle frames => simp [frames] at height
  | crash frames crashed => cases calm
  | inner frames finalized => simp [frames] at height
  | @root e cs frames finalized =>
      refine ⟨_, _, rfl, ?_⟩
      have places : (Frame.visitsIn [] [.node (e.left s.clock) cs]).map Visit.place = l.kept := by
        rw [← h.places, frames, Frame.openVisits_cons, Frame.openVisits_nil, List.nil_append,
          List.map_nil, ← Frame.visitsIn_singleton]
        rfl
      rw [← places, Frame.walk_eq, List.map_map, List.map_map]
      rfl

/-- An undisturbed run that starts with a recorder just reset and leaves only the root open:
the frames were numbered from one on in the order they were entered, and closing the root
completes a tree which, walked depth first, lists exactly the frames kept, each as deep as
frames were open when it was entered and with the number of the frame then on top. -/
theorem walk_of_completed_root {first s : Session}
    {history : List (Moment Session Call (Outcome Answer))}
    (fresh : first.recorder.reset = first.recorder) (run : Run step Undisturbed first history s)
    (root : (Ledger.of history).opened.length = 1) (calm : (step s .exit).1.isDone) :
    (Ledger.of history).entered.map Place.id =
        List.range' 1 (Ledger.of history).entered.length ∧
      ∃ info trace, (step s .exit).1 = .done (.exited (some ⟨info, some trace⟩)) ∧
        (trace.root.walk 0).map (fun visit => (visit.1, visit.2.id, visit.2.parent)) =
          (Ledger.of history).kept.map fun place => (place.above.length, place.id, place.parent) := by
  have idle : Holds {} first.recorder := by
    rw [← fresh]
    exact Holds.idle rfl rfl
  have holds : Holds (Ledger.of history).current s.recorder :=
    run.book_invariant (R := fun l s => Holds l.current s.recorder) Ledger.note {} idle
      fun _ _ _ h ok => holds_note h ok
  have opened : (Ledger.of history).opened ≠ [] := List.ne_nil_of_length_eq_add_one root
  rw [Ledger.current_of_ne opened] at holds
  have count : (Ledger.of history).entered.length = s.recorder.lastId := by
    have lengths := congrArg List.length holds.numbers
    rwa [List.length_map, List.length_range'] at lengths
  refine ⟨?_, holds.walk_completed root calm⟩
  rw [count]
  exact holds.numbers

def Session.plain (maxFrames : Nat) : Session :=
  { clock := ⟨0, 0⟩
    recorder := {
      limits := ⟨maxFrames, []⟩, analyzers := [], identity := { context := 1, threadId := "main" } } }

/-- A root with two children, of which the first is discarded while the second is open. -/
def twoChildren : List Call :=
  [.enter { kind := "http", label := "root" }, .enter { kind := "db", label := "first" }, .exit,
    .enter { kind := "db", label := "second" }, .discard 2, .act (.fail "late"), .exit]

theorem walk_of_root_without_first_child :
    (∀ m ∈ moments step (Session.plain 10) twoChildren, Undisturbed m) ∧
      ∃ info trace, (step (after step (Session.plain 10) twoChildren) .exit).1 =
          .done (.exited (some ⟨info, some trace⟩)) ∧
        (trace.root.walk 0).map (fun visit => (visit.1, visit.2.id, visit.2.parent)) =
          [(0, 1, none), (1, 3, some 1)] := by
  have ok : ∀ m ∈ moments step (Session.plain 10) twoChildren, Undisturbed m := by decide +kernel
  have kept : (Ledger.of (moments step (Session.plain 10) twoChildren)).kept =
      [⟨1, none, []⟩, ⟨3, some 1, [1]⟩] := by decide +kernel
  obtain ⟨-, info, trace, completed, walk⟩ := walk_of_completed_root rfl (Run.of_moments ok)
    (by decide +kernel) (by decide +kernel)
  rw [kept] at walk
  exact ⟨ok, info, trace, completed, walk⟩

end Recorder
end SpanCapture
