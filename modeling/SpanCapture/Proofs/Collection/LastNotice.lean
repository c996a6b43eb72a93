import SpanCapture.Proofs.Collection.Notices
import SpanCapture.Proofs.Collection.Settings

/-! What a listener was told last of a name. A change made while something about its name is still
to be told to a listener overtakes it: the listener is told of the change first, of the older value
last. Where no change overtakes, whatever listeners write in turn, the last a listener was told is
what is stored. That holds for each listener before which only such are told as leave the settings
alone; for others it takes no more than one nested write to break it. -/
namespace SpanCapture

/-- The last value that notices give a name. -/
def lastOf (name : String) (notices : List (String × Value)) : Option Value :=
  Keyed.find? name notices.reverse

section
variable {name other : String} {value : Value} {notices : List (String × Value)}

theorem lastOf_append (name : String) (notices more : List (String × Value)) :
    lastOf name (notices ++ more) = (lastOf name more).or (lastOf name notices) := by
  unfold lastOf
  rw [List.reverse_append]
  induction more.reverse with
  | nil => rfl
  | cons notice rest ih =>
      rw [List.cons_append, Keyed.find?, Keyed.find?, ih]
      split <;> rfl

theorem lastOf_self (name : String) (value : Value) : lastOf name [(name, value)] = some value :=
  if_pos rfl

theorem lastOf_of_ne (differs : other ≠ name) (value : Value) : lastOf name [(other, value)] = none :=
  if_neg differs

theorem mem_of_lastOf (found : lastOf name notices = some value) : (name, value) ∈ notices :=
  List.mem_reverse.mp (Keyed.mem_of_find? found)

end

namespace Switchboard

/-- The last value of a name that a listener was told. -/
def lastHeard (id : Nat) (name : String) (board : Switchboard) : Option Value :=
  lastOf name (board.heardBy id)

/-- An errand changes a name of which a listener is still to be told something. -/
def Overtakes (id : Nat) (name : String) (board : Switchboard) (errand : Errand)
    (rest : List Errand) : Prop :=
  (∃ value, errand.change? board.settings = some (name, value)) ∧
    ∃ earlier, (name, earlier) ∈ awaited id rest

/-- Errands come to an end, each allowed when its turn comes. -/
inductive Settles (allowed : Switchboard → Errand → List Errand → Prop) :
    Switchboard → List Errand → Switchboard → Prop
  | done (board : Switchboard) : Settles allowed board [] board
  | next {board last : Switchboard} {errand : Errand} {rest : List Errand}
      (ok : allowed board errand rest)
      (onward : Settles allowed (board.attend errand).1 ((board.attend errand).2 ++ rest) last) :
      Settles allowed board (errand :: rest) last

section
variable {board last : Switchboard} {id : Nat} {name : String} {base : Option Value}
  {errand : Errand} {errands rest : List Errand}
  {allowed : Switchboard → Errand → List Errand → Prop} {P : Switchboard → List Errand → Prop}

theorem Settles.keeps (keeps : ∀ board errand rest, allowed board errand rest →
      P board (errand :: rest) → P (board.attend errand).1 ((board.attend errand).2 ++ rest))
    (start : P board errands) (settles : Settles allowed board errands last) : P last [] := by
  induction settles with
  | done => exact start
  | next ok _ ih => exact ih (keeps _ _ _ ok start)

/-- Errands that come to an end do so in an allowed way if what every errand keeps allows it. -/
theorem Settles.of_settle (keeps : ∀ board errand rest, P board (errand :: rest) →
      P (board.attend errand).1 ((board.attend errand).2 ++ rest))
    (allows : ∀ board errand rest, P board (errand :: rest) → allowed board errand rest)
    (start : P board errands) (settled : board.settle errands = some last) :
    Settles allowed board errands last := by
  refine settle.partial_correctness (motive := fun board errands last =>
    P board errands → Settles allowed board errands last) ?_ board errands last settled start
  intro settle ih board errands last settled start
  cases errands with
  | nil =>
      cases settled
      exact .done board
  | cons errand rest =>
      exact .next (allows board errand rest start) (ih _ _ _ settled (keeps board errand rest start))

/-- When all that waits has been told, the last a listener knows of a name is what is stored; where
it was told nothing, what it found when it came. -/
def Informed (id : Nat) (name : String) (base : Option Value) (board : Switchboard)
    (errands : List Errand) : Prop :=
  board.listens id = true →
    (lastOf name (board.word id errands)).or base = board.settings.get? name

theorem word_of_changed {value : Value}
    (changed : errand.change? board.settings = some (name, value)) (id : Nat) (rest : List Errand) :
    board.word id (errand :: rest) = board.heardBy id ++ awaited id rest := by
  obtain ⟨-, -, -, -, tells⟩ := attend_changed changed
  unfold word awaited
  rw [List.filterMap_cons_none (tells id)]

theorem Informed.attend (h : Informed id name base board (errand :: rest))
    (numbered : board.Numbered (errand :: rest)) (inTurn : ¬Overtakes id name board errand rest) :
    Informed id name base (board.attend errand).1 ((board.attend errand).2 ++ rest) := by
  intro listening
  have listened : board.listens id = true := by
    obtain ⟨listener, member⟩ := listens_iff.mp listening
    exact listens_iff.mpr ⟨listener, (subscribers_attend board errand).1.subset member⟩
  cases changed : errand.change? board.settings with
  | none =>
      obtain ⟨values, words⟩ := attend_unchanged changed rest
      rw [words, Settings.get?, values]
      exact h listened
  | some change =>
      obtain ⟨other, value⟩ := change
      obtain ⟨values, -, -, -, -⟩ := attend_changed changed
      rw [word_changed numbered changed, if_pos listened, Settings.get?, values]
      by_cases here : other = name
      · subst here
        have nothing : lastOf other (awaited id rest) = none := by
          cases waiting : lastOf other (awaited id rest) with
          | none => rfl
          | some earlier => exact absurd ⟨⟨value, changed⟩, earlier, mem_of_lastOf waiting⟩ inTurn
        rw [lastOf_append, lastOf_append, nothing, lastOf_self, Keyed.find?_insert_self]
        rfl
      · have before := h listened
        rw [word_of_changed changed, lastOf_append] at before
        rw [lastOf_append, lastOf_append, lastOf_of_ne here, Option.none_or,
          Keyed.find?_insert_of_ne value (Ne.symm here)]
        exact before

/-- A call on settings that comes to an end without a change that overtakes. -/
def InTurn (id : Nat) (name : String) (m : Moment Switchboard Call Answer) : Prop :=
  m.call.OnSettings ∧ ∀ request, m.call.request? = some request →
    Settles (fun board errand rest => ¬Overtakes id name board errand rest) m.before
      [.serve request] m.after

theorem Informed.step (h : Informed id name base board []) (numbered : board.Numbered [])
    (given : id < board.nextId) {call : Call} (inTurn : InTurn id name (.at step board call)) :
    Informed id name base (step board call).2 [] := by
  obtain ⟨onSettings, settles⟩ := inTurn
  rcases onSettings_cases onSettings with ⟨request, asks⟩ | ⟨listener, rfl⟩ | ⟨other, rfl⟩
  · refine ((settles request asks).keeps (P := fun board errands =>
      board.Numbered errands ∧ Informed id name base board errands)
      (fun _ _ _ ok kept => ⟨kept.1.attend, kept.2.attend kept.1 ok⟩) ⟨?_, ?_⟩).2
    · exact ⟨numbered.ordered, numbered.given, numbered.unheard⟩
    · exact h
  · intro listening
    exact h (listens_of_step onSettings given listening)
  · intro listening
    exact h (listens_of_step onSettings given listening)

end

section
variable {history : List (Moment Switchboard Call Answer)} {last : Switchboard} {id : Nat}
  {name : String}

theorem numbered_after {allowed : Moment Switchboard Call Answer → Prop}
    (run : Run step allowed {} history last)
    (onSettings : ∀ m, allowed m → m.call.OnSettings) : last.Numbered [] :=
  run.invariant (P := fun board => board.Numbered []) numbered_empty
    fun _ _ h ok => h.step (onSettings _ ok)

/-- Where no change overtakes, a listener stays informed from when it joined. -/
theorem informed_after (run : Run step (InTurn id name) {} history last)
    {joined : Moment Switchboard Call Answer} (member : joined ∈ history)
    (answered : joined.answer = .number id) :
    id < last.nextId ∧ Informed id name (joined.before.settings.get? name) last [] := by
  induction run with
  | start => cases member
  | @next history s call before inTurn ih =>
      have numbered := numbered_after before fun _ ok => ok.1
      rcases List.mem_append.mp member with earlier | now
      · obtain ⟨given, informed⟩ := ih earlier
        exact ⟨Nat.lt_of_lt_of_le given (nextId_le_step inTurn.1 s),
          informed.step numbered given inTurn⟩
      · cases List.mem_singleton.mp now
        obtain ⟨rfl, listener, rfl⟩ := joins_of_number inTurn.1 answered
        refine ⟨Nat.lt_succ_self _, fun _ => ?_⟩
        have unheard : s.word s.nextId [] = [] := numbered.unheard _ (Nat.le_refl _)
        change (lastOf name (s.word s.nextId [])).or _ = _
        rw [unheard]
        rfl

/-! ### The foremost listener -/

def Returns (m : Moment Switchboard Call Answer) : Prop :=
  m.call.OnSettings ∧ ∀ request, m.call.request? = some request →
    (m.before.settle [.serve request]).isSome = true

/-- All who came before a listener leave the settings alone, and so does all that is done before
the listener is told something. -/
structure Foremost (id : Nat) (board : Switchboard) (errands : List Errand) : Prop where
  numbered : board.Numbered errands
  ahead : ∀ entry ∈ board.subscribers, entry.1 < id → entry.2.Watches
  waiting : errands.Pairwise fun errand later => (later.notice? id).isSome = true → errand.Watches

section
variable {board : Switchboard} {errand : Errand} {rest : List Errand}

theorem not_told_serve (id : Nat) (requests : List Request) :
    ∀ errand ∈ requests.map Errand.serve, ¬(errand.notice? id).isSome = true := by
  intro errand member told
  obtain ⟨request, -, rfl⟩ := List.mem_map.mp member
  cases told

/-- A change is told to those ahead of a listener before it is told to it. -/
theorem Foremost.announce (h : board.Foremost id (errand :: rest)) (name : String) (value : Value) :
    (board.announce name value).Pairwise
      fun errand later => (later.notice? id).isSome = true → errand.Watches := by
  refine List.pairwise_map.mpr (h.numbered.ordered.imp_of_mem ?_)
  rintro ⟨first, subscriber⟩ ⟨second, other⟩ there - before told
  cases other with
  | chain => cases told
  | listener listener =>
      by_cases here : second = id
      · subst here
        exact h.ahead _ there before
      · simp [Errand.notice?, here] at told

theorem Foremost.attend (h : board.Foremost id (errand :: rest)) :
    (board.attend errand).1.Foremost id ((board.attend errand).2 ++ rest) := by
  obtain ⟨here, onward⟩ := List.pairwise_cons.mp h.waiting
  have fewer := (subscribers_attend board errand).1
  refine ⟨h.numbered.attend, fun entry member => h.ahead entry (fewer.subset member),
    List.pairwise_append.mpr ?_⟩
  have attended := attends board errand
  generalize board.attend errand = result at attended
  cases attended with
  | heard =>
      refine ⟨List.pairwise_of_forall_mem_list fun _ _ later member told =>
        absurd told (not_told_serve id _ later member), onward, ?_⟩
      intro errand member later waiting told
      obtain ⟨request, asks, rfl⟩ := List.mem_map.mp member
      exact here later waiting told _ _ _ request asks
  | written =>
      exact ⟨h.announce _ _, onward, fun _ _ later waiting told => (here later waiting told).elim⟩
  | introduced =>
      exact ⟨h.announce _ _, onward, fun _ _ later waiting told => (here later waiting told).elim⟩
  | _ => exact ⟨.nil, onward, nofun⟩

/-- Whoever is told before everyone who writes is overtaken by no change. -/
theorem Foremost.not_overtaken (h : board.Foremost id (errand :: rest)) (name : String) :
    ¬Overtakes id name board errand rest := by
  rintro ⟨⟨value, changed⟩, earlier, waiting⟩
  obtain ⟨later, member, told⟩ := List.mem_filterMap.mp waiting
  have watching := (List.pairwise_cons.mp h.waiting).1 later member (by rw [told]; rfl)
  rw [Errand.Watches.change? watching] at changed
  cases changed

theorem inTurn_of_watching {call : Call} (numbered : board.Numbered [])
    (watch : ∀ entry ∈ board.subscribers, entry.1 < id → entry.2.Watches)
    (returns : Returns (.at step board call)) (name : String) :
    InTurn id name (.at step board call) := by
  refine ⟨returns.1, fun request asks => ?_⟩
  have asks : call.request? = some request := asks
  obtain ⟨last, settled⟩ := Option.isSome_iff_exists.mp (returns.2 request asks)
  have after : (step board call).2 = last := by
    rw [step_of_request asks, serve, serveAll_eq]
    exact congrArg (Option.getD · board) settled
  have front : board.Foremost id [.serve request] :=
    ⟨⟨numbered.ordered, numbered.given, numbered.unheard⟩, watch, List.pairwise_singleton _ _⟩
  change Settles _ board [.serve request] (step board call).2
  rw [after]
  exact .of_settle (fun _ _ _ h => h.attend) (fun _ _ _ h => h.not_overtaken name) front settled

/-- Whoever joins ahead of a listener leaves the settings alone. -/
def WatchesAhead (id : Nat) (m : Moment Switchboard Call Answer) : Prop :=
  ∀ listener number, m.call = .subscribe listener → m.answer = .number number → number < id →
    listener.Watches

theorem watching_step {call : Call} (onSettings : call.OnSettings)
    (watch : ∀ entry ∈ board.subscribers, entry.1 < id → entry.2.Watches)
    (newcomer : WatchesAhead id (.at step board call)) :
    ∀ entry ∈ (step board call).2.subscribers, entry.1 < id → entry.2.Watches := by
  intro entry member before
  rcases onSettings_cases onSettings with ⟨request, asks⟩ | ⟨listener, rfl⟩ | ⟨other, rfl⟩
  · rw [step_of_request asks] at member
    exact watch entry ((subscribers_serveAll _ board).1.subset member) before
  · rcases List.mem_append.mp member with old | new
    · exact watch entry old before
    · cases List.mem_singleton.mp new
      exact newcomer listener _ rfl rfl before
  · exact watch entry (List.mem_filter.mp member).1 before

end

/-- A listener that comes before all who write is told everything in turn. -/
theorem inTurn_of_ahead (run : Run step Returns {} history last)
    (ahead : ∀ m ∈ history, WatchesAhead id m) (name : String) :
    Run step (InTurn id name) {} history last := by
  have both : Run step (InTurn id name) {} history last ∧ last.Numbered [] ∧
      ∀ entry ∈ last.subscribers, entry.1 < id → entry.2.Watches := by
    induction run with
    | start => exact ⟨.start, numbered_empty, nofun⟩
    | @next history s call before returns ih =>
        obtain ⟨earlier, now⟩ := List.forall_mem_append.mp ahead
        obtain ⟨inTurn, numbered, watch⟩ := ih earlier
        exact ⟨.next call inTurn (inTurn_of_watching numbered watch returns name),
          numbered.step returns.1,
          watching_step returns.1 watch (now _ List.mem_cons_self)⟩
  exact both.1

/-- A listener that came before all who write was told the truth last, whatever they wrote. -/
theorem truth_last_for_foremost (run : Run step Returns {} history last)
    (ahead : ∀ m ∈ history, WatchesAhead id m) {joined : Moment Switchboard Call Answer}
    (member : joined ∈ history) (answered : joined.answer = .number id)
    (listening : last.listens id = true) (name : String) :
    (last.lastHeard id name).or (joined.before.settings.get? name) = last.settings.get? name := by
  have informed := (informed_after (inTurn_of_ahead run ahead name) member answered).2 listening
  rwa [word_nil] at informed

/-- Where no change overtakes, the last value of a name a listener was told is the one stored; where
it was told none, what was stored when it joined still is. -/
theorem last_notice_is_stored (run : Run step (InTurn id name) {} history last)
    {joined : Moment Switchboard Call Answer} (member : joined ∈ history)
    (answered : joined.answer = .number id) (listening : last.listens id = true) :
    (last.lastHeard id name).or (joined.before.settings.get? name) = last.settings.get? name := by
  have informed := (informed_after run member answered).2 listening
  rwa [word_nil] at informed

def insisting (name : String) (value : Value) : Listener where
  label := "write"
  react := fun _ changed _ => if changed == name then [.write name value] else []

/-- One records, and behind it one insists on its own value. -/
def insistingBehind : List Call :=
  [.subscribe recording, .subscribe (insisting "x" (.int 2)), .register "y" (.int 0),
    .write "x" (.int 1)]

theorem recorder_told_insisted_last :
    let last := after step {} insistingBehind
    last.heardBy 0 = [("y", .int 0), ("x", .int 1), ("x", .int 2)] ∧
      last.listens 0 = true ∧ (last.lastHeard 0 "x").or none = last.settings.get? "x" ∧
      last.settings.get? "x" = some (.int 2) := by
  intro last
  let history := moments step {} insistingBehind
  have returns : ∀ m ∈ history, Returns m := by
    refine List.forall_mem_cons.mpr ⟨⟨trivial, nofun⟩, List.forall_mem_cons.mpr ⟨⟨trivial, nofun⟩,
      List.forall_mem_cons.mpr ⟨⟨trivial, ?_⟩, List.forall_mem_singleton.mpr ⟨trivial, ?_⟩⟩⟩⟩
    · rintro request ⟨⟩
      rw [← settleSoon_eq 100]
      rfl
    · rintro request ⟨⟩
      rw [← settleSoon_eq 100]
      rfl
  have ahead : ∀ m ∈ history, WatchesAhead 0 m := fun _ _ _ number _ _ before => by omega
  have inTurn := inTurn_of_ahead (.of_moments returns) ahead "x"
  have joined : history[0] ∈ history := List.getElem_mem (by decide)
  exact ⟨rfl, rfl, last_notice_is_stored inTurn joined rfl rfl, rfl⟩

/-- One insists on its own value, and behind it one records. -/
def insistingAhead : List Call :=
  [.subscribe (insisting "x" (.int 2)), .subscribe recording, .write "x" (.int 1)]

/-- The recorder is told of the nested write first, and of the value it replaced last. -/
theorem recorder_told_replaced_last :
    let history := moments step {} insistingAhead
    let last := after step {} insistingAhead
    (∀ m ∈ history, Returns m) ∧ last.listens 1 = true ∧
      last.heardBy 1 = [("x", .int 2), ("x", .int 1)] ∧
      last.lastHeard 1 "x" = some (.int 1) ∧ last.settings.get? "x" = some (.int 2) := by
  intro history last
  refine ⟨?_, rfl, rfl, rfl, rfl⟩
  refine List.forall_mem_cons.mpr ⟨⟨trivial, nofun⟩, List.forall_mem_cons.mpr ⟨⟨trivial, nofun⟩,
    List.forall_mem_singleton.mpr ⟨trivial, ?_⟩⟩⟩
  rintro request ⟨⟩
  rw [← settleSoon_eq 100]
  rfl

end

end Switchboard
end SpanCapture
