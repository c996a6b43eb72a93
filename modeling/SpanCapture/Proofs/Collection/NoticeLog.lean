import SpanCapture.Proofs.Collection.Notices
import SpanCapture.Proofs.Collection.Settings

/-! The notices of a listener as a log of the settings. As long as nobody who is told of a change
makes another, telling comes to an end, and a call makes one change at most. Whoever listens when it
is made is told of it once, whether those told before end well, fail, crash or let others go. The
notices of one who was there from the first value on are therefore all the changes, and storing
them one after another gives the values again. -/
namespace SpanCapture
namespace Switchboard

section
variable {board mid : Switchboard} {id : Nat} {errand : Errand} {errands : List Errand}

/-- Errands that come to an end leave those behind them to the board they end at. -/
theorem settle_append (settled : board.settle errands = some mid) (rest : List Errand) :
    board.settle (errands ++ rest) = mid.settle rest := by
  refine settle.partial_correctness (motive := fun board errands mid =>
    board.settle (errands ++ rest) = mid.settle rest) ?_ board errands mid settled
  intro settle ih board errands mid settled
  cases errands with
  | nil =>
      cases settled
      rfl
  | cons errand later =>
      rw [List.cons_append, settle_cons, ← List.append_assoc]
      exact ih _ _ _ settled

/-- Who watches leaves the settings, and asks for nothing that changes them. -/
theorem attend_watching (watching : errand.Watches) (board : Switchboard) :
    (board.attend errand).1.settings = board.settings ∧
      ∃ requests : List Request, (board.attend errand).2 = requests.map .serve ∧
        ∀ request ∈ requests, request.Watches := by
  have attended := attends board errand
  generalize board.attend errand = result at attended
  cases attended with
  | looked => exact ⟨rfl, [], rfl, nofun⟩
  | passed => exact ⟨rfl, [], rfl, nofun⟩
  | heard => exact ⟨rfl, _, rfl, watching _ _ _⟩
  | @enlisted number =>
      rcases enlist_cases number board with same | brought
      · rw [same]
        exact ⟨rfl, [], rfl, nofun⟩
      · rw [brought]
        exact ⟨rfl, [], rfl, nofun⟩
  | dismissed => exact ⟨rfl, [], rfl, nofun⟩
  | _ => exact watching.elim

theorem settle_requests {requests : List Request} (watching : ∀ request ∈ requests, request.Watches)
    (board : Switchboard) : ∃ last, board.settle (requests.map .serve) = some last := by
  induction requests generalizing board with
  | nil => exact ⟨board, settle_nil board⟩
  | cons request later ih =>
      obtain ⟨here, onward⟩ := List.forall_mem_cons.mp watching
      obtain ⟨last, settled⟩ := ih onward (board.attend (.serve request)).1
      have silent : (board.attend (.serve request)).2 = [] := by
        cases request with
        | write => exact here.elim
        | register => exact here.elim
        | enlist => rfl
        | unsubscribe => rfl
      refine ⟨last, ?_⟩
      rw [List.map_cons, settle_cons, silent]
      exact settled

/-- Telling those who only watch comes to an end. -/
theorem settle_watching (watching : ∀ errand ∈ errands, errand.Watches) (board : Switchboard) :
    ∃ last, board.settle errands = some last := by
  induction errands generalizing board with
  | nil => exact ⟨board, settle_nil board⟩
  | cons errand later ih =>
      obtain ⟨here, onward⟩ := List.forall_mem_cons.mp watching
      obtain ⟨-, requests, asked, only⟩ := attend_watching here board
      obtain ⟨mid, settled⟩ := settle_requests only (board.attend errand).1
      obtain ⟨last, done⟩ := ih onward mid
      refine ⟨last, ?_⟩
      rw [settle_cons, asked, settle_append settled]
      exact done

/-- When those who only watch have been told, the settings are as before, and everyone has been
told what was waiting. -/
theorem told_watching {last : Switchboard} (watching : ∀ errand ∈ errands, errand.Watches)
    (settled : board.settle errands = some last) :
    last.settings = board.settings ∧ ∀ id, last.heardBy id = board.word id errands := by
  have kept := settle_keeps (P := fun other waiting => (∀ errand ∈ waiting, errand.Watches) ∧
    other.settings = board.settings ∧ ∀ id, other.word id waiting = board.word id errands)
    (fun other errand rest h => ?_) ⟨watching, rfl, fun _ => rfl⟩ settled
  · simpa only [word_nil] using kept.2
  · obtain ⟨only, settings, words⟩ := h
    obtain ⟨here, onward⟩ := List.forall_mem_cons.mp only
    obtain ⟨same, requests, asked, more⟩ := attend_watching here other
    obtain ⟨-, wordSame⟩ := attend_unchanged (Errand.Watches.change? here other.settings) rest
    refine ⟨?_, same.trans settings, fun id => (wordSame id).trans (words id)⟩
    rw [asked]
    refine List.forall_mem_append.mpr ⟨?_, onward⟩
    intro errand member
    obtain ⟨request, asks, rfl⟩ := List.mem_map.mp member
    exact more request asks

structure Onlookers (board : Switchboard) : Prop where
  numbered : board.Numbered []
  watch : ∀ entry ∈ board.subscribers, entry.2.Watches

/-- The errands a request gives rise to among onlookers. -/
theorem Onlookers.attend_serve (h : board.Onlookers) (request : Request) :
    ∀ errand ∈ (board.attend (.serve request)).2, errand.Watches := by
  have attended := attends board (.serve request)
  generalize board.attend (.serve request) = result at attended
  cases attended with
  | written => exact asksOnly_announce h.watch _ _
  | introduced => exact asksOnly_announce h.watch _ _
  | _ => exact nofun

/-- Among onlookers a request does to the settings what it says, and its change is told once to
each who listens. -/
theorem Onlookers.serve (h : board.Onlookers) (request : Request) :
    (board.serve request).settings = (board.attend (.serve request)).1.settings ∧
      ∀ id, (board.serve request).heardBy id = board.heardBy id ++
        if board.listens id then (request.change? board.settings).toList else [] := by
  have watching := h.attend_serve request
  obtain ⟨last, settled⟩ := settle_watching watching (board.attend (.serve request)).1
  obtain ⟨settings, heard⟩ := told_watching watching settled
  have served : board.serve request = last := by
    rw [Switchboard.serve, serveAll_eq]
    change (board.settle [.serve request]).getD board = last
    rw [settle_cons, List.append_nil, settled]
    rfl
  rw [served]
  refine ⟨settings, fun id => ?_⟩
  rw [heard id, ← List.append_nil (board.attend (.serve request)).2]
  cases changed : (Errand.serve request).change? board.settings with
  | none =>
      have nothing : request.change? board.settings = none := changed
      rw [(attend_unchanged changed []).2, nothing, Option.toList_none, ite_self]
      rfl
  | some change =>
      have one : request.change? board.settings = some change := changed
      have waiting : board.Numbered [.serve request] :=
        ⟨h.numbered.ordered, h.numbered.given, h.numbered.unheard⟩
      rw [word_changed waiting changed, one]
      exact List.append_nil _

def settingsAfter (settings : Settings) : Call → Settings
  | .write name value => (settings.write name value).2
  | .register name value =>
    if (settings.get? name).isSome then settings else settings.introduce name value
  | _ => settings

theorem Onlookers.told (h : board.Onlookers) {call : Call} (onSettings : call.OnSettings) :
    (step board call).2.settings = settingsAfter board.settings call ∧
      ∀ id, (step board call).2.heardBy id = board.heardBy id ++
        if board.listens id then (call.change? board.settings).toList else [] := by
  rcases onSettings_cases onSettings with ⟨request, asks⟩ | ⟨listener, rfl⟩ | ⟨other, rfl⟩
  · obtain ⟨settings, heard⟩ := h.serve request
    rw [step_of_request asks, settings, Call.change?, asks]
    refine ⟨?_, heard⟩
    cases call with
    | write name value =>
        cases asks
        rfl
    | register name value =>
        cases asks
        simp only [attend, settingsAfter]
        split <;> rfl
    | _ => cases asks
  · refine ⟨rfl, fun id => ?_⟩
    change board.heardBy id = board.heardBy id ++ if board.listens id then [] else []
    rw [ite_self, List.append_nil]
  · refine ⟨rfl, fun id => ?_⟩
    change board.heardBy id = board.heardBy id ++ if board.listens id then [] else []
    rw [ite_self, List.append_nil]

theorem Onlookers.step (h : board.Onlookers) {call : Call} (onSettings : call.OnSettings)
    (newcomer : ∀ listener, call = .subscribe listener → listener.Watches) :
    (Switchboard.step board call).2.Onlookers :=
  ⟨h.numbered.step onSettings, asksOnly_step onSettings h.watch newcomer⟩

theorem values_settingsAfter (settings : Settings) (call : Call) :
    (settingsAfter settings call).values = (call.change? settings).toList.foldl
      (fun values change => values.insert change.1 change.2) settings.values := by
  cases call with
  | write name value =>
      change (settings.write name value).2.values =
        ((Request.write name value).change? settings).toList.foldl _ _
      rw [Request.change?]
      cases differs : settings.differs name value with
      | true =>
          rw [Settings.write_of_differs name value _ differs]
          rfl
      | false =>
          rw [Settings.write_of_same name value _ differs]
          rfl
  | register name value =>
      change (settingsAfter settings (.register name value)).values =
        ((Request.register name value).change? settings).toList.foldl _ _
      rw [Request.change?, settingsAfter]
      split <;> rfl
  | _ => rfl

theorem isExplicit_settingsAfter (settings : Settings) (call : Call) (name : String) :
    (settingsAfter settings call).isExplicit name = true ↔
      settings.isExplicit name = true ∨ ∃ value, call = .write name value := by
  cases call with
  | write other value =>
      have written : (settings.write other value).2.isExplicit name =
          (settings.mark other).isExplicit name :=
        congrArg (List.contains · name) (Settings.explicit_write other value settings)
      change (settings.write other value).2.isExplicit name = true ↔ _
      rw [written]
      by_cases same : name = other
      · subst same
        exact iff_of_true (Settings.isExplicit_mark name settings) (.inr ⟨value, rfl⟩)
      · rw [Settings.isExplicit_mark_of_ne same]
        refine ⟨.inl, fun either => either.resolve_right ?_⟩
        rintro ⟨_, here⟩
        cases here
        exact same rfl
  | register other value =>
      rw [settingsAfter]
      split
      · simp
      · simp [Settings.isExplicit]
  | _ => simp [settingsAfter]

/-! ### Who is subscribed -/

theorem listens_subscribe (id : Nat) (listener : Listener) (board : Switchboard) :
    (board.subscribe (.listener listener)).2.listens id = (board.listens id || board.nextId == id) := by
  change (board.subscribers ++ [(board.nextId, Subscriber.listener listener)]).any _ = _
  rw [List.any_append, List.any_cons, List.any_nil, Bool.or_false, Subscriber.isChain_listener,
    Bool.not_false, Bool.and_true]
  rfl

theorem listens_dismiss (id other : Nat) (board : Switchboard) :
    (board.dismiss other).listens id = (board.listens id && other != id) := by
  rw [Bool.eq_iff_iff, Bool.and_eq_true, listens_iff, listens_iff]
  constructor
  · rintro ⟨listener, member⟩
    obtain ⟨there, stays⟩ := List.mem_filter.mp member
    rw [Subscriber.isChain_listener, Bool.or_false, bne_comm] at stays
    exact ⟨⟨listener, there⟩, stays⟩
  · rintro ⟨⟨listener, there⟩, differs⟩
    refine ⟨listener, List.mem_filter.mpr ⟨there, ?_⟩⟩
    rw [Subscriber.isChain_listener, Bool.or_false, bne_comm]
    exact differs

/-- Nobody asks, or is about to ask, for a listener to go. -/
structure Unasked (id : Nat) (board : Switchboard) (errands : List Errand) : Prop where
  standing : ∀ entry ∈ board.subscribers, entry.2.AsksOnly (· ≠ .unsubscribe id)
  waiting : ∀ errand ∈ errands, errand.AsksOnly (· ≠ .unsubscribe id)

theorem Unasked.attend {rest : List Errand} (h : board.Unasked id (errand :: rest)) :
    (board.attend errand).1.Unasked id ((board.attend errand).2 ++ rest) := by
  obtain ⟨here, onward⟩ := List.forall_mem_cons.mp h.waiting
  have fewer := (subscribers_attend board errand).1
  refine ⟨fun entry member => h.standing entry (fewer.subset member),
    List.forall_mem_append.mpr ⟨?_, onward⟩⟩
  have attended := attends board errand
  generalize board.attend errand = result at attended
  cases attended with
  | heard =>
      intro errand member
      obtain ⟨request, asks, rfl⟩ := List.mem_map.mp member
      exact here _ _ _ request asks
  | written => exact asksOnly_announce h.standing _ _
  | introduced => exact asksOnly_announce h.standing _ _
  | _ => exact nofun

theorem Unasked.listens {rest : List Errand} (h : board.Unasked id (errand :: rest)) :
    (board.attend errand).1.listens id = board.listens id := by
  have here := h.waiting errand List.mem_cons_self
  have attended := attends board errand
  generalize board.attend errand = result at attended
  cases attended with
  | @enlisted number =>
      rcases enlist_cases number board with same | brought
      · rw [same]
      · rw [brought]
        rfl
  | @dismissed other =>
      have differs : other ≠ id := fun same => here (congrArg _ same)
      change (board.dismiss other).listens id = _
      rw [listens_dismiss, bne_iff_ne.mpr differs, Bool.and_true]
  | _ => rfl

/-- Where nobody asks for a listener to go, requests leave it subscribed or not. -/
theorem listens_serveAll {requests : List Request}
    (h : board.Unasked id (requests.map .serve)) :
    (board.serveAll requests).listens id = board.listens id := by
  have kept : (board.serveAll requests).Unasked id [] ∧
      (board.serveAll requests).listens id = board.listens id :=
    serveAll_keeps (P := fun other waiting => other.Unasked id waiting ∧
        other.listens id = board.listens id)
      (fun _ _ _ kept => ⟨kept.1.attend, kept.1.listens.trans kept.2⟩)
      ⟨h, rfl⟩ ⟨⟨h.standing, nofun⟩, rfl⟩
  exact kept.2

/-- A listener's membership, noted call by call. -/
def noteMember (id : Nat) (here : Bool) (m : Moment Switchboard Call Answer) : Bool :=
  match m.call, m.answer with
  | .subscribe _, .number other => here || other == id
  | .dismiss other, _ => here && other != id
  | _, _ => here

theorem listens_step {call : Call} (onSettings : call.OnSettings)
    (standing : ∀ entry ∈ board.subscribers, entry.2.AsksOnly (· ≠ .unsubscribe id)) :
    (step board call).2.listens id = noteMember id (board.listens id) (.at step board call) := by
  rcases onSettings_cases onSettings with ⟨request, asks⟩ | ⟨listener, rfl⟩ | ⟨other, rfl⟩
  · have unasked : board.Unasked id ([request].map .serve) := by
      refine ⟨standing, List.forall_mem_singleton.mpr ?_⟩
      rintro rfl
      cases call with
      | _ => cases asks
    rw [step_of_request asks, serve, listens_serveAll unasked]
    cases call with
    | write => rfl
    | register => rfl
    | _ => cases asks
  · exact listens_subscribe id listener board
  · exact listens_dismiss id other board

/-- A listener has joined, and has not been told to go since. -/
def isMember (id : Nat) (history : List (Moment Switchboard Call Answer)) : Bool :=
  history.foldl (noteMember id) false

/-! ### Runs -/

/-- A call on settings; whoever joins only watches. -/
def Watching (m : Moment Switchboard Call Answer) : Prop :=
  m.call.OnSettings ∧ ∀ listener, m.call = .subscribe listener → listener.Watches

def changeAt? (m : Moment Switchboard Call Answer) : Option (String × Value) :=
  m.call.change? m.before.settings

end

section
variable {history : List (Moment Switchboard Call Answer)} {last : Switchboard}

theorem onlookers_after (run : Run step Watching {} history last) : last.Onlookers :=
  run.invariant ⟨numbered_empty, nofun⟩ fun _ _ h watching => h.step watching.1 watching.2

/-- A listener's notices are the changes made while it listened, in their order. -/
theorem heardBy_eq_changes (run : Run step Watching {} history last) (id : Nat) :
    last.heardBy id = (history.filter (·.before.listens id)).filterMap changeAt? := by
  induction run with
  | start => rfl
  | @next history s call before watching ih =>
      have told := (onlookers_after before).told (show call.OnSettings from watching.1)
      rw [told.2 id, ih, List.filter_append, List.filterMap_append]
      refine congrArg (_ ++ ·) ?_
      cases listening : s.listens id with
      | true =>
          have kept : [Moment.at step s call].filter (·.before.listens id) = [.at step s call] :=
            List.filter_cons_of_pos listening
          rw [kept, if_pos rfl]
          cases changed : changeAt? (.at step s call) with
          | none =>
              rw [List.filterMap_cons_none changed]
              exact congrArg Option.toList changed
          | some change =>
              rw [List.filterMap_cons_some changed]
              exact congrArg Option.toList changed
      | false =>
          have passed : [Moment.at step s call].filter (·.before.listens id) = [] :=
            List.filter_cons_of_neg (by simp [Moment.at, listening])
          rw [passed, if_neg Bool.false_ne_true]
          rfl

/-- Whoever joined before there was any value rebuilds the values from its notices. -/
theorem values_eq_replay (run : Run step Watching {} history last) {id : Nat}
    {joined : Moment Switchboard Call Answer} (member : joined ∈ history)
    (answered : joined.answer = .number id) (empty : joined.before.settings.values = []) :
    id < last.nextId ∧
      (last.listens id = true → Keyed.ofList (last.heardBy id) = last.settings.values) := by
  induction run with
  | start => cases member
  | @next history s call before watching ih =>
      have onlookers := onlookers_after before
      have onSettings : call.OnSettings := watching.1
      rcases List.mem_append.mp member with earlier | now
      · obtain ⟨given, replays⟩ := ih earlier
        refine ⟨Nat.lt_of_lt_of_le given (nextId_le_step onSettings s), fun listening => ?_⟩
        have listened := listens_of_step onSettings given listening
        obtain ⟨settings, heard⟩ := onlookers.told onSettings
        rw [heard id, if_pos listened, settings, values_settingsAfter, ← replays listened]
        exact List.foldl_append
      · cases List.mem_singleton.mp now
        obtain ⟨rfl, listener, rfl⟩ := joins_of_number onSettings answered
        refine ⟨Nat.lt_succ_self _, fun _ => ?_⟩
        have unheard : s.heardBy s.nextId = [] :=
          (word_nil _ s).symm.trans (onlookers.numbered.unheard _ (Nat.le_refl _))
        change Keyed.ofList (s.heardBy s.nextId) = s.settings.values
        rw [unheard]
        exact empty.symm

/-- A name is explicit exactly if it was written. -/
theorem isExplicit_iff_written (run : Run step Watching {} history last) (name : String) :
    last.settings.isExplicit name = true ↔ ∃ m ∈ history, ∃ value, m.call = .write name value := by
  induction run with
  | start =>
      refine iff_of_false (by simp [Settings.isExplicit]) ?_
      rintro ⟨_, member, -⟩
      cases member
  | @next history s call before watching ih =>
      obtain ⟨settings, -⟩ := (onlookers_after before).told (show call.OnSettings from watching.1)
      rw [settings, isExplicit_settingsAfter, ih]
      simp only [List.mem_append, List.mem_singleton, or_and_right, exists_or, exists_eq_left]
      rfl

/-- A listener nobody asks to go, but by a call, listens from joining until it is told to go. -/
theorem listens_eq_isMember (run : Run step Watching {} history last) {id : Nat}
    (unasked : ∀ m ∈ history, ∀ listener, m.call = .subscribe listener →
      listener.AsksOnly (· ≠ .unsubscribe id)) : last.listens id = isMember id history := by
  have calm : Run step (fun m => m.call.OnSettings ∧ ∀ listener, m.call = .subscribe listener →
      listener.AsksOnly (· ≠ .unsubscribe id)) {} history last :=
    run.restrict fun m member ok => ⟨ok.1, unasked m member⟩
  have kept := calm.book_invariant
    (R := fun here board => (∀ entry ∈ board.subscribers, entry.2.AsksOnly (· ≠ .unsubscribe id)) ∧
      board.listens id = here) (noteMember id) false ⟨nofun, rfl⟩ ?_
  · exact kept.2
  · rintro here board call ⟨standing, rfl⟩ ⟨onSettings, newcomer⟩
    exact ⟨asksOnly_step onSettings standing newcomer, listens_step onSettings standing⟩

/-- Notices are a faithful log of the settings, whatever becomes of those who are told: each who
listens is told once of each change, in order; whoever joined before there was any value and listens
still has been told all values there are; a name is explicit just if it was written. -/
theorem notices_log_settings (run : Run step Watching {} history last) :
    (∀ id, last.heardBy id = (history.filter (·.before.listens id)).filterMap changeAt?) ∧
    (∀ joined ∈ history, ∀ id, joined.answer = .number id → joined.before.settings.values = [] →
      last.listens id = true → Keyed.ofList (last.heardBy id) = last.settings.values) ∧
    (∀ name, last.settings.isExplicit name = true ↔
      ∃ m ∈ history, ∃ value, m.call = .write name value) ∧
    ∀ id, (∀ m ∈ history, ∀ listener, m.call = .subscribe listener →
      listener.AsksOnly (· ≠ .unsubscribe id)) → last.listens id = isMember id history := by
  refine ⟨heardBy_eq_changes run, ?_, isExplicit_iff_written run, fun id => listens_eq_isMember run⟩
  intro joined member id answered empty listening
  exact (values_eq_replay run member answered empty).2 listening

def failing : Listener where
  label := "broken"
  react := fun _ _ _ => []
  ending := fun _ _ _ => .done (.error (.listener "broken" "always fails"))

def crashing (other : Nat) : Listener where
  label := "bug"
  react := fun _ _ _ => [.unsubscribe other]
  ending := fun _ _ _ => .crashed "listener bug"

/-- One fails, one crashes after letting the first go, one records, one comes late and goes. -/
def loggedDay : List Call :=
  [.subscribe failing, .subscribe (crashing 0), .subscribe recording,
    .register "p" (.bool true), .write "k" (.int 1), .write "k" (.int 1), .register "k" (.int 5),
    .subscribe recording, .write "k" (.int 2), .dismiss 3, .write "p" (.bool true)]

theorem log_of_failing_day :
    let history := moments step {} loggedDay
    let last := after step {} loggedDay
    (∀ m ∈ history, Watching m) ∧
      history.filterMap changeAt? = [("p", .bool true), ("k", .int 1), ("k", .int 2)] ∧
      last.heardBy 2 = (history.filter (·.before.listens 2)).filterMap changeAt? ∧
      Keyed.ofList (last.heardBy 2) = last.settings.values ∧
      last.heardBy 0 = [("p", .bool true)] ∧ last.heardBy 3 = [("k", .int 2)] ∧
      last.settings.isExplicit "p" = true ∧ last.listens 2 = true := by
  intro history last
  have newcomers : ∀ call ∈ loggedDay, call.OnSettings ∧
      ∀ listener, call = .subscribe listener → listener.Watches := by
    simp [loggedDay, Call.OnSettings, Listener.AsksOnly, failing, crashing, recording,
      Request.Watches]
  have watching : ∀ m ∈ history, Watching m :=
    fun m member => newcomers m.call (call_mem_of_mem_moments member)
  obtain ⟨changes, replays, written, members⟩ := notices_log_settings (Run.of_moments watching)
  have unasked : ∀ m ∈ history, ∀ listener, m.call = .subscribe listener →
      listener.AsksOnly (· ≠ .unsubscribe 2) := by
    have kind : ∀ call ∈ loggedDay, ∀ listener, call = .subscribe listener →
        listener.AsksOnly (· ≠ .unsubscribe 2) := by
      simp [loggedDay, Listener.AsksOnly, failing, crashing, recording]
    exact fun m member => kind m.call (call_mem_of_mem_moments member)
  have listening : last.listens 2 = true := members 2 unasked
  have joined : history[2] ∈ history := List.getElem_mem (by decide)
  have wrote : history[10] ∈ history := List.getElem_mem (by decide)
  exact ⟨watching, rfl, changes 2, replays _ joined 2 rfl rfl listening, changes 0, changes 3,
    (written "p").mpr ⟨_, wrote, _, rfl⟩, listening⟩

end

end Switchboard
end SpanCapture
