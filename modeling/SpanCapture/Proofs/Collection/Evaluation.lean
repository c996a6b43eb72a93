import SpanCapture.Proofs.Collection.Members

/-! How a chain goes about a probe. Each of its strategies is asked to see it, in the order they
run; then the active ones are asked to judge it, up to the first that rejects it. A strategy that
crashes over a probe has not rejected it, and nobody else comes to know. -/
namespace SpanCapture

namespace Strategy

/-- Rejects a probe. To crash over it is not to reject it. -/
def rejects (settings : Settings) (probe : Probe) (s : Strategy) : Bool :=
  match s.collect settings probe with
  | .done collected => !collected
  | .crashed _ => false

/-- Goes by the probe alone when it judges, and asks for nothing. -/
structure Pure (s : Strategy) : Prop where
  blind : ∀ a b probe, s.collect a probe = s.collect b probe
  silent : ∀ c, s = .custom c → ∀ journal probe, c.onJudging journal probe = []

def unranked : Strategy → Strategy
  | custom s => custom { s with priority := 0 }
  | s => s

def label? : Strategy → Option String
  | custom s => some s.name.dotted
  | _ => none

theorem rejects_iff {settings : Settings} {probe : Probe} {s : Strategy} :
    s.rejects settings probe = true ↔ s.collect settings probe = .done false := by
  unfold rejects
  cases s.collect settings probe with
  | done collected => cases collected <;> simp
  | crashed message => simp

theorem rejects_unranked (settings : Settings) (probe : Probe) (s : Strategy) :
    s.unranked.rejects settings probe = s.rejects settings probe := by
  cases s <;> rfl

theorem Pure.rejects {s : Strategy} (h : s.Pure) (a b : Settings) (probe : Probe) :
    s.rejects a probe = s.rejects b probe := by
  rw [Strategy.rejects, Strategy.rejects, h.blind a b]

theorem Becomes.rejects {s s' : Strategy} (h : s.Becomes s') (settings : Settings) (probe : Probe) :
    s'.rejects settings probe = s.rejects settings probe := by
  rw [Strategy.rejects, Strategy.rejects, h.collect]

theorem Becomes.label? {s s' : Strategy} (h : s.Becomes s') : s'.label? = s.label? := by
  cases h <;> rfl

theorem Becomes.pure {s s' : Strategy} (h : s.Becomes s') (pure : s.Pure) : s'.Pure := by
  refine ⟨fun a b probe => ?_, ?_⟩
  · rw [h.collect, h.collect]
    exact pure.blind a b probe
  · rintro c rfl
    cases h with
    | same => exact pure.silent c rfl

end Strategy

def BoardEvent.isAsked : BoardEvent → Bool
  | told .. => false
  | observed _ | judged _ => true

namespace Switchboard

inductive Ask where
  | observe (number : Nat)
  | judge (number : Nat)

/-- Asks a strategy. One that has seen a probe has nothing against it yet. -/
def ask (probe : Probe) (board : Switchboard) : Ask → Outcome Bool × Switchboard
  | .observe number =>
    let (seen, board) := board.observe number probe
    (seen.map fun _ => true, board)
  | .judge number => board.judge number probe

/-- What was asked of the strategies supplied from outside, oldest first. -/
def asked (board : Switchboard) : List BoardEvent := board.journal.filter BoardEvent.isAsked

/-- What is written down of a question; the strategies at hand write nothing. -/
def heard? (board : Switchboard) : Ask → Option BoardEvent
  | .observe number => (board.strategies[number]?.bind Strategy.label?).map .observed
  | .judge number => (board.strategies[number]?.bind Strategy.label?).map .judged

def rejects (board : Switchboard) (probe : Probe) (number : Nat) : Bool :=
  (board.strategies[number]?.map (·.rejects board.settings probe)).getD false

/-- What is asked about a probe: all strategies of the chain are to see it, in the order they run;
then those active are to judge it, up to the first that rejects it. -/
def questions (board : Switchboard) (probe : Probe) : List Ask :=
  (board.enlisted.mergeSort board.runsBefore).map .observe ++
    (board.active.take (board.active.findIdx (board.rejects probe) + 1)).map .judge

/-- Nobody comes into the chain, becomes active or ceases to be as its strategies see a probe. -/
structure Unmoved (board : Switchboard) (probe : Probe) : Prop where
  enlisted : (board.observeAll probe board.registered).enlisted = board.enlisted
  active : (board.observeAll probe board.registered).active = board.active

/-- Those active judge by the probe alone. -/
def Pure (board : Switchboard) : Prop := ∀ s ∈ board.named board.active, s.Pure

/-- The chain is as it was: the same strategies, and the same of them active. -/
structure Resumes (board board' : Switchboard) : Prop where
  continues : board.Continues board'
  enlisted : board'.enlisted = board.enlisted
  active : board'.active = board.active

section
variable {board board' : Switchboard} {probe : Probe}

theorem asked_note (event : BoardEvent) (board : Switchboard) :
    (board.note event).asked = board.asked ++ [event].filter BoardEvent.isAsked :=
  List.filter_append board.journal [event]

theorem asked_attend (board : Switchboard) (errand : Errand) :
    (board.attend errand).1.asked = board.asked := by
  have attended := attends board errand
  generalize board.attend errand = result at attended
  cases attended with
  | heard => exact (asked_note _ board).trans (List.append_nil _)
  | enlisted =>
      unfold enlist
      split <;> rfl
  | _ => rfl

theorem asked_serveAll (requests : List Request) (board : Switchboard) :
    (board.serveAll requests).asked = board.asked :=
  serveAll_keeps (P := fun now _ => now.asked = board.asked)
    (fun now errand _ same => (asked_attend now errand).trans same) rfl rfl

theorem asked_register (name : String) (value : Value) (board : Switchboard) :
    (board.register name value).2.asked = board.asked := by
  unfold register
  split
  · rfl
  · exact asked_serveAll _ board

/-- A question is written down once, and nothing is written down of others. -/
theorem asked_ask (probe : Probe) (board : Switchboard) (question : Ask) :
    (ask probe board question).2.asked = board.asked ++ (board.heard? question).toList := by
  cases question with
  | observe number =>
      change (board.observe number probe).2.asked = _
      cases known : board.strategies[number]? with
      | none => simp [observe, heard?, known]
      | some s =>
          cases s with
          | custom s =>
              simp only [observe, heard?, known]
              exact (asked_serveAll _ _).trans (asked_note _ board)
          | _ =>
              simp only [observe, heard?, known, Option.bind_some, Strategy.label?, Option.map_none,
                Option.toList_none, List.append_nil]
              split
              · rfl
              · exact asked_register _ _ _
  | judge number =>
      change (board.judge number probe).2.asked = _
      cases known : board.strategies[number]? with
      | none => simp [judge, heard?, known]
      | some s =>
          cases s with
          | custom s =>
              simp only [judge, heard?, known]
              exact (asked_serveAll _ _).trans (asked_note _ board)
          | _ =>
              simp only [judge, heard?, known, Option.bind_some, Strategy.label?, Option.map_none,
                Option.toList_none, List.append_nil]

theorem continues_ask (probe : Probe) (board : Switchboard) (question : Ask) :
    board.Continues (ask probe board question).2 := by
  cases question with
  | observe number => exact (events_observe number probe board).continues
  | judge number => exact (events_judge number probe board).continues

theorem Continues.heard? (h : board.Continues board') : board'.heard? = board.heard? := by
  funext question
  have label (number : Nat) : board'.strategies[number]?.bind Strategy.label? =
      board.strategies[number]?.bind Strategy.label? := by
    have same := congrArg (Option.bind · id) (h.map Strategy.label? (fun b => b.label?) number)
    rwa [Option.bind_map, Option.bind_map] at same
  cases question with
  | observe number => exact congrArg (Option.map BoardEvent.observed) (label number)
  | judge number => exact congrArg (Option.map BoardEvent.judged) (label number)

theorem asked_after (probe : Probe) (questions : List Ask) (board : Switchboard) :
    (after (ask probe) board questions).asked = board.asked ++ questions.filterMap board.heard? := by
  induction questions generalizing board with
  | nil => exact (List.append_nil _).symm
  | cons question rest ih =>
      rw [after, ih, (continues_ask probe board question).heard?, asked_ask, List.append_assoc]
      cases heard : board.heard? question with
      | none => rw [List.filterMap_cons_none heard, Option.toList_none, List.nil_append]
      | some => rw [List.filterMap_cons_some heard, Option.toList_some, List.singleton_append]

/-- To show a probe around is to ask one strategy after another to see it. -/
theorem observeAll_eq (probe : Probe) (numbers : List Nat) (board : Switchboard) :
    board.observeAll probe numbers = after (ask probe) board (numbers.map .observe) := by
  induction numbers generalizing board with
  | nil => rfl
  | cons number rest ih => exact ih _

/-- To be asked for a judgement leaves at most a note behind. -/
theorem judge_pure (probe : Probe) {number : Nat} (pure : ∀ s, board.strategies[number]? = some s → s.Pure) :
    ∃ journal, (board.judge number probe).2 = { board with journal } := by
  unfold judge
  split
  · exact ⟨board.journal, rfl⟩
  · rename_i s known
    refine ⟨board.journal ++ [.judged s.name.dotted], ?_⟩
    dsimp only
    rw [(pure _ known).silent s rfl, serveAll_eq, List.map_nil, settle_nil, Option.getD_some, note]
  · exact ⟨board.journal, rfl⟩

theorem pure_cons {number : Nat} {rest : List Nat}
    (pure : ∀ s ∈ board.named (number :: rest), s.Pure) :
    (∀ s, board.strategies[number]? = some s → s.Pure) ∧ ∀ s ∈ board.named rest, s.Pure := by
  refine ⟨fun s known => ?_, fun s member => ?_⟩
  · exact pure s (List.mem_filterMap.mpr ⟨number, List.mem_cons_self, known⟩)
  · obtain ⟨other, listed, known⟩ := List.mem_filterMap.mp member
    exact pure s (List.mem_filterMap.mpr ⟨other, List.mem_cons_of_mem _ listed, known⟩)

theorem judge_rejects (number : Nat) :
    (board.judge number probe).1 = .done false ↔ board.rejects probe number = true := by
  unfold judge rejects
  split
  · rename_i unknown
    simp [unknown]
  · rename_i s known
    rw [known]
    exact (Strategy.rejects_iff (s := .custom s)).symm
  · rename_i s _ known
    rw [known]
    exact Strategy.rejects_iff.symm

/-- Those asked for a judgement are the first in the list, up to one that rejects the probe. -/
theorem judgeAll_eq (probe : Probe) {numbers : List Nat} (pure : ∀ s ∈ board.named numbers, s.Pure)
    {no : Nat → Bool} (judgements : ∀ number ∈ numbers, board.rejects probe number = no number) :
    board.judgeAll probe numbers = (!numbers.any no,
      after (ask probe) board ((numbers.take (numbers.findIdx no + 1)).map .judge)) := by
  induction numbers generalizing board with
  | nil => rfl
  | cons number rest ih =>
      obtain ⟨own, others⟩ := List.forall_mem_cons.mp judgements
      rw [List.findIdx_cons, List.take_succ_cons, List.map_cons, List.any_cons, after]
      cases rejected : no number with
      | true =>
          rw [judgeAll_rejected ((judge_rejects number).mpr (own.trans rejected))]
          rfl
      | false =>
          have passed := mt (judge_rejects number).mp (Bool.eq_false_iff.mp (own.trans rejected))
          rw [judgeAll_passed passed, cond_false, Bool.false_or]
          change (board.judge number probe).2.judgeAll probe rest =
            (_, after (ask probe) (board.judge number probe).2 _)
          obtain ⟨here, later⟩ := pure_cons pure
          obtain ⟨journal, noted⟩ := judge_pure probe here
          rw [noted]
          exact ih (show ∀ s ∈ named { board with journal } rest, s.Pure from later) others

theorem after_judges (probe : Probe) {numbers : List Nat} (pure : ∀ s ∈ board.named numbers, s.Pure) :
    ∃ journal, after (ask probe) board (numbers.map .judge) = { board with journal } := by
  induction numbers generalizing board with
  | nil => exact ⟨board.journal, rfl⟩
  | cons number rest ih =>
      obtain ⟨here, later⟩ := pure_cons pure
      obtain ⟨journal, noted⟩ := judge_pure probe here
      obtain ⟨further, rests⟩ := ih (show ∀ s ∈ named { board with journal } rest, s.Pure from later)
      refine ⟨further, ?_⟩
      change after (ask probe) (board.judge number probe).2 _ = _
      rw [noted]
      exact rests

theorem Resumes.refl (board : Switchboard) : board.Resumes board := ⟨.refl board, rfl, rfl⟩

theorem Resumes.trans {board'' : Switchboard} (first : board.Resumes board')
    (next : board'.Resumes board'') : board.Resumes board'' :=
  ⟨first.continues.trans next.continues, next.enlisted.trans first.enlisted,
    next.active.trans first.active⟩

theorem Resumes.registered (h : board.Resumes board') : board'.registered = board.registered :=
  registered_congr h.enlisted fun number _ =>
    congrArg (Option.getD · 0) (h.continues.map _ (fun becomes => becomes.priority) number)

theorem Resumes.origin (h : board.Resumes board') {s' : Strategy}
    (member : s' ∈ board'.named board'.active) :
    ∃ s ∈ board.named board.active, s.Becomes s' := by
  rw [h.active] at member
  obtain ⟨number, listed, known'⟩ := List.mem_filterMap.mp member
  obtain ⟨s, known, becomes⟩ := h.continues.origin known'
  exact ⟨s, List.mem_filterMap.mpr ⟨number, listed, known⟩, becomes⟩

theorem Resumes.pure (h : board.Resumes board') (pure : board.Pure) : board'.Pure := by
  intro s' member
  obtain ⟨s, listed, becomes⟩ := h.origin member
  exact becomes.pure (pure s listed)

/-- The judgements of those active are the same, whatever the settings are by now. -/
theorem Resumes.rejects (h : board.Resumes board') (pure : board.Pure) :
    ∀ number ∈ board.active, board'.rejects probe number = board.rejects probe number := by
  intro number listed
  have same := h.continues.map (·.rejects board'.settings probe)
    (fun becomes => becomes.rejects board'.settings probe) number
  rw [Switchboard.rejects, same, Switchboard.rejects]
  cases known : board.strategies[number]? with
  | none => rfl
  | some s =>
      exact (pure s (List.mem_filterMap.mpr ⟨number, listed, known⟩)).rejects _ _ probe

theorem Unmoved.resumes (h : board.Unmoved probe) :
    board.Resumes (board.observeAll probe board.registered) :=
  ⟨(events_observeAll probe _ board).continues, h.enlisted, h.active⟩

/-- A probe is collected by asking what the chain has to ask, and is rejected if one of those active
rejects it. -/
theorem Resumes.collect_eq (h : board.Resumes board') (pure : board.Pure)
    (unmoved : board'.Unmoved probe) :
    board'.collect probe = (!board.active.any (board.rejects probe),
      after (ask probe) board' (board.questions probe)) := by
  have seen := h.trans unmoved.resumes
  have judged := judgeAll_eq probe (seen.pure pure) (seen.active ▸ seen.rejects pure)
  rw [seen.active] at judged
  rw [questions, ← registered_eq_mergeSort, ← h.registered, after_append, ← observeAll_eq, ← judged,
    ← seen.active]
  rfl

theorem Resumes.collect (h : board.Resumes board') (pure : board.Pure)
    (unmoved : board'.Unmoved probe) : board.Resumes (board'.collect probe).2 := by
  have seen := h.trans unmoved.resumes
  have part := (List.take_sublist (board.active.findIdx (board.rejects probe) + 1)
    board.active).filterMap ((board'.observeAll probe board'.registered).strategies[·]?)
  obtain ⟨journal, noted⟩ := after_judges probe fun s member =>
    seen.pure pure s (seen.active ▸ part.subset member)
  rw [h.collect_eq pure unmoved, questions, ← registered_eq_mergeSort, ← h.registered, after_append,
    ← observeAll_eq, noted]
  exact ⟨seen.continues.trans (.of_same rfl (List.Subset.refl _)), seen.enlisted, seen.active⟩

/-- As probes come by, each is asked about as the first was, and judged as by itself. -/
theorem moments_evaluated (pure : board.Pure) {probes : List Probe} (h : board.Resumes board')
    (unmoved : ∀ m ∈ moments step board' (probes.map .collect), ∀ probe, m.call = .collect probe →
      m.before.Unmoved probe) :
    ∀ m ∈ moments step board' (probes.map .collect), ∀ probe, m.call = .collect probe →
      m.answer = .flag (!board.active.any (board.rejects probe)) ∧
      m.after = after (ask probe) m.before (board.questions probe) ∧
      m.after.asked = m.before.asked ++ (board.questions probe).filterMap board.heard? := by
  induction probes generalizing board' with
  | nil => nofun
  | cons probe rest ih =>
      obtain ⟨here, later⟩ := List.forall_mem_cons.mp unmoved
      have still := here probe rfl
      refine List.forall_mem_cons.mpr ⟨?_, ih (h.collect pure still) later⟩
      rintro _ ⟨⟩
      have collected := h.collect_eq pure still
      have last : (board'.collect probe).2 = _ := congrArg Prod.snd collected
      refine ⟨congrArg (fun result : Bool × Switchboard => Answer.flag result.1) collected, last, ?_⟩
      change (board'.collect probe).2.asked = board'.asked ++ _
      rw [last, asked_after, h.continues.heard?]

structure Listed (board : Switchboard) : Prop where
  wired : board.Wired
  active : board.active.Sublist board.registered

theorem sublist_refresh (board : Switchboard) :
    board.refresh.active.Sublist board.refresh.registered := by
  have order : board.refresh.registered = board.registered :=
    registered_congr rfl fun _ _ => rfl
  rw [order]
  exact List.filter_sublist

theorem Listed.congr (h : board.Listed) (wired : board'.Wired)
    (enlisted : board'.enlisted = board.enlisted) (active : board'.active = board.active)
    (alike : ∀ n ∈ board.enlisted, board'.priorityOf n = board.priorityOf n) : board'.Listed := by
  refine ⟨wired, ?_⟩
  rw [active, registered_congr enlisted alike]
  exact h.active

theorem Listed.enlist (h : board.Listed) (number : Nat) : (board.enlist number).Listed := by
  refine ⟨h.wired.enlist number, ?_⟩
  unfold Switchboard.enlist
  split
  · exact h.active
  · exact sublist_refresh _

theorem Listed.attend (h : board.Listed) (errand : Errand) : (board.attend errand).1.Listed := by
  have wired := h.wired.attend errand
  have attended := attends board errand
  generalize board.attend errand = result at attended wired
  cases attended with
  | looked => exact ⟨wired, sublist_refresh board⟩
  | enlisted => exact h.enlist _
  | _ => exact h.congr wired rfl rfl fun _ _ => rfl

theorem Listed.serveAll (h : board.Listed) (requests : List Request) :
    (board.serveAll requests).Listed :=
  serveAll_keeps (P := fun board _ => board.Listed) (fun _ errand _ listed => listed.attend errand)
    h h

theorem priorityOf_replace {number : Nat} {s s' : Strategy}
    (known : board.strategies[number]? = some s) (same : s'.priority = s.priority) (other : Nat) :
    (board.replace number s').priorityOf other = board.priorityOf other := by
  have inside := (List.getElem?_eq_some_iff.mp known).1
  rw [priorityOf, priorityOf, replace, List.getElem?_set, if_pos inside]
  split
  · rename_i here
    rw [← here, known, Option.map_some, Option.map_some, same]
  · rfl

theorem Listed.event (h : board.Listed) (event : Event board board') : board'.Listed := by
  have wired := h.wired.event event
  cases event with
  | served requests => exact h.serveAll requests
  | replaced known becomes =>
      exact h.congr wired rfl rfl fun number _ => priorityOf_replace known becomes.priority number
  | enlisted number => exact h.enlist number
  | refreshed => exact ⟨wired, sublist_refresh board⟩
  | _ => exact h.congr wired rfl rfl fun _ _ => rfl

theorem Listed.step (h : board.Listed) (call : Call) : (step board call).2.Listed := by
  refine step_keeps (fun _ _ h event => h.event event) h (fun s _ => ?_)
    fun number old applications _ known => ?_
  · refine h.congr (h.wired.add s) rfl rfl fun number member => ?_
    rw [priorityOf, priorityOf, getElem?_add (h.wired.known number member) s]
  · have kept : (Strategy.ignored (distinct applications)).priority =
        (Strategy.ignored old).priority := rfl
    exact h.congr (h.wired.replace _ _) rfl rfl fun other _ => priorityOf_replace known kept other

theorem Listed.after {calls : List Call} (h : board.Listed) :
    (after Switchboard.step board calls).Listed :=
  after_invariant h (fun _ call h _ => h.step call) fun _ _ => trivial

theorem Bare.listed (h : board.Bare) : (board.subscribe .chain).2.Listed := by
  refine ⟨h.wired, ?_⟩
  rw [show (board.subscribe .chain).2.active = [] from h.active]
  exact List.nil_sublist _

/-- Whether a probe is rejected depends on who is active, and not on the order of those. -/
theorem any_rejects (pure : board.Pure) (settings : Settings) :
    board.active.any (board.rejects probe) = true ↔
      ∃ s ∈ (board.named board.active).map Strategy.unranked, s.rejects settings probe = true := by
  rw [List.any_eq_true]
  constructor
  · rintro ⟨number, listed, rejected⟩
    rw [rejects] at rejected
    cases known : board.strategies[number]? with
    | none =>
        rw [known] at rejected
        cases rejected
    | some s =>
        rw [known] at rejected
        have member : s ∈ board.named board.active := List.mem_filterMap.mpr ⟨number, listed, known⟩
        refine ⟨s.unranked, List.mem_map_of_mem member, ?_⟩
        rw [Strategy.rejects_unranked, (pure s member).rejects settings board.settings]
        exact rejected
  · rintro ⟨_, member, rejected⟩
    obtain ⟨s, own, rfl⟩ := List.mem_map.mp member
    obtain ⟨number, listed, known⟩ := List.mem_filterMap.mp own
    refine ⟨number, listed, ?_⟩
    rw [Strategy.rejects_unranked, (pure s own).rejects settings board.settings] at rejected
    rw [rejects, known]
    exact rejected

/-- Every probe that comes by is shown to all strategies of the chain, sorted by priority and among
equals by the order they came; then those active are asked in that order, up to the first that
rejects it. It is collected unless one of them rejects it, whatever their order and priorities, and
nothing depends on who crashed over this probe or one before. -/
theorem chain_evaluates {early calls : List Call} (before : ∀ call ∈ early, call.OnSettings)
    (probes : List Probe) :
    let board := after step ((after step {} early).subscribe .chain).2 calls
    let history := moments step board (probes.map .collect)
    board.Pure →
    (∀ m ∈ history, ∀ probe, m.call = .collect probe → m.before.Unmoved probe) →
      board.active.Sublist (board.enlisted.mergeSort board.runsBefore) ∧
      (∀ m ∈ history, ∀ probe, m.call = .collect probe →
        m.answer = .flag (!board.active.any (board.rejects probe)) ∧
        m.after = after (ask probe) m.before (board.questions probe) ∧
        m.after.asked = m.before.asked ++ (board.questions probe).filterMap board.heard?) ∧
      ∀ other : Switchboard, other.Pure → ∀ probe, board.Unmoved probe → other.Unmoved probe →
        ((other.named other.active).map Strategy.unranked).Perm
          ((board.named board.active).map Strategy.unranked) →
        (other.collect probe).1 = (board.collect probe).1 := by
  intro board history pure unmoved
  have same : board.Resumes board := .refl board
  refine ⟨?_, moments_evaluated pure same unmoved, ?_⟩
  · rw [← registered_eq_mergeSort]
    exact (bare_after before).listed.after.active
  · intro other pure' probe still still' alike
    rw [same.collect_eq pure still, (Resumes.refl other).collect_eq pure' still']
    refine congrArg (!·) (Bool.eq_iff_iff.mpr ?_)
    rw [any_rejects pure board.settings, any_rejects pure' board.settings]
    simp only [alike.mem_iff]

/-- A strategy of a shop, always active, that is of one mind about every probe. -/
def shopStrategy (kind : String) (priority : Int) (seen : Outcome Unit) (verdict : Outcome Bool) :
    Strategy :=
  .custom
    { name := { group := "shop", kind }, priority, activation := "shop."
      isActive := fun _ => true, observe := fun _ => seen, collect := fun _ => verdict }

/-- Two strategies of one priority, the first of which crashes whatever it is asked. -/
def shopChain : List Call :=
  [.add (shopStrategy "late" 50 (.done ()) (.done false)),
    .add (shopStrategy "buggy" 0 (.crashed "seen") (.crashed "asked")),
    .add (shopStrategy "strict" 0 (.done ()) (.done false)),
    .add (shopStrategy "early" (-5) (.done ()) (.done true)),
    .enlist 0, .enlist 1, .enlist 2, .enlist 3]

theorem pure_shopStrategy (kind : String) (priority : Int) (seen : Outcome Unit)
    (verdict : Outcome Bool) : (shopStrategy kind priority seen verdict).Pure :=
  ⟨fun _ _ _ => rfl, by rintro _ ⟨⟩ _ _; rfl⟩

/-- Everybody sees the probe; then the first two are asked, and the third rejects it. So it goes for
the next probe. -/
theorem shop_chain_evaluates :
    let board := after step ((after step {} []).subscribe .chain).2 shopChain
    let find : Probe := { className := "shop.Orders", methodName := "find" }
    let history := moments step board ([find, find].map .collect)
    board.Pure ∧ (∀ m ∈ history, ∀ probe, m.call = .collect probe → m.before.Unmoved probe) ∧
      ∀ m ∈ history, m.answer = .flag false ∧ m.after.asked = m.before.asked ++
        [.observed "shop.early", .observed "shop.buggy", .observed "shop.strict",
          .observed "shop.late", .judged "shop.early", .judged "shop.buggy",
          .judged "shop.strict"] := by
  intro board find history
  have pure : board.Pure := by
    have all : ∀ s ∈ board.strategies, s.Pure := by
      have known : board.strategies = [shopStrategy "late" 50 (.done ()) (.done false),
          shopStrategy "buggy" 0 (.crashed "seen") (.crashed "asked"),
          shopStrategy "strict" 0 (.done ()) (.done false),
          shopStrategy "early" (-5) (.done ()) (.done true)] := rfl
      simp [known, pure_shopStrategy]
    intro s member
    obtain ⟨number, -, known⟩ := List.mem_filterMap.mp member
    exact all s (List.mem_of_getElem? known)
  have still : board.Unmoved find ∧ (board.collect find).2.Unmoved find :=
    ⟨⟨by decide +kernel, by decide +kernel⟩, by decide +kernel, by decide +kernel⟩
  have unmoved : ∀ m ∈ history, ∀ probe, m.call = .collect probe → m.before.Unmoved probe := by
    refine List.forall_mem_cons.mpr ⟨?_, List.forall_mem_singleton.mpr ?_⟩
    · rintro _ ⟨⟩
      exact still.1
    · rintro _ ⟨⟩
      exact still.2
  obtain ⟨-, evaluated, -⟩ := chain_evaluates (List.forall_mem_nil _) [find, find] pure unmoved
  refine ⟨pure, unmoved, fun m member => ?_⟩
  have call : m.call = .collect find := by
    have made := call_mem_of_mem_moments member
    simpa using made
  obtain ⟨answer, -, asked⟩ := evaluated m member find call
  have rejected : board.active.any (board.rejects find) = true := by decide +kernel
  have heard : (board.questions find).filterMap board.heard? =
      [.observed "shop.early", .observed "shop.buggy", .observed "shop.strict",
        .observed "shop.late", .judged "shop.early", .judged "shop.buggy",
        .judged "shop.strict"] := by
    rw [questions, ← registered_eq_mergeSort]
    rfl
  exact ⟨answer.trans (by rw [rejected]; rfl), asked.trans (by rw [heard])⟩

end

end Switchboard
end SpanCapture
