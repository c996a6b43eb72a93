import SpanCapture.Proofs.Collection.Calls

/-! What listeners are told. What a listener has been told stands in the journal, and what it is
about to be told among the errands; both together are its word. Attending to an errand that changes
no value leaves everyone's word as it is. A change puts one notice into the word of each who
listens, ahead of all that was about to be told. -/
namespace SpanCapture

def BoardEvent.notice? (id : Nat) : BoardEvent → Option (String × Value)
  | .told listener _ name value => if listener = id then some (name, value) else none
  | _ => none

def Errand.notice? (id : Nat) : Errand → Option (String × Value)
  | .tell other (.listener _) name value => if other = id then some (name, value) else none
  | _ => none

def Request.change? (settings : Settings) : Request → Option (String × Value)
  | .write name value => if settings.differs name value then some (name, value) else none
  | .register name value => if (settings.get? name).isSome then none else some (name, value)
  | _ => none

def Errand.change? (settings : Settings) : Errand → Option (String × Value)
  | .serve request => request.change? settings
  | .tell .. => none

def Request.Watches : Request → Prop
  | .write .. | .register .. => False
  | _ => True

/-- What a listener asks for is always of one kind. It may fail or crash all the same. -/
def Listener.AsksOnly (kind : Request → Prop) (listener : Listener) : Prop :=
  ∀ journal name value, ∀ request ∈ listener.react journal name value, kind request

def Subscriber.AsksOnly (kind : Request → Prop) : Subscriber → Prop
  | .chain => True
  | .listener told => told.AsksOnly kind

/-- What can come of an errand is always of one kind. -/
def Errand.AsksOnly (kind : Request → Prop) : Errand → Prop
  | .tell _ subscriber _ _ => subscriber.AsksOnly kind
  | .serve request => kind request

abbrev Listener.Watches (listener : Listener) : Prop := listener.AsksOnly Request.Watches

abbrev Subscriber.Watches (subscriber : Subscriber) : Prop := subscriber.AsksOnly Request.Watches

/-- An errand of which no change can come. -/
abbrev Errand.Watches (errand : Errand) : Prop := errand.AsksOnly Request.Watches

def recording : Listener where
  label := "record"
  react := fun _ _ _ => []

@[simp] theorem Subscriber.isChain_chain : Subscriber.chain.isChain = true := rfl

@[simp] theorem Subscriber.isChain_listener (listener : Listener) :
    (Subscriber.listener listener).isChain = false := rfl

theorem Request.Watches.change? {request : Request} (h : request.Watches) (settings : Settings) :
    request.change? settings = none := by
  cases request with
  | write => exact h.elim
  | register => exact h.elim
  | enlist => rfl
  | unsubscribe => rfl

theorem Errand.Watches.change? {errand : Errand} (h : errand.Watches) (settings : Settings) :
    errand.change? settings = none := by
  cases errand with
  | tell => rfl
  | serve request => exact Request.Watches.change? h settings

namespace Switchboard

/-- What a listener has been told, oldest first. -/
def heardBy (id : Nat) (board : Switchboard) : List (String × Value) :=
  board.journal.filterMap (·.notice? id)

def awaited (id : Nat) (errands : List Errand) : List (String × Value) :=
  errands.filterMap (·.notice? id)

def word (id : Nat) (board : Switchboard) (errands : List Errand) : List (String × Value) :=
  board.heardBy id ++ awaited id errands

def listens (id : Nat) (board : Switchboard) : Bool :=
  board.subscribers.any fun entry => entry.1 == id && !entry.2.isChain

/-- The request a call comes to, if it is one on the settings themselves. -/
def Call.request? : Call → Option Request
  | .write name value => some (.write name value)
  | .register name value => some (.register name value)
  | _ => none

def Call.change? (settings : Settings) (call : Call) : Option (String × Value) :=
  call.request?.bind (·.change? settings)

section
variable {board board' : Switchboard} {id : Nat} {name : String} {value : Value} {errand : Errand}
  {rest : List Errand}

@[simp] theorem word_nil (id : Nat) (board : Switchboard) : board.word id [] = board.heardBy id :=
  List.append_nil _

theorem awaited_append (id : Nat) (errands rest : List Errand) :
    awaited id (errands ++ rest) = awaited id errands ++ awaited id rest := List.filterMap_append

@[simp] theorem awaited_serve (id : Nat) (requests : List Request) :
    awaited id (requests.map .serve) = [] := by
  induction requests with
  | nil => rfl
  | cons request requests ih => exact ih

theorem listens_iff :
    board.listens id = true ↔ ∃ listener, (id, Subscriber.listener listener) ∈ board.subscribers := by
  unfold listens
  rw [List.any_eq_true]
  constructor
  · rintro ⟨⟨other, subscriber⟩, member, here⟩
    cases subscriber with
    | chain => simp at here
    | listener listener =>
        have same : other = id := by simpa using here
        subst same
        exact ⟨listener, member⟩
  · rintro ⟨listener, member⟩
    exact ⟨_, member, by simp⟩

/-- A change is announced once to each who listens. -/
theorem awaited_announce (distinct : (board.subscribers.map Prod.fst).Nodup) (id : Nat)
    (name : String) (value : Value) :
    awaited id (board.announce name value) = if board.listens id then [(name, value)] else [] := by
  unfold announce listens
  generalize board.subscribers = subscribers at distinct
  induction subscribers with
  | nil => rfl
  | cons entry later ih =>
      obtain ⟨other, subscriber⟩ := entry
      obtain ⟨fresh, distinct⟩ := List.nodup_cons.mp distinct
      have others := ih distinct
      rw [List.any_cons, List.map_cons]
      cases subscriber with
      | chain =>
          rw [Subscriber.isChain_chain, Bool.not_true, Bool.and_false, Bool.false_or, ← others]
          rfl
      | listener listener =>
          rw [Subscriber.isChain_listener, Bool.not_false, Bool.and_true]
          by_cases same : other = id
          · subst same
            have nobody : (later.any fun entry => entry.1 == other && !entry.2.isChain) = false := by
              rw [List.any_eq_false]
              rintro ⟨number, subscriber⟩ member here
              have there : number = other := by
                simp only [Bool.and_eq_true, beq_iff_eq] at here
                exact here.1
              subst there
              exact fresh (List.mem_map.mpr ⟨_, member, rfl⟩)
            rw [nobody, if_neg Bool.false_ne_true] at others
            rw [nobody, beq_self_eq_true, Bool.or_false, if_pos rfl, ← others]
            exact List.filterMap_cons_some (if_pos rfl)
          · rw [beq_eq_false_iff_ne.mpr same, Bool.false_or, ← others]
            exact List.filterMap_cons_none (if_neg same)

theorem asksOnly_announce {kind : Request → Prop}
    (standing : ∀ entry ∈ board.subscribers, entry.2.AsksOnly kind) (name : String) (value : Value) :
    ∀ errand ∈ board.announce name value, errand.AsksOnly kind := by
  intro errand member
  obtain ⟨entry, there, rfl⟩ := List.mem_map.mp member
  exact standing entry there

/-- Bringing a strategy into the chain concerns nobody who listens. -/
theorem enlist_cases (number : Nat) (board : Switchboard) : board.enlist number = board ∨
    board.enlist number =
      Switchboard.refresh { board with enlisted := board.enlisted ++ [number] } := by
  unfold enlist
  split
  · exact .inl rfl
  · exact .inr rfl

/-- Attending to an errand may let subscribers go; none comes. -/
theorem subscribers_attend (board : Switchboard) (errand : Errand) :
    (board.attend errand).1.subscribers.Sublist board.subscribers ∧
      (board.attend errand).1.nextId = board.nextId := by
  have attended := attends board errand
  generalize board.attend errand = result at attended
  cases attended with
  | looked => exact ⟨.refl _, rfl⟩
  | passed => exact ⟨.refl _, rfl⟩
  | heard => exact ⟨.refl _, rfl⟩
  | written => exact ⟨.refl _, rfl⟩
  | rewritten => exact ⟨.refl _, rfl⟩
  | introduced => exact ⟨.refl _, rfl⟩
  | known => exact ⟨.refl _, rfl⟩
  | @enlisted number =>
      rcases enlist_cases number board with same | brought
      · rw [same]
        exact ⟨.refl _, rfl⟩
      · rw [brought]
        exact ⟨.refl _, rfl⟩
  | dismissed => exact ⟨List.filter_sublist, rfl⟩

theorem subscribers_serveAll (requests : List Request) (board : Switchboard) :
    (board.serveAll requests).subscribers.Sublist board.subscribers ∧
      (board.serveAll requests).nextId = board.nextId := by
  refine serveAll_keeps (P := fun other _ =>
    other.subscribers.Sublist board.subscribers ∧ other.nextId = board.nextId)
    (fun other errand _ h => ?_) ⟨.refl _, rfl⟩ ⟨.refl _, rfl⟩
  obtain ⟨fewer, same⟩ := subscribers_attend other errand
  exact ⟨fewer.trans h.1, same.trans h.2⟩

/-- Where an errand changes nothing, values and everyone's word stay. -/
theorem attend_unchanged (unchanged : errand.change? board.settings = none) (rest : List Errand) :
    (board.attend errand).1.settings.values = board.settings.values ∧
      ∀ id, (board.attend errand).1.word id ((board.attend errand).2 ++ rest) =
        board.word id (errand :: rest) := by
  have attended := attends board errand
  generalize board.attend errand = result at attended
  cases attended with
  | looked => exact ⟨rfl, fun id => rfl⟩
  | passed => exact ⟨rfl, fun id => rfl⟩
  | @heard other listener name value =>
      refine ⟨rfl, fun id => ?_⟩
      unfold word heardBy
      rw [awaited_append, awaited_serve, List.nil_append]
      by_cases same : other = id
      · simp [note, BoardEvent.notice?, awaited, Errand.notice?, same]
      · simp [note, BoardEvent.notice?, awaited, Errand.notice?, same]
  | written differs => simp [Errand.change?, Request.change?, differs] at unchanged
  | rewritten => exact ⟨rfl, fun id => rfl⟩
  | introduced unknown => simp [Errand.change?, Request.change?, unknown] at unchanged
  | known => exact ⟨rfl, fun id => rfl⟩
  | @enlisted number =>
      rcases enlist_cases number board with same | brought
      · rw [same]
        exact ⟨rfl, fun id => rfl⟩
      · rw [brought]
        exact ⟨rfl, fun id => rfl⟩
  | dismissed => exact ⟨rfl, fun id => rfl⟩

/-- A change stores the value and is announced; nobody has been told of it yet. -/
theorem attend_changed (changed : errand.change? board.settings = some (name, value)) :
    (board.attend errand).1.settings.values = board.settings.values.insert name value ∧
      (board.attend errand).1.journal = board.journal ∧
      (board.attend errand).1.subscribers = board.subscribers ∧
      (board.attend errand).2 = board.announce name value ∧ ∀ id, errand.notice? id = none := by
  have attended := attends board errand
  generalize board.attend errand = result at attended
  cases attended with
  | written differs =>
      simp only [Errand.change?, Request.change?, differs, if_true] at changed
      cases changed
      exact ⟨rfl, rfl, rfl, rfl, fun _ => rfl⟩
  | introduced unknown =>
      simp only [Errand.change?, Request.change?, unknown, Option.isSome_none] at changed
      cases changed
      exact ⟨rfl, rfl, rfl, rfl, fun _ => rfl⟩
  | rewritten same => simp [Errand.change?, Request.change?, same] at changed
  | known stored => simp [Errand.change?, Request.change?, stored] at changed
  | _ => cases changed

/-- Subscribers are numbered in the order they came, and numbers not given yet have heard of
nothing. -/
structure Numbered (board : Switchboard) (errands : List Errand) : Prop where
  ordered : board.subscribers.Pairwise fun earlier later => earlier.1 < later.1
  given : ∀ entry ∈ board.subscribers, entry.1 < board.nextId
  unheard : ∀ id, board.nextId ≤ id → board.word id errands = []

theorem Numbered.distinct (h : board.Numbered rest) : (board.subscribers.map Prod.fst).Nodup :=
  List.pairwise_map.mpr (h.ordered.imp Nat.ne_of_lt)

theorem Numbered.lt_nextId (h : board.Numbered rest) (listening : board.listens id = true) :
    id < board.nextId := by
  obtain ⟨listener, member⟩ := listens_iff.mp listening
  exact h.given _ member

theorem word_changed (h : board.Numbered (errand :: rest))
    (changed : errand.change? board.settings = some (name, value)) (id : Nat) :
    (board.attend errand).1.word id ((board.attend errand).2 ++ rest) =
      board.heardBy id ++ (if board.listens id then [(name, value)] else []) ++ awaited id rest := by
  obtain ⟨-, journal, -, announced, -⟩ := attend_changed changed
  unfold word heardBy
  rw [journal, announced, awaited_append, awaited_announce h.distinct, List.append_assoc]

theorem Numbered.attend (h : board.Numbered (errand :: rest)) :
    (board.attend errand).1.Numbered ((board.attend errand).2 ++ rest) := by
  obtain ⟨fewer, nextId⟩ := subscribers_attend board errand
  refine ⟨h.ordered.sublist fewer, ?_, ?_⟩
  · intro entry member
    rw [nextId]
    exact h.given entry (fewer.subset member)
  · intro id ungiven
    rw [nextId] at ungiven
    have nothing := h.unheard id ungiven
    cases changed : errand.change? board.settings with
    | none => rw [(attend_unchanged changed rest).2, nothing]
    | some change =>
        obtain ⟨name, value⟩ := change
        have deaf : board.listens id = false := by
          refine Bool.eq_false_iff.mpr fun listening => ?_
          exact absurd (h.lt_nextId listening) (by omega)
        obtain ⟨-, -, -, -, tells⟩ := attend_changed changed
        have same : board.word id (errand :: rest) = board.heardBy id ++ awaited id rest := by
          unfold word awaited
          rw [List.filterMap_cons_none (tells id)]
        rw [word_changed h changed, deaf, if_neg Bool.false_ne_true, List.append_nil, ← same, nothing]

theorem Numbered.serveAll (h : board.Numbered []) (requests : List Request) :
    (board.serveAll requests).Numbered [] := by
  refine serveAll_keeps (P := Numbered) (fun _ _ _ numbered => numbered.attend) ?_ h
  refine ⟨h.ordered, h.given, fun id ungiven => ?_⟩
  unfold word
  rw [awaited_serve]
  exact h.unheard id ungiven

theorem Numbered.subscribe (h : board.Numbered []) (subscriber : Subscriber) :
    (board.subscribe subscriber).2.Numbered [] := by
  refine ⟨?_, ?_, ?_⟩
  · refine List.pairwise_append.mpr ⟨h.ordered, List.pairwise_singleton _ _, ?_⟩
    intro entry old newcomer new
    rw [List.mem_singleton.mp new]
    exact h.given entry old
  · intro entry member
    change entry.1 < board.nextId + 1
    rcases List.mem_append.mp member with old | new
    · exact Nat.lt_succ_of_lt (h.given entry old)
    · rw [List.mem_singleton.mp new]
      exact Nat.lt_succ_self _
  · intro id ungiven
    exact h.unheard id (Nat.le_of_succ_le ungiven)

theorem Numbered.dismiss (h : board.Numbered []) (id : Nat) : (board.dismiss id).Numbered [] :=
  ⟨h.ordered.sublist List.filter_sublist,
    fun entry member => h.given entry ((List.mem_filter.mp member).1), h.unheard⟩

/-- A call that comes to a request serves it. -/
theorem step_of_request {call : Call} {request : Request} (asks : call.request? = some request)
    (board : Switchboard) : (step board call).2 = board.serve request := by
  cases call with
  | write name value =>
      cases asks
      rfl
  | register name value =>
      cases asks
      change (board.register name value).2 = _
      unfold register
      split
      · rename_i stored
        have known : board.attend (.serve (.register name value)) = (board, []) := by
          rw [attend, if_pos (by rw [stored]; rfl)]
        rw [serve, serveAll_eq]
        change board = (board.settle [.serve (.register name value)]).getD board
        rw [settle_cons, known, List.append_nil, settle_nil]
        rfl
      · rfl
  | _ => cases asks

/-- A call on settings comes to a request, or somebody joins or leaves. -/
theorem onSettings_cases {call : Call} (onSettings : call.OnSettings) :
    (∃ request, call.request? = some request) ∨ (∃ listener, call = .subscribe listener) ∨
      ∃ id, call = .dismiss id := by
  cases call with
  | write name value => exact .inl ⟨_, rfl⟩
  | register name value => exact .inl ⟨_, rfl⟩
  | subscribe listener => exact .inr (.inl ⟨listener, rfl⟩)
  | dismiss id => exact .inr (.inr ⟨id, rfl⟩)
  | _ => exact onSettings.elim

/-- Only who joins is answered with a number: the next one. -/
theorem joins_of_number {call : Call} (onSettings : call.OnSettings)
    (answered : (step board call).1 = .number id) :
    id = board.nextId ∧ ∃ listener, call = .subscribe listener := by
  rcases onSettings_cases onSettings with ⟨request, asks⟩ | ⟨listener, rfl⟩ | ⟨other, rfl⟩
  · cases call with
    | write => cases answered
    | register => cases answered
    | _ => cases asks
  · cases answered
    exact ⟨rfl, listener, rfl⟩
  · cases answered

/-- A call may let listeners go; one who listens after it and has its number already listened
before. -/
theorem listens_of_step {call : Call} (onSettings : call.OnSettings) (given : id < board.nextId)
    (listening : (step board call).2.listens id = true) : board.listens id = true := by
  obtain ⟨listener, member⟩ := listens_iff.mp listening
  refine listens_iff.mpr ⟨listener, ?_⟩
  rcases onSettings_cases onSettings with ⟨request, asks⟩ | ⟨newcomer, rfl⟩ | ⟨other, rfl⟩
  · rw [step_of_request asks] at member
    exact (subscribers_serveAll _ board).1.subset member
  · rcases List.mem_append.mp member with old | new
    · exact old
    · cases List.mem_singleton.mp new
      exact absurd given (Nat.lt_irrefl _)
  · exact (List.mem_filter.mp member).1

theorem nextId_le_step {call : Call} (onSettings : call.OnSettings) (board : Switchboard) :
    board.nextId ≤ (step board call).2.nextId := by
  rcases onSettings_cases onSettings with ⟨request, asks⟩ | ⟨newcomer, rfl⟩ | ⟨other, rfl⟩
  · rw [step_of_request asks]
    exact Nat.le_of_eq (subscribers_serveAll _ board).2.symm
  · exact Nat.le_succ _
  · exact Nat.le_refl _

/-- Where those subscribed and whoever joins ask for one kind of requests only, so do those
subscribed after a call. -/
theorem asksOnly_step {kind : Request → Prop} {call : Call} (onSettings : call.OnSettings)
    (standing : ∀ entry ∈ board.subscribers, entry.2.AsksOnly kind)
    (newcomer : ∀ listener, call = .subscribe listener → listener.AsksOnly kind) :
    ∀ entry ∈ (step board call).2.subscribers, entry.2.AsksOnly kind := by
  intro entry member
  rcases onSettings_cases onSettings with ⟨request, asks⟩ | ⟨listener, rfl⟩ | ⟨other, rfl⟩
  · rw [step_of_request asks] at member
    exact standing entry ((subscribers_serveAll _ board).1.subset member)
  · rcases List.mem_append.mp member with old | new
    · exact standing entry old
    · rw [List.mem_singleton.mp new]
      exact newcomer listener rfl
  · exact standing entry (List.mem_filter.mp member).1

theorem numbered_empty : Numbered {} [] :=
  ⟨.nil, nofun, fun _ _ => rfl⟩

theorem Numbered.step (h : board.Numbered []) {call : Call} (onSettings : call.OnSettings) :
    (step board call).2.Numbered [] := by
  rcases onSettings_cases onSettings with ⟨request, asks⟩ | ⟨listener, rfl⟩ | ⟨id, rfl⟩
  · rw [step_of_request asks]
    exact h.serveAll [request]
  · exact h.subscribe _
  · exact h.dismiss id

end

end Switchboard
end SpanCapture
