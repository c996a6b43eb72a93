import SpanCapture.Proofs.Collection.NoticeLog

/-! Errands that come to an end. Whoever is told of a change may answer by changes, and those told
of these may answer in turn. As long as no chain of answers goes on for ever, whatever is asked of
the board is done at some time: telling of a change is done once all is done that can answer it.
Where somebody takes back every change, nothing is. -/
namespace SpanCapture

def Request.gives? : Request → Option (String × Value)
  | .write name value | .register name value => some (name, value)
  | .enlist _ | .unsubscribe _ => none

namespace Switchboard

/-- A listener may answer one change by another, whatever happened before. -/
def Provokes (board : Switchboard) (earlier later : String × Value) : Prop :=
  ∃ id listener, (id, Subscriber.listener listener) ∈ board.subscribers ∧
    ∃ journal, ∃ request ∈ listener.react journal earlier.1 earlier.2, request.gives? = some later

/-- No chain of answers goes on for ever. -/
def AnswersEnd (board : Switchboard) : Prop :=
  WellFounded fun later earlier => board.Provokes earlier later

/-- An errand is done at some time, on any board with no other subscribers. -/
def Ends (first : Switchboard) (errand : Errand) : Prop :=
  ∀ now : Switchboard, now.subscribers ⊆ first.subscribers → (now.settle [errand]).isSome = true

section
variable {first now : Switchboard} {errand : Errand} {errands : List Errand} {name : String}

theorem AnswersEnd.mono (h : first.AnswersEnd) (fewer : now.subscribers ⊆ first.subscribers) :
    now.AnswersEnd :=
  Subrelation.wf (fun ⟨id, listener, member, answer⟩ => ⟨id, listener, fewer member, answer⟩) h

theorem subscribers_settle {last : Switchboard} (settled : now.settle errands = some last) :
    last.subscribers ⊆ now.subscribers :=
  settle_keeps (P := fun other _ => other.subscribers ⊆ now.subscribers)
    (fun other errand _ fewer =>
      List.Subset.trans (subscribers_attend other errand).1.subset fewer)
    (List.Subset.refl _) settled

/-- Errands that are each done at some time are all done at some time. -/
theorem settle_of_ends (ends : ∀ errand ∈ errands, first.Ends errand)
    (fewer : now.subscribers ⊆ first.subscribers) : (now.settle errands).isSome = true := by
  induction errands generalizing now with
  | nil => rw [settle_nil, Option.isSome_some]
  | cons errand later ih =>
      obtain ⟨here, onward⟩ := List.forall_mem_cons.mp ends
      obtain ⟨mid, settled⟩ := Option.isSome_iff_exists.mp (here now fewer)
      rw [← List.singleton_append, settle_append settled]
      exact ih onward (List.Subset.trans (subscribers_settle settled) fewer)

/-- An errand is done once all is done that it gives rise to. -/
theorem ends_of_next (next : ∀ now : Switchboard, now.subscribers ⊆ first.subscribers →
      ∀ errand' ∈ (now.attend errand).2, first.Ends errand') : first.Ends errand := by
  intro now fewer
  rw [settle_cons, List.append_nil]
  exact settle_of_ends (next now fewer)
    (List.Subset.trans (subscribers_attend now errand).1.subset fewer)

/-- A request is done once everyone is told of the change it makes. -/
theorem ends_serve (request : Request) (told : ∀ change ∈ request.gives?,
      ∀ entry ∈ first.subscribers, first.Ends (.tell entry.1 entry.2 change.1 change.2)) :
    first.Ends (.serve request) := by
  refine ends_of_next fun now fewer errand' member => ?_
  have announced (name : String) (value : Value) (gives : request.gives? = some (name, value))
      (there : errand' ∈ now.announce name value) : first.Ends errand' := by
    obtain ⟨entry, subscribed, rfl⟩ := List.mem_map.mp there
    exact told (name, value) gives entry (fewer subscribed)
  have attended := attends now (.serve request)
  generalize now.attend (.serve request) = result at attended member
  cases attended with
  | written => exact announced _ _ rfl member
  | introduced => exact announced _ _ rfl member
  | rewritten => cases member
  | known => cases member
  | enlisted => cases member
  | dismissed => cases member

/-- Telling somebody of a change is done once all is done that can be asked for in answer. -/
theorem ends_tell (answersEnd : first.AnswersEnd) (change : String × Value) :
    ∀ entry ∈ first.subscribers, first.Ends (.tell entry.1 entry.2 change.1 change.2) := by
  -- The induction is on the chains of answers: those told of an answer come first.
  induction change using answersEnd.induction with
  | _ change ih =>
      rintro ⟨id, subscriber⟩ subscribed
      refine ends_of_next fun now fewer errand' member => ?_
      cases subscriber with
      | chain => cases member
      | listener listener =>
          obtain ⟨request, asked, rfl⟩ := List.mem_map.mp member
          refine ends_serve request fun later gives => ih later ?_
          exact ⟨id, listener, subscribed, _, request, asked, gives⟩

/-- Where no chain of answers goes on for ever, everything asked for is done at some time. -/
theorem AnswersEnd.settle (h : now.AnswersEnd) (requests : List Request) :
    (now.settle (requests.map .serve)).isSome = true := by
  have ends : ∀ errand ∈ requests.map Errand.serve, now.Ends errand := by
    intro errand member
    obtain ⟨request, -, rfl⟩ := List.mem_map.mp member
    exact ends_serve request fun change _ => ends_tell h change
  exact settle_of_ends ends (List.Subset.refl _)

/-! ### Answers without end -/

def contrary : Listener where
  label := "contrary"
  react := fun _ name value => match value with
    | .bool on => [.write name (.bool !on)]
    | _ => []

/-- The first to be told of a switch turns it back, and whatever else is to be done waits. -/
structure TurningBack (name : String) (board : Switchboard) (errands : List Errand) : Prop where
  foremost : ∃ id others, board.subscribers = (id, .listener contrary) :: others
  turning : ∃ on rest, board.settings.get? name = some (.bool on) ∧
    ((∃ id, errands = .tell id (.listener contrary) name (.bool on) :: rest) ∨
      errands = .serve (.write name (.bool !on)) :: rest)

/-- What everyone is told of a switch begins with who turns it back. -/
theorem TurningBack.announce {id : Nat} {others : List (Nat × Subscriber)} {on : Bool}
    (foremost : now.subscribers = (id, .listener contrary) :: others) {settings : Settings}
    (stored : settings.get? name = some (.bool on)) (rest : List Errand) :
    TurningBack name { now with settings } (now.announce name (.bool on) ++ rest) := by
  have told : now.announce name (.bool on) = .tell id (.listener contrary) name (.bool on) ::
      others.map fun entry => .tell entry.1 entry.2 name (.bool on) := by
    rw [Switchboard.announce, foremost]
    rfl
  rw [told]
  exact ⟨⟨id, others, foremost⟩, on, _, stored, .inl ⟨id, rfl⟩⟩

theorem TurningBack.attend {rest : List Errand} (h : TurningBack name now (errand :: rest)) :
    TurningBack name (now.attend errand).1 ((now.attend errand).2 ++ rest) := by
  obtain ⟨⟨number, others, foremost⟩, on, later, stored, ⟨id, told⟩ | asked⟩ := h
  · cases told
    exact ⟨⟨number, others, foremost⟩, on, rest, stored, .inr rfl⟩
  · cases asked
    have differs : now.settings.differs name (.bool !on) = true := by
      rw [Settings.differs, stored]
      cases on <;> rfl
    rw [Switchboard.attend, Settings.write_of_differs name _ now.settings differs]
    exact .announce foremost (Settings.get?_introduce_self _ _ _) rest

/-- A switch that is made known to somebody who turns it back is never settled. -/
theorem settle_contrary {id : Nat} {others : List (Nat × Subscriber)}
    (foremost : now.subscribers = (id, .listener contrary) :: others)
    (unknown : now.settings.get? name = none) (on : Bool) :
    now.settle [.serve (.register name (.bool on))] = none := by
  have attended : now.attend (.serve (.register name (.bool on))) =
      ({ now with settings := now.settings.introduce name (.bool on) },
        now.announce name (.bool on)) := by
    rw [attend, unknown]
    rfl
  rw [settle_cons, attended]
  refine Option.eq_none_iff_forall_ne_some.mpr fun last settled => ?_
  -- Nobody is done for good: somebody is always turning the switch back.
  have turning := settle_keeps (P := TurningBack name) (fun _ _ _ h => h.attend)
    (.announce foremost (Settings.get?_introduce_self _ _ _) []) settled
  obtain ⟨-, on, rest, -, ⟨number, told⟩ | asked⟩ := turning
  · cases told
  · cases asked

end

end Switchboard
end SpanCapture
