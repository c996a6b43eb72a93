import SpanCapture.Proofs.Collection.Calls
import SpanCapture.Proofs.Collection.RunningOrder

/-! Who is on the board and in the chain. A strategy keeps its number and its kind, one that came
into the chain stays in it, and the chain stays subscribed to the settings, whatever is asked of
the board. -/
namespace SpanCapture

theorem Strategy.Becomes.trans {s t u : Strategy} (first : s.Becomes t) (next : t.Becomes u) :
    s.Becomes u := by
  cases first with
  | same => exact next
  | decided t =>
      cases next with
      | same => exact .decided t _
      | decided _ u => exact .decided t u
  | noted l =>
      cases next with
      | same => exact .noted l _
      | noted _ m => exact .noted l m
  | discovered d =>
      cases next with
      | same => exact .discovered d _
      | discovered _ e => exact .discovered d e

namespace Switchboard

section
variable {board board' : Switchboard} {errand : Errand}

@[simp] theorem strategies_enlist (number : Nat) (board : Switchboard) :
    (board.enlist number).strategies = board.strategies := by
  unfold enlist
  split <;> rfl

theorem enlisted_enlist (number : Nat) (board : Switchboard) :
    board.enlisted ⊆ (board.enlist number).enlisted := by
  unfold enlist
  split
  · exact List.Subset.refl _
  · exact List.subset_append_left _ _

theorem mem_enlisted_enlist {number : Nat} (known : number < board.strategies.length) :
    number ∈ (board.enlist number).enlisted := by
  rw [enlist, List.getElem?_eq_getElem known]
  exact List.mem_append_right _ List.mem_cons_self

theorem strategies_attend (board : Switchboard) (errand : Errand) :
    (board.attend errand).1.strategies = board.strategies := by
  have attended := attends board errand
  generalize board.attend errand = result at attended
  cases attended with
  | enlisted => exact strategies_enlist _ board
  | _ => rfl

theorem enlisted_attend (board : Switchboard) (errand : Errand) :
    board.enlisted ⊆ (board.attend errand).1.enlisted := by
  have attended := attends board errand
  generalize board.attend errand = result at attended
  cases attended with
  | enlisted => exact enlisted_enlist _ board
  | _ => exact List.Subset.refl _

/-- The list of active strategies changes only as the chain looks again. -/
theorem active_attend (board : Switchboard) (errand : Errand) :
    (board.attend errand).1.active = board.active ∨
      ∃ now : Switchboard, (board.attend errand).1 = now.refresh := by
  have attended := attends board errand
  generalize board.attend errand = result at attended
  cases attended with
  | looked => exact .inr ⟨board, rfl⟩
  | enlisted =>
      unfold enlist
      split
      · exact .inl rfl
      · exact .inr ⟨_, rfl⟩
  | _ => exact .inl rfl

theorem strategies_serveAll (requests : List Request) (board : Switchboard) :
    (board.serveAll requests).strategies = board.strategies :=
  serveAll_keeps (P := fun now _ => now.strategies = board.strategies)
    (fun now errand _ same => (strategies_attend now errand).trans same) rfl rfl

theorem enlisted_serveAll (requests : List Request) (board : Switchboard) :
    board.enlisted ⊆ (board.serveAll requests).enlisted :=
  serveAll_keeps (P := fun now _ => board.enlisted ⊆ now.enlisted)
    (fun now errand _ before => List.Subset.trans before (enlisted_attend now errand))
    (List.Subset.refl _) (List.Subset.refl _)

/-- Every strategy goes on in its place, and whoever was in the chain still is. -/
structure Continues (board board' : Switchboard) : Prop where
  count : board'.strategies.length = board.strategies.length
  becomes : ∀ {number : Nat} {s : Strategy}, board.strategies[number]? = some s →
    ∃ s', board'.strategies[number]? = some s' ∧ s.Becomes s'
  enlisted : board.enlisted ⊆ board'.enlisted

theorem Continues.of_same (same : board'.strategies = board.strategies)
    (enlisted : board.enlisted ⊆ board'.enlisted) : board.Continues board' :=
  ⟨congrArg List.length same, fun known => ⟨_, same ▸ known, .same _⟩, enlisted⟩

theorem Continues.refl (board : Switchboard) : board.Continues board :=
  .of_same rfl (List.Subset.refl _)

theorem Continues.trans {board'' : Switchboard} (first : board.Continues board')
    (next : board'.Continues board'') : board.Continues board'' := by
  refine ⟨next.count.trans first.count, ?_, List.Subset.trans first.enlisted next.enlisted⟩
  intro number s known
  obtain ⟨s', known', becomes⟩ := first.becomes known
  obtain ⟨s'', known'', further⟩ := next.becomes known'
  exact ⟨s'', known'', becomes.trans further⟩

/-- Nobody stands in a place where nobody stood. -/
theorem Continues.origin (h : board.Continues board') {number : Nat} {s' : Strategy}
    (known' : board'.strategies[number]? = some s') :
    ∃ s, board.strategies[number]? = some s ∧ s.Becomes s' := by
  have inside := (List.getElem?_eq_some_iff.mp known').1
  rw [h.count] at inside
  have known := List.getElem?_eq_getElem inside
  obtain ⟨t, there, becomes⟩ := h.becomes known
  rw [known'] at there
  cases there
  exact ⟨_, known, becomes⟩

/-- What does not change as a strategy goes on can be read off the board before. -/
theorem Continues.map {α : Type} (h : board.Continues board') (f : Strategy → α)
    (same : ∀ {s s' : Strategy}, s.Becomes s' → f s' = f s) (number : Nat) :
    board'.strategies[number]?.map f = board.strategies[number]?.map f := by
  cases known' : board'.strategies[number]? with
  | some s' =>
      obtain ⟨s, known, becomes⟩ := h.origin known'
      rw [known, Option.map_some, Option.map_some, same becomes]
  | none =>
      cases known : board.strategies[number]? with
      | none => rfl
      | some s =>
          obtain ⟨s', there, -⟩ := h.becomes known
          rw [known'] at there
          cases there

theorem continues_replace {number : Nat} {s s' : Strategy}
    (known : board.strategies[number]? = some s) (becomes : s.Becomes s') :
    board.Continues (board.replace number s') := by
  refine ⟨List.length_set, ?_, List.Subset.refl _⟩
  intro other t there
  change ∃ t', (board.strategies.set number s')[other]? = some t' ∧ t.Becomes t'
  have inside := (List.getElem?_eq_some_iff.mp there).1
  rw [List.getElem?_set]
  by_cases here : number = other
  · subst here
    rw [known] at there
    cases there
    exact ⟨s', by rw [if_pos rfl, if_pos inside], becomes⟩
  · exact ⟨t, by rw [if_neg here, there], .same t⟩

theorem Event.continues (event : Event board board') : board.Continues board' := by
  cases event with
  | served requests =>
      exact .of_same (strategies_serveAll requests board) (enlisted_serveAll requests board)
  | replaced known becomes => exact continues_replace known becomes
  | enlisted number => exact .of_same (strategies_enlist number board) (enlisted_enlist number board)
  | noted => exact .of_same rfl (List.Subset.refl _)
  | refreshed => exact .of_same rfl (List.Subset.refl _)
  | subscribed => exact .of_same rfl (List.Subset.refl _)
  | dismissed => exact .of_same rfl (List.Subset.refl _)

theorem Events.continues (events : Events board board') : board.Continues board' :=
  Events.keeps (P := board.Continues) (fun _ _ before event => before.trans event.continues)
    (.refl board) events

theorem judge_verdict {number : Nat} {s : Strategy} (known : board.strategies[number]? = some s)
    (probe : Probe) : (board.judge number probe).1 = s.collect board.settings probe := by
  rw [judge, known]
  cases s <;> rfl

/-- A strategy that rejects a probe whatever the settings decides about it, whoever else judges. -/
theorem judgeAll_refused {number : Nat} {s : Strategy} {probe : Probe}
    (known : board.strategies[number]? = some s)
    (refuses : ∀ settings, s.collect settings probe = .done false) {numbers : List Nat}
    (listed : number ∈ numbers) : (board.judgeAll probe numbers).1 = false := by
  induction numbers generalizing board s with
  | nil => cases listed
  | cons first rest ih =>
      by_cases rejected : (board.judge first probe).1 = .done false
      · rw [judgeAll_rejected rejected]
      · rw [judgeAll_passed rejected]
        rcases List.mem_cons.mp listed with here | later
        · subst here
          exact absurd ((judge_verdict known probe).trans (refuses _)) rejected
        · obtain ⟨s', known', becomes⟩ := (events_judge first probe board).continues.becomes known
          exact ih known' (fun settings => (becomes.collect settings probe).trans (refuses settings))
            later

/-- What the chain rests on: its strategies are on the board, and it is told of changes. -/
structure Wired (board : Switchboard) : Prop where
  known : ∀ number ∈ board.enlisted, number < board.strategies.length
  listening : ∃ id, (id, .chain) ∈ board.subscribers

theorem Wired.enlist (h : board.Wired) (number : Nat) : (board.enlist number).Wired := by
  unfold Switchboard.enlist
  split
  · exact h
  · rename_i found
    refine ⟨?_, h.listening⟩
    intro other member
    rcases List.mem_append.mp member with before | new
    · exact h.known other before
    · rw [List.mem_singleton.mp new]
      exact (List.getElem?_eq_some_iff.mp found).1

theorem Wired.dismiss (h : board.Wired) (id : Nat) : (board.dismiss id).Wired := by
  obtain ⟨own, member⟩ := h.listening
  refine ⟨h.known, own, List.mem_filter.mpr ⟨member, ?_⟩⟩
  exact Bool.or_eq_true _ _ ▸ .inr rfl

theorem Wired.attend (h : board.Wired) (errand : Errand) : (board.attend errand).1.Wired := by
  have attended := attends board errand
  generalize board.attend errand = result at attended
  cases attended with
  | enlisted => exact h.enlist _
  | dismissed => exact h.dismiss _
  | _ => exact ⟨h.known, h.listening⟩

theorem Wired.serveAll (h : board.Wired) (requests : List Request) :
    (board.serveAll requests).Wired :=
  serveAll_keeps (P := fun board _ => board.Wired) (fun _ errand _ wired => wired.attend errand) h h

theorem Wired.replace (h : board.Wired) (number : Nat) (s : Strategy) :
    (board.replace number s).Wired := by
  refine ⟨?_, h.listening⟩
  intro other member
  change other < (board.strategies.set number s).length
  rw [List.length_set]
  exact h.known other member

theorem Wired.event (h : board.Wired) (event : Event board board') : board'.Wired := by
  cases event with
  | served requests => exact h.serveAll requests
  | replaced => exact h.replace _ _
  | enlisted number => exact h.enlist number
  | subscribed =>
      obtain ⟨own, member⟩ := h.listening
      exact ⟨h.known, own, List.mem_append_left _ member⟩
  | dismissed id => exact h.dismiss id
  | noted => exact ⟨h.known, h.listening⟩
  | refreshed => exact ⟨h.known, h.listening⟩

theorem getElem?_add {number : Nat} (known : number < board.strategies.length) (s : Strategy) :
    (board.add s).2.strategies[number]? = board.strategies[number]? :=
  List.getElem?_append_left known

theorem Wired.add (h : board.Wired) (s : Strategy) : (board.add s).2.Wired := by
  refine ⟨?_, h.listening⟩
  intro number member
  change number < (board.strategies ++ [s]).length
  rw [List.length_append]
  exact Nat.lt_add_right _ (h.known number member)

theorem Wired.step (h : board.Wired) (call : Call) : (step board call).2.Wired :=
  step_keeps (fun _ _ h event => h.event event) h (fun s _ => h.add s)
    fun number _ _ _ _ => h.replace number _

/-- A chain that has just come to its settings. -/
theorem Bare.wired (h : board.Bare) : (board.subscribe .chain).2.Wired := by
  refine ⟨?_, board.nextId, List.mem_append_right _ List.mem_cons_self⟩
  intro number member
  rw [show (board.subscribe .chain).2.enlisted = [] from h.enlisted] at member
  cases member

end

end Switchboard
end SpanCapture
