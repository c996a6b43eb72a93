import SpanCapture.Proofs.Endpoint.FirstBest

/-! Ties between candidates. Within one frame a tie goes to whoever was registered first, so the
order of a register decides what a candidate is called. It decides nothing else: whether the search
crashes, which score is the greatest and which frame it is for are the same in every order. -/
namespace SpanCapture

/-- Both calls end alike: with related answers, or both in a crash. -/
inductive Outcome.Both {α β : Type} (R : α → β → Prop) : Outcome α → Outcome β → Prop
  | done {a : α} {b : β} : R a b → Both R (.done a) (.done b)
  | crashed {m n : String} : Both R (.crashed m) (.crashed n)

namespace Endpoint

/-- What of an endpoint decides later on: its score, and the frame that has the mark. -/
def rank (e : Endpoint) : Int × Nat := (e.score, e.frame)

/-- Endpoints of the same rank, or none on both sides. -/
def Ties (a b : Option Endpoint) : Prop := a.map rank = b.map rank

section
variable {a b : Option Endpoint} {x y : Endpoint}

theorem ties_some : Ties (some x) (some y) ↔ x.score = y.score ∧ x.frame = y.frame := by
  simp [Ties, rank]

/-- Endpoints of the same rank are there on both sides or on none. -/
theorem Ties.cases (h : Ties a b) : (a = none ∧ b = none) ∨
    ∃ x y, a = some x ∧ b = some y ∧ x.score = y.score ∧ x.frame = y.frame := by
  cases a with
  | none => exact .inl ⟨rfl, Option.map_eq_none_iff.mp (Eq.symm h)⟩
  | some x =>
      obtain ⟨y, there, same⟩ := Option.map_eq_some_iff.mp (Eq.symm h)
      subst there
      exact .inr ⟨x, y, rfl, rfl, ties_some.mp (congrArg some same.symm)⟩

theorem Ties.score (h : Ties a b) : a.map Endpoint.score = b.map Endpoint.score := by
  have same := congrArg (Option.map Prod.fst) h
  rwa [Option.map_map, Option.map_map] at same

theorem Ties.frame (h : Ties a b) : a.map Endpoint.frame = b.map Endpoint.frame := by
  have same := congrArg (Option.map Prod.snd) h
  rwa [Option.map_map, Option.map_map] at same

theorem Ties.isNone (h : Ties a b) : a.isNone = b.isNone := by
  have same := congrArg Option.isNone h
  rwa [Option.isNone_map, Option.isNone_map] at same

theorem Ties.beats (h : Ties a b) (same : x.score = y.score) : x.beats a = y.beats b := by
  rcases h.cases with ⟨rfl, rfl⟩ | ⟨u, v, rfl, rfl, score, -⟩
  · rfl
  · rw [Endpoint.beats, Endpoint.beats, same, score]

/-- Where all candidates are for one frame, their order does not matter for the rank of the best. -/
theorem ties_bestOf_perm {a b : List Endpoint} (frame : Nat) (perm : a.Perm b)
    (one : ∀ c ∈ a, c.frame = frame) : Ties (bestOf a) (bestOf b) := by
  have score := score_bestOf_perm perm
  cases first : bestOf a with
  | none =>
      rw [first] at score
      rw [Option.map_eq_none_iff.mp score.symm]
      rfl
  | some x =>
      rw [first] at score
      obtain ⟨y, second, same⟩ := Option.map_eq_some_iff.mp score.symm
      rw [second]
      refine ties_some.mpr ⟨same.symm, ?_⟩
      rw [one x (firstBest_of_bestOf first).mem,
        one y (perm.mem_iff.mpr (firstBest_of_bestOf second).mem)]

end

end Endpoint

namespace AnalyzerRegister

section
variable {op : Operation} {frame depth : Nat} {above : List String}
  {register other : AnalyzerRegister}

/-- A search crashes just if one of the analyzers asked does. -/
theorem best_isDone (current : Option Endpoint) (analyzers : List Analyzer) :
    (best op frame depth current analyzers).isDone ↔
      ∀ analyzer ∈ analyzers, (analyzer.locate op frame depth).isDone := by
  induction analyzers generalizing current with
  | nil => simp [best]
  | cons analyzer rest ih =>
      rw [best, List.forall_mem_cons]
      cases analyzer.locate op frame depth with
      | crashed message => simp
      | done candidate => simp [ih]

theorem relevant_sublist (op : Operation) (above : List String) (register : AnalyzerRegister) :
    (register.relevant op above).Sublist register := by
  unfold relevant
  split
  · exact List.nil_sublist register
  · exact List.filter_sublist

theorem relevant_perm (perm : register.Perm other) :
    (register.relevant op above).Perm (other.relevant op above) := by
  unfold relevant
  split
  · exact .nil
  · exact perm.filter _

/-- Where all analyzers answer for the frame they were asked about, the order in which they are
asked decides nothing but what the candidate is called. -/
theorem best_perm {analyzers others : List Analyzer} (perm : analyzers.Perm others)
    (one : ∀ analyzer ∈ analyzers, ∀ c, analyzer.locate op frame depth = .done (some c) →
      c.frame = frame) :
    Outcome.Both Endpoint.Ties (best op frame depth none analyzers)
      (best op frame depth none others) := by
  have alike : (best op frame depth none analyzers).isDone ↔
      (best op frame depth none others).isDone := by
    rw [best_isDone, best_isDone]
    exact forall_congr' fun analyzer => imp_congr_left perm.mem_iff
  cases first : best op frame depth none analyzers with
  | crashed message =>
      cases second : best op frame depth none others with
      | crashed message => exact .crashed
      | done found => simp [first, second] at alike
  | done found =>
      cases second : best op frame depth none others with
      | crashed message => simp [first, second] at alike
      | done next =>
          have found := best_done first
          have next := best_done second
          rw [Endpoint.prefer_none_left] at found next
          rw [found, next]
          refine .done (Endpoint.ties_bestOf_perm frame (perm.filterMap _) fun c member => ?_)
          obtain ⟨analyzer, asked, proposed⟩ := List.mem_filterMap.mp member
          exact one analyzer asked c (Analyzer.locate_of_proposal proposed)

/-- In whatever order the analyzers were registered, what they locate for a frame is of the same
rank. -/
theorem locate_perm (perm : register.Perm other)
    (one : ∀ analyzer ∈ register, ∀ c, analyzer.locate op frame depth = .done (some c) →
      c.frame = frame) :
    Outcome.Both Endpoint.Ties (register.locate op frame depth above)
      (other.locate op frame depth above) := by
  have found : Outcome.Both Endpoint.Ties
      (best op frame depth none (register.relevant op above))
      (best op frame depth none (other.relevant op above)) :=
    best_perm (relevant_perm perm) fun analyzer asked =>
      one analyzer ((relevant_sublist op above register).subset asked)
  unfold locate
  generalize best op frame depth none (register.relevant op above) = here at found
  generalize best op frame depth none (other.relevant op above) = there at found
  cases found with
  | crashed => exact .crashed
  | @done a b ties =>
      refine .done ?_
      dsimp only
      rw [ties.isNone]
      split
      · rfl
      · exact ties

end

end AnalyzerRegister
end SpanCapture
