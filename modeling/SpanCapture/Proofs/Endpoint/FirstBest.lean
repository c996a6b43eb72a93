import SpanCapture.Endpoint.Analyzer

/-! The best of a row of candidates. Taking candidates up one after another, each only if it
beats what was taken before, leaves the first of those with the greatest score. The row may be
cut anywhere and the best of the parts taken first, so it does not matter that each frame is
decided on its own. What a register locates is the best of its candidates for the frame. -/
namespace SpanCapture
namespace Endpoint

/-- The first candidate of the greatest score: all before it score less, and none after it scores
more. -/
def FirstBest (found : Endpoint) (candidates : List Endpoint) : Prop :=
  ∃ before after, candidates = before ++ found :: after ∧
    (∀ c ∈ before, c.score < found.score) ∧ ∀ c ∈ after, c.score ≤ found.score

/-- What is left of candidates that are taken up one after another. -/
def bestOf (candidates : List Endpoint) : Option Endpoint :=
  candidates.foldl (fun best candidate => prefer best (some candidate)) none

section
variable {found c : Endpoint} {candidates : List Endpoint}

theorem FirstBest.mem (h : FirstBest found candidates) : found ∈ candidates := by
  obtain ⟨before, after, rfl, -, -⟩ := h
  exact List.mem_append_right before List.mem_cons_self

theorem FirstBest.score_le (h : FirstBest found candidates) (member : c ∈ candidates) :
    c.score ≤ found.score := by
  obtain ⟨before, after, rfl, less, noMore⟩ := h
  rcases List.mem_append.mp member with member | member
  · exact Int.le_of_lt (less c member)
  · rcases List.mem_cons.mp member with rfl | member
    · exact Int.le_refl _
    · exact noMore c member

/-- A candidate that scores less may stand in front. -/
theorem FirstBest.cons (h : FirstBest found candidates) (less : c.score < found.score) :
    FirstBest found (c :: candidates) := by
  obtain ⟨before, after, rfl, others, noMore⟩ := h
  exact ⟨c :: before, after, rfl, List.forall_mem_cons.mpr ⟨less, others⟩, noMore⟩

theorem prefer_none_left (candidate : Option Endpoint) : prefer none candidate = candidate := by
  cases candidate <;> rfl

theorem prefer_some (current candidate : Endpoint) :
    prefer (some current) (some candidate) =
      if current.score < candidate.score then some candidate else some current := by
  simp only [prefer, beats_some]

theorem prefer_assoc (a b c : Option Endpoint) :
    prefer (prefer a b) c = prefer a (prefer b c) := by
  cases c with
  | none => rfl
  | some z =>
      cases b with
      | none => rw [prefer_none_left]; rfl
      | some y =>
          cases a with
          | none => rw [prefer_none_left, prefer_none_left]
          | some x =>
              rw [prefer_some, prefer_some]
              by_cases first : x.score < y.score <;> by_cases second : y.score < z.score
              · rw [if_pos first, if_pos second, prefer_some, prefer_some, if_pos second,
                  if_pos (Int.lt_trans first second)]
              · rw [if_pos first, if_neg second, prefer_some, prefer_some, if_neg second,
                  if_pos first]
              · rw [if_neg first, if_pos second]
              · rw [if_neg first, if_neg second, prefer_some, prefer_some, if_neg first, if_neg]
                omega

theorem foldl_prefer (current : Option Endpoint) (candidates : List Endpoint) :
    candidates.foldl (fun best candidate => prefer best (some candidate)) current =
      prefer current (bestOf candidates) := by
  induction candidates generalizing current with
  | nil => rfl
  | cons c rest ih =>
      rw [bestOf, List.foldl_cons, List.foldl_cons, ih, ih, prefer_none_left, prefer_assoc]

theorem bestOf_cons (c : Endpoint) (rest : List Endpoint) :
    bestOf (c :: rest) = prefer (some c) (bestOf rest) := by
  rw [bestOf, List.foldl_cons, foldl_prefer, prefer_none_left]

/-- The best of a row is the best of the best of its parts. -/
theorem bestOf_append (a b : List Endpoint) : bestOf (a ++ b) = prefer (bestOf a) (bestOf b) := by
  rw [bestOf, List.foldl_append, foldl_prefer, foldl_prefer, prefer_none_left]

theorem bestOf_eq_none_iff : bestOf candidates = none ↔ candidates = [] := by
  cases candidates with
  | nil => exact ⟨fun _ => rfl, fun _ => rfl⟩
  | cons c rest =>
      rw [bestOf_cons]
      cases bestOf rest with
      | none => exact ⟨nofun, nofun⟩
      | some d =>
          rw [prefer_some]
          split <;> exact ⟨nofun, nofun⟩

theorem firstBest_of_bestOf (best : bestOf candidates = some found) :
    FirstBest found candidates := by
  induction candidates generalizing found with
  | nil => cases best
  | cons c rest ih =>
      rw [bestOf_cons] at best
      cases later : bestOf rest with
      | none =>
          rw [later] at best
          cases best
          exact ⟨[], rest, rfl, nofun, by rw [bestOf_eq_none_iff.mp later]; exact nofun⟩
      | some d =>
          rw [later, prefer_some] at best
          split at best
          · rename_i less
            cases best
            exact (ih later).cons less
          · rename_i noMore
            cases best
            refine ⟨[], rest, rfl, nofun, fun other member => ?_⟩
            exact Int.le_trans ((ih later).score_le member) (Int.not_lt.mp noMore)

/-- A candidate in front is the best just if none after it scores more. -/
theorem bestOf_cons_cases (c : Endpoint) (rest : List Endpoint) :
    ((∃ d ∈ rest, c.score < d.score) ∧
        ∃ found, bestOf (c :: rest) = some found ∧ found.FirstBest rest ∧ found ≠ c) ∨
      ((¬ ∃ d ∈ rest, c.score < d.score) ∧ bestOf (c :: rest) = some c) := by
  rw [bestOf_cons]
  cases best : bestOf rest with
  | none =>
      rw [bestOf_eq_none_iff.mp best]
      exact .inr ⟨by simp, rfl⟩
  | some found =>
      have first := firstBest_of_bestOf best
      rw [prefer_some]
      by_cases more : c.score < found.score
      · refine .inl ⟨⟨found, first.mem, more⟩, found, if_pos more, first, ?_⟩
        rintro rfl
        exact Int.lt_irrefl _ more
      · refine .inr ⟨?_, if_neg more⟩
        rintro ⟨d, member, greater⟩
        exact more (Int.lt_of_lt_of_le greater (first.score_le member))

/-- The greatest score does not depend on the order of the candidates. -/
theorem score_bestOf_perm {a b : List Endpoint} (perm : a.Perm b) :
    (bestOf a).map score = (bestOf b).map score := by
  cases first : bestOf a with
  | none =>
      rw [bestOf_eq_none_iff.mp first, List.nil_perm] at perm
      rw [perm]
      rfl
  | some x =>
      cases second : bestOf b with
      | none =>
          rw [bestOf_eq_none_iff.mp second, List.perm_nil] at perm
          rw [perm] at first
          cases first
      | some y =>
          have x := firstBest_of_bestOf first
          have y := firstBest_of_bestOf second
          exact congrArg some (Int.le_antisymm (y.score_le (perm.mem_iff.mp x.mem))
            (x.score_le (perm.mem_iff.mpr y.mem)))

end

end Endpoint

def Analyzer.proposal? (op : Operation) (frame depth : Nat) (analyzer : Analyzer) :
    Option Endpoint :=
  match analyzer.locate op frame depth with
  | .done candidate => candidate
  | .crashed _ => none

theorem Analyzer.locate_of_proposal {op : Operation} {frame depth : Nat} {analyzer : Analyzer}
    {c : Endpoint} (proposed : analyzer.proposal? op frame depth = some c) :
    analyzer.locate op frame depth = .done (some c) := by
  unfold proposal? at proposed
  split at proposed
  · rename_i located
    rw [located, proposed]
  · cases proposed

namespace AnalyzerRegister

/-- What the analyzers that declare the kind of an operation propose for its frame, first come
first. None of them is asked when a frame above has the same kind. -/
def proposals (op : Operation) (frame depth : Nat) (above : List String)
    (register : AnalyzerRegister) : List Endpoint :=
  if op.kind ∈ above then []
  else (register.filter fun analyzer => op.kind ∈ analyzer.kinds).filterMap
    (Analyzer.proposal? op frame depth)

/-- The candidates for a frame below frames of the given kinds: what is proposed for it, and the
fallback where nothing is proposed for a root. -/
def candidates (op : Operation) (frame depth : Nat) (above : List String)
    (register : AnalyzerRegister) : List Endpoint :=
  if register.proposals op frame depth above = [] ∧ above = [] then
    [Analyzer.fallbackCandidate op frame]
  else register.proposals op frame depth above

section
variable {op : Operation} {frame depth : Nat} {above : List String} {register : AnalyzerRegister}
  {current found : Option Endpoint}

theorem best_done {analyzers : List Analyzer}
    (done : best op frame depth current analyzers = .done found) :
    found = Endpoint.prefer current
      (Endpoint.bestOf (analyzers.filterMap (Analyzer.proposal? op frame depth))) := by
  induction analyzers generalizing current with
  | nil =>
      cases done
      rfl
  | cons analyzer rest ih =>
      rw [best] at done
      split at done
      · cases done
      · rename_i candidate located
        have proposed : analyzer.proposal? op frame depth = candidate := by
          rw [Analyzer.proposal?, located]
        rw [ih done, List.filterMap_cons, proposed, Endpoint.prefer_assoc]
        cases candidate with
        | none => rw [Endpoint.prefer_none_left]
        | some c => rw [Endpoint.bestOf_cons]

theorem filterMap_relevant (op : Operation) (frame depth : Nat) (above : List String)
    (register : AnalyzerRegister) :
    (register.relevant op above).filterMap (Analyzer.proposal? op frame depth) =
      register.proposals op frame depth above := by
  rw [relevant, proposals]
  by_cases nested : op.kind ∈ above
  · rw [if_pos nested, if_pos (List.contains_iff_mem.mpr nested)]
    rfl
  · rw [if_neg nested, if_neg fun inside => nested (List.contains_iff_mem.mp inside)]
    simp only [List.contains_eq_mem]

/-- A register that crashes nowhere locates the best of its candidates. -/
theorem locate_done (done : register.locate op frame depth above = .done found) :
    found = Endpoint.bestOf (register.candidates op frame depth above) := by
  rw [locate] at done
  cases answered : best op frame depth none (register.relevant op above) with
  | crashed message =>
      rw [answered] at done
      cases done
  | done proposed =>
      have best := best_done answered
      rw [Endpoint.prefer_none_left, filterMap_relevant] at best
      rw [answered] at done
      rw [← Outcome.done.inj done, best, candidates]
      simp only [Bool.and_eq_true, Option.isNone_iff_eq_none, List.isEmpty_iff,
        Endpoint.bestOf_eq_none_iff]
      split <;> rfl

/-- There is always a candidate for a root. -/
theorem candidates_root (op : Operation) (frame depth : Nat) (register : AnalyzerRegister) :
    register.candidates op frame depth [] ≠ [] := by
  unfold candidates
  split
  · exact List.cons_ne_nil _ _
  · rename_i proposed
    exact fun none => proposed ⟨none, rfl⟩

/-- Every candidate is what an analyzer answered for the frame, be it the fallback. -/
theorem located_of_mem_candidates {c : Endpoint}
    (member : c ∈ register.candidates op frame depth above) :
    ∃ analyzer ∈ Analyzer.fallback :: register,
      analyzer.locate op frame depth = .done (some c) := by
  unfold candidates at member
  split at member
  · rw [List.mem_singleton.mp member]
    exact ⟨Analyzer.fallback, List.mem_cons_self, rfl⟩
  · unfold proposals at member
    split at member
    · cases member
    · obtain ⟨analyzer, asked, proposed⟩ := List.mem_filterMap.mp member
      exact ⟨analyzer, List.mem_cons_of_mem _ (List.mem_filter.mp asked).1,
        Analyzer.locate_of_proposal proposed⟩

end

end AnalyzerRegister
end SpanCapture
