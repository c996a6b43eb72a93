import SpanCapture.Endpoint.Analyzer

/-! The score of an analyzer that takes a penalty off for each level, against the same sum done in
whole numbers. Levels, penalty and score each stop at an end of the range, and what was cut off on
the way is missing at the end: the score is the exact one brought into the range just if the cut
makes no difference there. In whatever way it is cut, a deeper match scores no more than a match
above it, and it scores less as long as nothing was cut off above. -/
namespace SpanCapture

def Endpoint.InRange (i : Int) : Prop := leastScore ≤ i ∧ i ≤ greatestScore

instance (i : Int) : Decidable (Endpoint.InRange i) := inferInstanceAs (Decidable (_ ∧ _))

namespace Analyzer
open Endpoint

def levels (depth : Nat) : Int := (depth - 1 : Nat)

def loss (penalty : Int) (depth : Nat) : Int := penalty * levels depth

/-- What is taken off a base score at a depth. -/
def deduction (penalty : Int) (depth : Nat) : Int :=
  clampScore (penalty * min (levels depth) greatestScore)

/-- The score in whole numbers, brought into the range once and at the end. -/
def exactScore (base penalty : Int) (depth : Nat) : Int := clampScore (base - loss penalty depth)

/-- What the ends of the range cut off on the way makes no difference. A loss above the range does
not where the base is negative. A gain beyond it does not where the base is at least -1, and at
least 0 if the levels were too many for a penalty of -1. -/
def CutHarmless (base penalty : Int) (depth : Nat) : Prop :=
  (greatestScore < loss penalty depth → base < 0) ∧
    (loss penalty depth < leastScore → -1 ≤ base) ∧
    (penalty = -1 → loss penalty depth ≤ leastScore → 0 ≤ base)

instance (base penalty : Int) (depth : Nat) : Decidable (CutHarmless base penalty depth) :=
  inferInstanceAs (Decidable (_ ∧ _))

section
variable {base penalty : Int} {depth deeper : Nat}

theorem levelScore_eq (base penalty : Int) (depth : Nat) :
    levelScore base penalty depth = clampScore (base - deduction penalty depth) := rfl

theorem leastScore_eq : leastScore = -2147483648 := rfl

theorem greatestScore_eq : greatestScore = 2147483647 := rfl

theorem levels_nonneg (depth : Nat) : 0 ≤ levels depth := Int.natCast_nonneg _

theorem loss_nonneg (nonneg : 0 ≤ penalty) (depth : Nat) : 0 ≤ loss penalty depth :=
  Int.mul_nonneg nonneg (levels_nonneg depth)

theorem loss_lt_loss (positive : 0 < penalty) (below : depth - 1 < deeper - 1) :
    loss penalty depth < loss penalty deeper :=
  Int.mul_lt_mul_of_pos_left (Int.ofNat_lt.mpr below) positive

theorem loss_le_loss (nonneg : 0 ≤ penalty) (below : depth ≤ deeper) :
    loss penalty depth ≤ loss penalty deeper :=
  Int.mul_le_mul_of_nonneg_left (Int.ofNat_le.mpr (Nat.sub_le_sub_right below 1)) nonneg

/-- Where the levels fit, only the product of both is cut off. -/
theorem deduction_of_few (fits : levels depth ≤ greatestScore) :
    deduction penalty depth = clampScore (loss penalty depth) := by
  rw [deduction, Int.min_eq_left fits, loss]

/-- Where they do not, any penalty but 0 and -1 takes loss and deduction to the same end. -/
theorem deduction_of_many (penalty : Int) (many : greatestScore < levels depth) :
    (penalty < -1 ∧ loss penalty depth < -greatestScore ∧ deduction penalty depth = leastScore) ∨
      (penalty = -1 ∧ loss penalty depth < -greatestScore ∧
        deduction penalty depth = -greatestScore) ∨
      (penalty = 0 ∧ loss penalty depth = 0 ∧ deduction penalty depth = 0) ∨
      (0 < penalty ∧ greatestScore < loss penalty depth ∧
        deduction penalty depth = greatestScore) := by
  have nonneg := levels_nonneg depth
  rw [deduction, loss, Int.min_eq_right (Int.le_of_lt many), clampScore]
  generalize levels depth = levels at many nonneg
  rw [greatestScore_eq] at many ⊢
  rw [leastScore_eq]
  rcases Int.lt_trichotomy penalty 0 with negative | rfl | positive
  · by_cases one : penalty = -1
    · subst one
      omega
    · have twice : penalty * levels ≤ -2 * levels :=
        Int.mul_le_mul_of_nonneg_right (by omega) nonneg
      omega
  · omega
  · have once : 1 * levels ≤ penalty * levels :=
      Int.mul_le_mul_of_nonneg_right (by omega) nonneg
    omega

/-- All that can be taken off: the loss itself where it fits, else an end of the range, or what the
greatest number of levels comes to at a penalty of -1. -/
theorem deduction_cases (penalty : Int) (depth : Nat) :
    (deduction penalty depth = loss penalty depth ∧ -greatestScore ≤ loss penalty depth ∧
        loss penalty depth ≤ greatestScore) ∨
      (greatestScore < loss penalty depth ∧ deduction penalty depth = greatestScore) ∨
      (loss penalty depth < -greatestScore ∧ penalty = -1 ∧
        deduction penalty depth = -greatestScore) ∨
      (loss penalty depth < -greatestScore ∧ penalty < -1 ∧
        deduction penalty depth = leastScore) := by
  rcases Int.lt_or_le greatestScore (levels depth) with many | few
  · have cut := deduction_of_many penalty many
    have range : -greatestScore ≤ 0 ∧ 0 ≤ greatestScore := by decide
    omega
  · rw [deduction_of_few few]
    by_cases inside : -greatestScore ≤ loss penalty depth ∧ loss penalty depth ≤ greatestScore
    · have low : leastScore ≤ -greatestScore := by decide
      exact .inl ⟨clampScore_of_inside (Int.le_trans low inside.1) inside.2, inside⟩
    · have steep : loss penalty depth < -greatestScore → penalty < -1 := by
        intro below
        rcases Int.lt_or_le penalty (-1) with steep | gentle
        · exact steep
        · have kept : -1 * levels depth ≤ loss penalty depth :=
            Int.mul_le_mul_of_nonneg_right gentle (levels_nonneg depth)
          omega
      have ends : leastScore = -greatestScore - 1 ∧ 0 ≤ greatestScore := by decide
      unfold clampScore
      omega

/-- Saturating on the way is exact just if the cut makes no difference. -/
theorem levelScore_eq_exactScore_iff (inRange : InRange base) (depth : Nat) :
    levelScore base penalty depth = exactScore base penalty depth ↔
      CutHarmless base penalty depth := by
  have cases := deduction_cases penalty depth
  have gentle : penalty = -1 → loss penalty depth = -levels depth := by
    rintro rfl
    exact Int.neg_one_mul _
  obtain ⟨low, high⟩ := inRange
  rw [levelScore_eq, exactScore, CutHarmless, clampScore, clampScore]
  rw [leastScore_eq] at low
  rw [greatestScore_eq] at high
  simp only [greatestScore_eq, leastScore_eq] at cases ⊢
  generalize deduction penalty depth = deduction at cases ⊢
  generalize loss penalty depth = loss at cases gentle ⊢
  rcases cases with ⟨rfl, inside⟩ | ⟨beyond, rfl⟩ | ⟨below, one, rfl⟩ | ⟨below, steep, rfl⟩
  · omega
  · omega
  · omega
  · omega

/-- A penalty that is not negative is taken off up to the greatest score. -/
theorem deduction_of_nonneg (nonneg : 0 ≤ penalty) (depth : Nat) :
    deduction penalty depth = min (loss penalty depth) greatestScore := by
  have cases := deduction_cases penalty depth
  omega

theorem levelScore_le (base : Int) (nonneg : 0 ≤ penalty) (below : depth ≤ deeper) :
    levelScore base penalty deeper ≤ levelScore base penalty depth := by
  have more := loss_le_loss nonneg below
  rw [levelScore_eq, levelScore_eq, deduction_of_nonneg nonneg, deduction_of_nonneg nonneg,
    clampScore, clampScore]
  omega

/-- A deeper match scores less as long as the penalties above it fit and its score can still go
down. -/
theorem levelScore_lt_iff (inRange : InRange base) (positive : 0 < penalty)
    (below : depth - 1 < deeper - 1) :
    levelScore base penalty deeper < levelScore base penalty depth ↔
      loss penalty depth < greatestScore ∧ leastScore < levelScore base penalty depth := by
  have nonneg := Int.le_of_lt positive
  have more := loss_lt_loss positive below
  have some := loss_nonneg nonneg depth
  obtain ⟨low, high⟩ := inRange
  rw [levelScore_eq, levelScore_eq, deduction_of_nonneg nonneg, deduction_of_nonneg nonneg,
    clampScore, clampScore]
  omega

/-- What a typed analyzer proposes has the score of its depth. -/
theorem score_of_located {kinds : List String} {op : Operation} {frame : Nat} {found : Endpoint}
    (located : (typed kinds base penalty).locate op frame depth = .done (some found)) :
    found.score = levelScore base penalty depth := by
  have proposed : typedCandidate kinds base penalty op frame depth = some found :=
    Outcome.done.inj located
  unfold typedCandidate at proposed
  split at proposed
  · cases proposed
    rfl
  · cases proposed

/-- The score at a depth is the exact one, brought into the range, just if the cut on the way makes
no difference. With a positive penalty a deeper match never scores more, and it scores less just if
the penalties above it come to less than the greatest score and the match above scores more than the
least. So whatever is cut off, a match keeps its place against all deeper ones of its analyzer. -/
theorem level_score_exact_iff_cut_harmless (inRange : InRange base) (penalty : Int) :
    (∀ depth, levelScore base penalty depth = exactScore base penalty depth ↔
      CutHarmless base penalty depth) ∧
    (0 < penalty → ∀ depth deeper, depth - 1 < deeper - 1 →
      levelScore base penalty deeper ≤ levelScore base penalty depth ∧
      (levelScore base penalty deeper < levelScore base penalty depth ↔
        loss penalty depth < greatestScore ∧ leastScore < levelScore base penalty depth)) ∧
    ∀ kinds op frame depth found,
      (typed kinds base penalty).locate op frame depth = .done (some found) →
      found.score = levelScore base penalty depth ∧
      ∀ op' frame' deeper later, 0 ≤ penalty → depth ≤ deeper →
        (typed kinds base penalty).locate op' frame' deeper = .done (some later) →
        later.beats (some found) = false := by
  refine ⟨levelScore_eq_exactScore_iff inRange, ?_, ?_⟩
  · intro positive depth deeper below
    have deep : depth ≤ deeper := by omega
    have noMore := levelScore_le base (Int.le_of_lt positive) deep
    exact ⟨noMore, levelScore_lt_iff inRange positive below⟩
  · intro kinds op frame depth found located
    refine ⟨score_of_located located, fun op' frame' deeper later nonneg deep deeperLocated => ?_⟩
    have noMore := levelScore_le base nonneg deep
    rw [← score_of_located located, ← score_of_located deeperLocated] at noMore
    exact Bool.eq_false_iff.mpr fun beats => Int.not_lt.mpr noMore ((beats_some _ _).mp beats)

/-- Nothing is cut off at the second level, and the third scores less; from there on the penalties
are cut off, and it makes a difference. -/
theorem second_level_exact :
    InRange 2147483647 ∧ 0 < (1073741824 : Int) ∧ CutHarmless 2147483647 1073741824 2 ∧
      levelScore 2147483647 1073741824 2 = exactScore 2147483647 1073741824 2 ∧
      levelScore 2147483647 1073741824 3 < levelScore 2147483647 1073741824 2 ∧
      ¬CutHarmless 2147483647 1073741824 3 := by
  have inRange : InRange 2147483647 := by decide
  obtain ⟨exact_iff, falls, -⟩ := level_score_exact_iff_cut_harmless inRange 1073741824
  have harmless : CutHarmless 2147483647 1073741824 2 := by decide
  exact ⟨inRange, by decide, harmless, (exact_iff 2).mpr harmless,
    (falls (by decide) 2 3 (by decide)).2.mpr (by decide), by decide⟩

/-- Two penalties come to more than the greatest score, and only that much is taken off: the third
level scores one too much, and the fourth, whose exact score is in the range as well, as much as the
third. -/
theorem cut_penalty_levels_scores :
    (¬∀ base penalty depth, InRange base → InRange penalty →
      levelScore base penalty depth = exactScore base penalty depth) ∧
    levelScore 2147483647 1073741824 3 = 0 ∧ exactScore 2147483647 1073741824 3 = -1 ∧
    levelScore 2147483647 1073741824 4 = 0 ∧
    InRange (2147483647 - loss 1073741824 4) := by
  refine ⟨fun exactly => ?_, by decide, by decide, by decide, by decide⟩
  exact absurd (exactly 2147483647 1073741824 3 (by decide) (by decide)) (by decide)

end

end Analyzer
end SpanCapture
