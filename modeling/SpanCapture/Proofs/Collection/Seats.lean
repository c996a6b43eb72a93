import SpanCapture.Proofs.Collection.Members

/-! The seat of a strategy. A strategy keeps its number, and goes on as it is through all that is
not meant for its kind: collecting notes call sites, a decision about a root moves on a counter of
roots, what is said of an aspect goes into a ledger of aspects. -/
namespace SpanCapture
namespace Switchboard

/-- The strategy of a number, as it is. -/
def Seats (board : Switchboard) (number : Nat) (s : Strategy) : Prop :=
  board.strategies[number]? = some s

section
variable {board board' : Switchboard} {number other : Nat} {s t : Strategy} {probe : Probe}

theorem Seats.congr (h : board.Seats number s) (same : board'.strategies = board.strategies) :
    board'.Seats number s := by
  rw [Seats, same]
  exact h

theorem Seats.serveAll (h : board.Seats number s) (requests : List Request) :
    (board.serveAll requests).Seats number s :=
  h.congr (strategies_serveAll requests board)

theorem Seats.replace_of_ne (h : board.Seats number s) (apart : other ≠ number) (t : Strategy) :
    (board.replace other t).Seats number s := by
  change (board.strategies.set other t)[number]? = _
  rw [List.getElem?_set_ne apart]
  exact h

/-- Another strategy that goes on has another number. -/
theorem Seats.replace (h : board.Seats number s) (known : board.strategies[other]? = some t)
    (differs : t ≠ s) (t' : Strategy) : (board.replace other t').Seats number s := by
  refine h.replace_of_ne ?_ t'
  rintro rfl
  exact differs (Option.some.inj (known.symm.trans h))

theorem seats_replace_self (known : (board.strategies[number]?).isSome) (s : Strategy) :
    (board.replace number s).Seats number s := by
  obtain ⟨t, known⟩ := Option.isSome_iff_exists.mp known
  exact List.getElem?_set_self (List.getElem?_eq_some_iff.mp known).1

theorem Seats.note (h : board.Seats number s) (event : BoardEvent) :
    (board.note event).Seats number s := h

theorem Seats.register (h : board.Seats number s) (name : String) (value : Value) :
    (board.register name value).2.Seats number s := by
  unfold Switchboard.register
  split
  · exact h
  · exact h.serveAll _

/-- What does not note call sites is shown a probe and stays as it is. -/
theorem Seats.observe (h : board.Seats number s) (lasting : ∀ sites, s ≠ .callSites sites)
    (other : Nat) (probe : Probe) : (board.observe other probe).2.Seats number s := by
  unfold Switchboard.observe
  split
  · exact h
  · exact (h.note _).serveAll _
  · rename_i t _ known
    split
    · exact h
    · rename_i switch _
      refine Seats.register ?_ switch _
      by_cases same : t = s
      · subst same
        have unchanged : t.remember board.settings switch = t := by
          cases t with
          | callSites sites => exact absurd rfl (lasting sites)
          | _ => rfl
        rw [unchanged]
        refine h.congr (List.ext_getElem? fun i => ?_)
        change (board.strategies.set other t)[i]? = _
        by_cases here : other = i
        · subst here
          rw [List.getElem?_set_self (List.getElem?_eq_some_iff.mp known).1, known]
        · rw [List.getElem?_set_ne here]
      · exact h.replace known same _

theorem Seats.judge (h : board.Seats number s) (other : Nat) (probe : Probe) :
    (board.judge other probe).2.Seats number s := by
  unfold Switchboard.judge
  split
  · exact h
  · exact (h.note _).serveAll _
  · exact h

theorem Seats.observeAll (h : board.Seats number s) (lasting : ∀ sites, s ≠ .callSites sites)
    (probe : Probe) (numbers : List Nat) : (board.observeAll probe numbers).Seats number s := by
  induction numbers generalizing board with
  | nil => exact h
  | cons other rest ih => exact ih (h.observe lasting other probe)

theorem Seats.judgeAll (h : board.Seats number s) (probe : Probe) (numbers : List Nat) :
    (board.judgeAll probe numbers).2.Seats number s := by
  induction numbers generalizing board with
  | nil => exact h
  | cons other rest ih =>
      have judged := h.judge other probe
      by_cases rejected : (board.judge other probe).1 = .done false
      · rw [judgeAll_rejected rejected]
        exact judged
      · rw [judgeAll_passed rejected]
        exact ih judged

theorem Seats.collect (h : board.Seats number s) (lasting : ∀ sites, s ≠ .callSites sites)
    (probe : Probe) : (board.collect probe).2.Seats number s :=
  (h.observeAll lasting probe _).judgeAll probe _

theorem Seats.add (h : board.Seats number s) (t : Strategy) : (board.add t).2.Seats number s :=
  (getElem?_add (List.getElem?_eq_some_iff.mp h).1 t).trans h

theorem Seats.ignoreApplications (h : board.Seats number s)
    (others : ∀ applications, s ≠ .ignored applications) (other : Nat)
    (applications : List String) :
    (board.ignoreApplications other applications).Seats number s := by
  rcases ignoreApplications_cases other applications board with same | ⟨old, known, pushed⟩
  · rwa [same]
  · rw [pushed]
    exact (h.replace known (Ne.symm (others old)) _).serveAll _

/-- What is said of aspects goes into a ledger of aspects. -/
theorem Seats.withLedger (h : board.Seats number s) (apart : other ≠ number ∨ ∀ l, s ≠ .aspects l)
    (change : AspectLedger → AspectLedger) : (board.withLedger other change).Seats number s := by
  unfold Switchboard.withLedger
  split
  · rename_i ledger known
    unfold ledger? at known
    split at known
    · rename_i found
      rcases apart with elsewhere | otherwise
      · exact h.replace_of_ne elsewhere _
      · exact h.replace found (Ne.symm (otherwise _)) _
    · cases known
  · exact h

theorem Seats.disableAspect (h : board.Seats number s)
    (apart : other ≠ number ∨ ∀ l, s ≠ .aspects l) (aspect plugin reason : String) :
    (board.disableAspect other aspect plugin reason).Seats number s :=
  (h.withLedger apart _).serveAll _

theorem Seats.enableAspect (h : board.Seats number s)
    (apart : other ≠ number ∨ ∀ l, s ≠ .aspects l) (aspect : String) :
    (board.enableAspect other aspect).Seats number s :=
  (h.withLedger apart _).serveAll _

theorem Seats.recordFailure (h : board.Seats number s)
    (apart : other ≠ number ∨ ∀ l, s ≠ .aspects l) (aspect plugin reason : String) :
    (board.recordFailure other aspect plugin reason).2.Seats number s := by
  have counted := h.withLedger apart (·.countFailure aspect)
  unfold Switchboard.recordFailure
  dsimp only
  split
  · exact counted
  · split
    · exact counted.disableAspect apart aspect plugin reason
    · exact counted

/-- A decision about a root moves on a counter of roots. -/
theorem Seats.decideRoot (h : board.Seats number s)
    (apart : other ≠ number ∨ ∀ t, s ≠ .endpoints t) :
    (board.decideRoot other).2.Seats number s := by
  unfold Switchboard.decideRoot
  split
  · rename_i tracker known
    rcases apart with elsewhere | otherwise
    · exact h.replace_of_ne elsewhere _
    · exact h.replace known (Ne.symm (otherwise _)) _
  · exact h

end

end Switchboard
end SpanCapture
