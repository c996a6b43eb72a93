import SpanCapture.Collection.Switchboard

/-! The order in which the strategies of a chain run. It is kept by putting each newcomer in its
place, and is the stable sort of the newcomers by priority: a list sorted by priority in which
those of one priority stand in the order they came is determined by that. -/
namespace SpanCapture
namespace Switchboard

section
variable {board board' : Switchboard} {order order' : List Nat}

/-- Nobody runs before one of a lower priority. -/
abbrev Ordered (board : Switchboard) (order : List Nat) : Prop :=
  order.Pairwise fun i j => board.priorityOf i ≤ board.priorityOf j

def ofPriority (board : Switchboard) (priority : Int) (numbers : List Nat) : List Nat :=
  numbers.filter fun number => board.priorityOf number = priority

theorem mem_ofPriority {priority : Int} {number : Nat} {numbers : List Nat} :
    number ∈ board.ofPriority priority numbers ↔
      number ∈ numbers ∧ board.priorityOf number = priority := by
  simp [ofPriority]

theorem ofPriority_append (priority : Int) (numbers more : List Nat) :
    board.ofPriority priority (numbers ++ more) =
      board.ofPriority priority numbers ++ board.ofPriority priority more :=
  List.filter_append numbers more

theorem ofPriority_cons_self (number : Nat) (numbers : List Nat) :
    board.ofPriority (board.priorityOf number) (number :: numbers) =
      number :: board.ofPriority (board.priorityOf number) numbers := by
  simp [ofPriority]

theorem ofPriority_cons_of_ne {priority : Int} {number : Nat}
    (other : board.priorityOf number ≠ priority) (numbers : List Nat) :
    board.ofPriority priority (number :: numbers) = board.ofPriority priority numbers := by
  simp [ofPriority, other]

/-- Lists with the same members for every priority have the same members. -/
theorem mem_of_alike (alike : ∀ p, board.ofPriority p order = board.ofPriority p order')
    {number : Nat} (member : number ∈ order) : number ∈ order' := by
  have here : number ∈ board.ofPriority (board.priorityOf number) order :=
    mem_ofPriority.mpr ⟨member, rfl⟩
  rw [alike] at here
  exact (mem_ofPriority.mp here).1

/-- An order is determined by how those of each priority stand in it. -/
theorem eq_of_alike (sorted : board.Ordered order) (sorted' : board.Ordered order')
    (alike : ∀ p, board.ofPriority p order = board.ofPriority p order') : order = order' := by
  induction order generalizing order' with
  | nil =>
      cases order' with
      | nil => rfl
      | cons y rest' => exact nomatch mem_of_alike (fun p => (alike p).symm) List.mem_cons_self
  | cons x rest ih =>
      cases order' with
      | nil => exact nomatch mem_of_alike alike List.mem_cons_self
      | cons y rest' =>
          obtain ⟨first, later⟩ := List.pairwise_cons.mp sorted
          obtain ⟨first', later'⟩ := List.pairwise_cons.mp sorted'
          -- Each head stands in the other list, behind or at its head.
          have below : board.priorityOf y ≤ board.priorityOf x := by
            rcases List.mem_cons.mp (mem_of_alike alike List.mem_cons_self) with same | behind
            · exact Int.le_of_eq (congrArg _ same.symm)
            · exact first' x behind
          have above : board.priorityOf x ≤ board.priorityOf y := by
            rcases List.mem_cons.mp (mem_of_alike (fun p => (alike p).symm)
              List.mem_cons_self) with same | behind
            · exact Int.le_of_eq (congrArg _ same.symm)
            · exact first y behind
          have level : board.priorityOf x = board.priorityOf y := Int.le_antisymm above below
          have heads := alike (board.priorityOf x)
          rw [ofPriority_cons_self, level, ofPriority_cons_self] at heads
          obtain ⟨same, tails⟩ := List.cons.inj heads
          subst same
          refine congrArg _ (ih later later' ?_)
          intro p
          by_cases here : board.priorityOf x = p
          · exact here ▸ tails
          · have rests := alike p
            rwa [ofPriority_cons_of_ne here, ofPriority_cons_of_ne here] at rests

theorem mem_place {number other : Nat} :
    other ∈ board.place number order ↔ other = number ∨ other ∈ order := by
  induction order with
  | nil => simp [place]
  | cons first rest ih =>
      unfold place
      split
      · simp only [List.mem_cons, ih]
        exact or_left_comm
      · exact List.mem_cons

theorem place_ordered (sorted : board.Ordered order) (number : Nat) :
    board.Ordered (board.place number order) := by
  induction order with
  | nil => exact List.pairwise_singleton _ _
  | cons first rest ih =>
      obtain ⟨behind, later⟩ := List.pairwise_cons.mp sorted
      unfold place
      split
      · rename_i before
        refine List.pairwise_cons.mpr ⟨?_, ih later⟩
        intro other member
        rcases mem_place.mp member with rfl | there
        · exact before
        · exact behind other there
      · rename_i after
        have next : board.priorityOf number ≤ board.priorityOf first := by omega
        refine List.pairwise_cons.mpr ⟨?_, sorted⟩
        intro other member
        rcases List.mem_cons.mp member with rfl | there
        · exact next
        · exact Int.le_trans next (behind other there)

/-- A newcomer stands behind all of its priority, and moves nobody of another. -/
theorem ofPriority_place (sorted : board.Ordered order) (number : Nat) (p : Int) :
    board.ofPriority p (board.place number order) = board.ofPriority p (order ++ [number]) := by
  induction order with
  | nil => rfl
  | cons first rest ih =>
      obtain ⟨behind, later⟩ := List.pairwise_cons.mp sorted
      unfold place
      split
      · change List.filter _ (first :: _) = List.filter _ (first :: (rest ++ [number]))
        rw [List.filter_cons, List.filter_cons]
        have tails := ih later
        unfold ofPriority at tails
        rw [tails]
      · rename_i after
        rw [ofPriority_append]
        by_cases here : board.priorityOf number = p
        · -- All that stands in the list runs later than the newcomer.
          have nobody : board.ofPriority p (first :: rest) = [] := by
            refine List.filter_eq_nil_iff.mpr ?_
            intro other member
            have late : board.priorityOf first ≤ board.priorityOf other := by
              rcases List.mem_cons.mp member with rfl | there
              · exact Int.le_refl _
              · exact behind other there
            simp only [decide_eq_true_eq]
            omega
          subst here
          rw [ofPriority_cons_self, nobody, ofPriority_cons_self]
          rfl
        · rw [ofPriority_cons_of_ne here, ofPriority_cons_of_ne here]
          simp [ofPriority]

theorem foldl_place (came numbers : List Nat) (sorted : board.Ordered order)
    (alike : ∀ p, board.ofPriority p order = board.ofPriority p came) :
    board.Ordered (numbers.foldl (fun order number => board.place number order) order) ∧
      ∀ p, board.ofPriority p (numbers.foldl (fun order number => board.place number order) order) =
        board.ofPriority p (came ++ numbers) := by
  induction numbers generalizing came order with
  | nil => exact ⟨sorted, by simpa using alike⟩
  | cons number rest ih =>
      have placed : ∀ p, board.ofPriority p (board.place number order) =
          board.ofPriority p (came ++ [number]) := by
        intro p
        rw [ofPriority_place sorted, ofPriority_append, alike, ofPriority_append]
      simpa using ih (came ++ [number]) (place_ordered sorted number) placed

/-- The order is sorted, and has those of each priority as they came. -/
theorem registered_placed (board : Switchboard) : board.Ordered board.registered ∧
    ∀ p, board.ofPriority p board.registered = board.ofPriority p board.enlisted :=
  foldl_place [] board.enlisted .nil fun _ => rfl

theorem mem_registered {number : Nat} : number ∈ board.registered ↔ number ∈ board.enlisted := by
  obtain ⟨-, alike⟩ := registered_placed board
  exact ⟨mem_of_alike alike, mem_of_alike fun p => (alike p).symm⟩

theorem place_congr {number : Nat}
    (alike : ∀ n ∈ number :: order, board'.priorityOf n = board.priorityOf n) :
    board'.place number order = board.place number order := by
  induction order with
  | nil => rfl
  | cons other rest ih =>
      have here := alike number List.mem_cons_self
      have there := alike other (List.mem_cons_of_mem _ List.mem_cons_self)
      have later : ∀ n ∈ number :: rest, board'.priorityOf n = board.priorityOf n := by
        intro n member
        rcases List.mem_cons.mp member with rfl | behind
        · exact here
        · exact alike n (List.mem_cons_of_mem _ (List.mem_cons_of_mem _ behind))
      rw [place, place, here, there, ih later]

theorem foldl_place_congr {numbers : List Nat}
    (alike : ∀ n ∈ order ++ numbers, board'.priorityOf n = board.priorityOf n) :
    numbers.foldl (fun order number => board'.place number order) order =
      numbers.foldl (fun order number => board.place number order) order := by
  induction numbers generalizing order with
  | nil => rfl
  | cons number rest ih =>
      have placed : board'.place number order = board.place number order := by
        refine place_congr fun n member => alike n ?_
        rcases List.mem_cons.mp member with rfl | there
        · exact List.mem_append_right _ List.mem_cons_self
        · exact List.mem_append_left _ there
      rw [List.foldl_cons, List.foldl_cons, placed]
      refine ih fun n member => alike n ?_
      rcases List.mem_append.mp member with there | behind
      · rcases mem_place.mp there with rfl | before
        · exact List.mem_append_right _ List.mem_cons_self
        · exact List.mem_append_left _ before
      · exact List.mem_append_right _ (List.mem_cons_of_mem _ behind)

/-- The order depends on who came and their priorities only. -/
theorem registered_congr (enlisted : board'.enlisted = board.enlisted)
    (alike : ∀ n ∈ board.enlisted, board'.priorityOf n = board.priorityOf n) :
    board'.registered = board.registered := by
  rw [registered, enlisted]
  exact foldl_place_congr (by simpa using alike)

def runsBefore (board : Switchboard) (number other : Nat) : Bool :=
  board.priorityOf number ≤ board.priorityOf other

/-- The order of running is the stable sort by priority of those who came. -/
theorem registered_eq_mergeSort (board : Switchboard) :
    board.registered = board.enlisted.mergeSort board.runsBefore := by
  have transitive (a b c : Nat) : board.runsBefore a b = true → board.runsBefore b c = true →
      board.runsBefore a c = true := by
    simp only [runsBefore, decide_eq_true_eq]
    exact Int.le_trans
  have total (a b : Nat) : (board.runsBefore a b || board.runsBefore b a) = true := by
    simp only [runsBefore, Bool.or_eq_true, decide_eq_true_eq]
    exact Int.le_total _ _
  obtain ⟨sorted, alike⟩ := registered_placed board
  refine eq_of_alike sorted ?_ fun p => (alike p).trans ?_
  · exact (List.pairwise_mergeSort transitive total board.enlisted).imp
      fun before => of_decide_eq_true before
  · -- Those of one priority are a sorted part of the list, and sorting keeps such a part.
    have level : (board.ofPriority p board.enlisted).Pairwise
        fun i j => board.runsBefore i j = true := by
      refine List.pairwise_of_forall_mem_list ?_
      intro i here j there
      simp only [runsBefore, decide_eq_true_eq, (mem_ofPriority.mp here).2,
        (mem_ofPriority.mp there).2, Int.le_refl]
    have part := (List.sublist_mergeSort transitive total level List.filter_sublist).filter
      fun number => board.priorityOf number = p
    have whole : (board.ofPriority p board.enlisted).filter
        (fun number => board.priorityOf number = p) = board.ofPriority p board.enlisted := by
      simp [ofPriority]
    rw [whole] at part
    exact part.eq_of_length
      ((List.mergeSort_perm board.enlisted board.runsBefore).filter _).length_eq.symm

end

end Switchboard
end SpanCapture
