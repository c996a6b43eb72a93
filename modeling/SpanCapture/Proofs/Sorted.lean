import SpanCapture.Keyed

/-! Lists sorted by key. Storing keeps a list sorted, so whatever is made by storing is sorted, and
a sorted list is what storing its entries one after another makes. -/
namespace SpanCapture
namespace Keyed

variable {α : Type} {key other : String} {value found : α} {entry : String × α}
  {entries rest : Keyed α}

instance (entries : Keyed α) : Decidable entries.Sorted :=
  inferInstanceAs (Decidable (List.Pairwise (fun a b => a.1 < b.1) entries))

theorem sorted_nil : Sorted ([] : Keyed α) := .nil

theorem sorted_cons : Sorted (entry :: rest) ↔ (∀ later ∈ rest, entry.1 < later.1) ∧ Sorted rest :=
  List.pairwise_cons

theorem find?_cons_self : find? key ((key, value) :: entries) = some value := if_pos rfl

theorem find?_cons_of_ne (apart : key ≠ other) :
    find? other ((key, value) :: entries) = find? other entries := if_neg apart

/-- The first key of a sorted list is the least. -/
theorem Sorted.lt_of_find? (sorted : Sorted ((key, value) :: entries))
    (here : find? other entries = some found) : key < other :=
  (sorted_cons.mp sorted).1 _ (mem_of_find? here)

theorem Sorted.insert (sorted : entries.Sorted) (key : String) (value : α) :
    (entries.insert key value).Sorted := by
  induction entries with
  | nil => exact List.pairwise_singleton _ _
  | cons entry rest ih =>
      obtain ⟨k, v⟩ := entry
      obtain ⟨least, later⟩ := sorted_cons.mp sorted
      unfold Keyed.insert
      split
      · rename_i before
        refine sorted_cons.mpr ⟨List.forall_mem_cons.mpr ⟨before, fun next member => ?_⟩, sorted⟩
        exact String.lt_trans before (least next member)
      · rename_i notBefore
        split
        · rename_i same
          subst same
          exact sorted_cons.mpr ⟨least, later⟩
        · rename_i differs
          refine sorted_cons.mpr ⟨fun next member => ?_, ih later⟩
          rcases mem_of_mem_insert member with rfl | member
          · exact Std.lt_of_le_of_ne (String.not_lt.mp notBefore) differs
          · exact least next member

/-- An entry behind all others goes to the end. -/
theorem insert_of_last (last : ∀ entry ∈ entries, entry.1 < key) :
    entries.insert key value = entries ++ [(key, value)] := by
  induction entries with
  | nil => rfl
  | cons entry rest ih =>
      obtain ⟨here, later⟩ := List.forall_mem_cons.mp last
      obtain ⟨k, v⟩ := entry
      have notBefore : ¬key < k := String.lt_asymm here
      have apart : k ≠ key := String.ne_of_lt here
      rw [Keyed.insert, if_neg notBefore, if_neg apart, ih later]
      rfl

section
variable {pairs : List (String × α)}

theorem sorted_foldl_insert (sorted : entries.Sorted) : Sorted
    (pairs.foldl (fun entries pair => entries.insert pair.1 pair.2) entries) := by
  induction pairs generalizing entries with
  | nil => exact sorted
  | cons pair rest ih => exact ih (sorted.insert pair.1 pair.2)

theorem sorted_ofList (pairs : List (String × α)) : (ofList pairs).Sorted :=
  sorted_foldl_insert sorted_nil

theorem mem_of_mem_foldl_insert
    (member : entry ∈ pairs.foldl (fun entries pair => entries.insert pair.1 pair.2) entries) :
    entry ∈ pairs ∨ entry ∈ entries := by
  induction pairs generalizing entries with
  | nil => exact .inr member
  | cons pair rest ih =>
      rcases ih member with later | stored
      · exact .inl (List.mem_cons_of_mem _ later)
      · rcases mem_of_mem_insert stored with rfl | before
        · exact .inl List.mem_cons_self
        · exact .inr before

theorem mem_of_mem_ofList (member : entry ∈ ofList pairs) : entry ∈ pairs :=
  (mem_of_mem_foldl_insert member).resolve_right List.not_mem_nil

theorem foldl_insert_of_sorted (entries : Keyed α) (sorted : Sorted (entries ++ pairs)) :
    pairs.foldl (fun entries pair => entries.insert pair.1 pair.2) entries = entries ++ pairs := by
  induction pairs generalizing entries with
  | nil => exact (List.append_nil entries).symm
  | cons pair rest ih =>
      have last : ∀ entry ∈ entries, entry.1 < pair.1 := fun entry member =>
        (List.pairwise_append.mp sorted).2.2 entry member pair List.mem_cons_self
      have whole : entries ++ pair :: rest = entries ++ [pair] ++ rest := by simp
      rw [List.foldl_cons, insert_of_last last, whole]
      exact ih _ (whole ▸ sorted)

/-- A sorted list is made of its own entries. -/
theorem ofList_of_sorted (sorted : entries.Sorted) : ofList entries = entries :=
  foldl_insert_of_sorted [] sorted

end
end Keyed
end SpanCapture
