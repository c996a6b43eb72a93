import SpanCapture.Service.Slots

/-! Slots as a map from numbers to things. In a sound table no number stands twice and there is
room left, so adding a thing finds a free slot, and a look-up sees what was put, changed or
erased last. -/
namespace SpanCapture
namespace Slots

variable {α : Type} {key other : Nat} {value : α} {table : Slots α}

def keys (table : Slots α) : List Nat := table.entries.map Prod.fst

theorem entries_cons (slot : Option (Nat × α)) (table : Slots α) :
    entries (slot :: table) = slot.toList ++ entries table := by
  cases slot <;> rfl

theorem entries_modify (key : Nat) (f : α → α) (table : Slots α) :
    (table.modify key f).entries =
      table.entries.map fun entry => if entry.1 = key then (entry.1, f entry.2) else entry := by
  induction table with
  | nil => rfl
  | cons slot rest ih =>
      change entries (slot.map _ :: modify key f rest) = _
      rw [entries_cons, entries_cons, List.map_append, ih]
      cases slot <;> rfl

theorem entries_erase (key : Nat) (table : Slots α) :
    (table.erase key).entries = table.entries.filter fun entry => entry.1 != key := by
  induction table with
  | nil => rfl
  | cons slot rest ih =>
      change entries (slot.filter _ :: erase key rest) = _
      rw [entries_cons, entries_cons, List.filter_append, ih]
      cases slot with
      | none => rfl
      | some entry => cases here : entry.1 != key <;> simp [Option.filter, here]

/-- Changes of two things may come in either order. -/
theorem modify_comm (h : other ≠ key) (f g : α → α) (table : Slots α) :
    (table.modify key f).modify other g = (table.modify other g).modify key f := by
  simp only [modify, List.map_map]
  apply List.map_congr_left
  intro slot _
  cases slot with
  | none => rfl
  | some entry =>
      by_cases here : entry.1 = key
      · subst here
        simp [Ne.symm h]
      · by_cases there : entry.1 = other <;> simp [here, there, h]

theorem find?_modify (key other : Nat) (f : α → α) (table : Slots α) :
    (table.modify key f).find? other =
      (table.find? other).map fun value => if other = key then f value else value := by
  have sought : ((fun entry : Nat × α => entry.1 == other) ∘
      fun entry => if entry.1 = key then (entry.1, f entry.2) else entry) =
      fun entry => entry.1 == other := by
    funext entry
    simp only [Function.comp_apply]
    split <;> rfl
  rw [find?, find?, entries_modify, List.find?_map, sought]
  cases found : table.entries.find? fun entry => entry.1 == other with
  | none => rfl
  | some entry =>
      have same : entry.1 = other := by simpa using List.find?_some found
      subst same
      by_cases here : entry.1 = key
      · simp [here]
      · simp [here]

theorem find?_modify_self (key : Nat) (f : α → α) (table : Slots α) :
    (table.modify key f).find? key = (table.find? key).map f := by
  simp only [find?_modify, if_true]

theorem find?_modify_of_ne (h : other ≠ key) (f : α → α) (table : Slots α) :
    (table.modify key f).find? other = table.find? other := by
  simp only [find?_modify, if_neg h, Option.map_id']

theorem find?_erase_of_ne (h : other ≠ key) (table : Slots α) :
    (table.erase key).find? other = table.find? other := by
  have sought : (fun entry : Nat × α => decide (entry.1 != key ∧ entry.1 == other)) =
      fun entry => entry.1 == other := by
    funext entry
    by_cases here : entry.1 = other
    · simp [here, h]
    · simp [here]
  rw [find?, find?, entries_erase, List.find?_filter, sought]

theorem find?_erase_self (key : Nat) (table : Slots α) : (table.erase key).find? key = none := by
  rw [find?, entries_erase, Option.map_eq_none_iff, List.find?_eq_none]
  intro entry member
  simpa using (List.mem_filter.mp member).2

theorem mem_of_find? (h : table.find? key = some value) : (key, value) ∈ table.entries := by
  obtain ⟨entry, found, same⟩ := Option.map_eq_some_iff.mp h
  have here : entry.1 = key := by simpa using List.find?_some found
  rw [← here, ← same]
  exact List.mem_of_find?_eq_some found

/-- No number twice, and never more things than a table of this size may hold. -/
structure Sound (table : Slots α) : Prop where
  unique : table.keys.Nodup
  roomy : table.entries.length ≤ capacity table.length

/-- Where no number stands twice, a look-up finds all that is there. -/
theorem find?_eq_some_iff (unique : table.keys.Nodup) :
    table.find? key = some value ↔ (key, value) ∈ table.entries := by
  refine ⟨mem_of_find?, ?_⟩
  have list (entries : List (Nat × α)) (unique : (entries.map Prod.fst).Nodup)
      (h : (key, value) ∈ entries) :
      (entries.find? fun entry => entry.1 == key).map Prod.snd = some value := by
    induction entries with
    | nil => cases h
    | cons entry rest ih =>
        obtain ⟨apart, others⟩ := List.nodup_cons.mp unique
        rcases List.mem_cons.mp h with rfl | later
        · simp
        · have differs : entry.1 ≠ key := fun same =>
            apart (same ▸ List.mem_map_of_mem (f := Prod.fst) later)
          rw [List.find?_cons_of_neg (by simpa using differs)]
          exact ih others later
  exact list table.entries unique

/-- Storing what is there already changes nothing. -/
theorem modify_eq_self (unique : table.keys.Nodup) (known : table.find? key = some value) :
    (table.modify key fun _ => value) = table := by
  have here : ∀ slot ∈ table, slot.map (fun entry : Nat × α =>
      if entry.1 = key then (entry.1, value) else entry) = slot := by
    intro slot member
    cases slot with
    | none => rfl
    | some entry =>
        by_cases same : entry.1 = key
        · have inside : entry ∈ table.entries := List.mem_filterMap.mpr ⟨some entry, member, rfl⟩
          have found : table.find? key = some entry.2 :=
            (find?_eq_some_iff unique).mpr (same ▸ inside)
          rw [known, Option.some.injEq] at found
          simp [same, found, Prod.ext_iff]
        · simp [same]
  exact (List.map_congr_left here).trans (List.map_id _)

theorem exists_free (h : table.entries.length < table.length) : ∃ i : Nat, table[i]? = some none := by
  induction table with
  | nil => cases h
  | cons slot rest ih =>
      cases slot with
      | none => exact ⟨0, rfl⟩
      | some entry =>
          rw [entries_cons, List.length_append, List.length_cons] at h
          change 1 + _ < _ at h
          obtain ⟨i, free⟩ := ih (by omega)
          exact ⟨i + 1, free⟩

/-- Going around from anywhere reaches every slot. -/
theorem around {size i : Nat} (inside : i < size) (start : Nat) :
    ∃ j < size, (start + j) % size = i := by
  have positive : 0 < size := Nat.lt_of_le_of_lt (Nat.zero_le i) inside
  refine ⟨(i + size - start % size) % size, Nat.mod_lt _ positive, ?_⟩
  have below : start % size < size := Nat.mod_lt _ positive
  have parts := Nat.div_add_mod start size
  have whole : start + (i + size - start % size) = i + size * (start / size + 1) := by
    rw [Nat.mul_add, Nat.mul_one]
    omega
  rw [Nat.add_mod_mod, whole, Nat.add_mul_mod_self_left, Nat.mod_eq_of_lt inside]

theorem freeFrom_free (h : table.entries.length < table.length) (start : Nat) :
    table[table.freeFrom start]? = some none := by
  obtain ⟨i, free⟩ := exists_free h
  obtain ⟨inside, -⟩ := List.getElem?_eq_some_iff.mp free
  obtain ⟨j, small, here⟩ := around inside start
  unfold freeFrom
  dsimp only
  cases found : List.find? (fun i => (table[i]?.map Option.isNone).getD false)
      ((List.range table.length).map fun i => (start + i) % table.length) with
  | none =>
      have absent := List.find?_eq_none.mp found i
        (List.mem_map.mpr ⟨j, List.mem_range.mpr small, here⟩)
      simp [free] at absent
  | some k =>
      have isFree := List.find?_some found
      cases slot : table[k]? with
      | none => simp [slot] at isFree
      | some content =>
          cases content with
          | none => exact slot
          | some entry => simp [slot] at isFree

theorem perm_entries_set {i : Nat} (free : table[i]? = some none) (entry : Nat × α) :
    (entries (table.set i (some entry))).Perm (entry :: table.entries) := by
  induction table generalizing i with
  | nil => cases free
  | cons slot rest ih =>
      cases i with
      | zero =>
          rw [List.getElem?_cons_zero, Option.some.injEq] at free
          subst free
          exact .refl _
      | succ i =>
          rw [List.set_cons_succ, entries_cons, entries_cons]
          exact ((ih free).append_left _).trans List.perm_middle

theorem perm_entries_put (h : table.entries.length < table.length) (key : Nat) (value : α) :
    (table.put key value).entries.Perm ((key, value) :: table.entries) :=
  perm_entries_set (freeFrom_free h _) _

theorem length_put (key : Nat) (value : α) (table : Slots α) :
    (table.put key value).length = table.length := List.length_set

theorem perm_entries_foldl_put (things : List (Nat × α)) (table : Slots α)
    (h : things.length + table.entries.length ≤ table.length) :
    (entries (things.foldl (fun t entry => t.put entry.1 entry.2) table)).Perm
        (things ++ table.entries) ∧
      (things.foldl (fun t entry => t.put entry.1 entry.2) table).length = table.length := by
  induction things generalizing table with
  | nil => exact ⟨.refl _, rfl⟩
  | cons thing rest ih =>
      rw [List.length_cons] at h
      have put := perm_entries_put (by omega : table.entries.length < table.length) thing.1 thing.2
      have count := put.length_eq
      have size := length_put thing.1 thing.2 table
      rw [List.length_cons] at count
      obtain ⟨same, length⟩ := ih (table.put thing.1 thing.2) (by omega)
      refine ⟨?_, length.trans size⟩
      exact same.trans ((put.append_left rest).trans List.perm_middle)

theorem room {slots : Nat} (h : 0 < slots) : capacity slots < slots := by
  unfold capacity
  split <;> omega

theorem entries_replicate (size : Nat) : entries (List.replicate size (none : Option (Nat × α))) = [] := by
  induction size with
  | zero => rfl
  | succ size ih => rw [List.replicate_succ, entries_cons, ih]; rfl

theorem pos_of_capacity {slots count : Nat} (h : count + 1 ≤ capacity slots) : 0 < slots := by
  apply Nat.pos_of_ne_zero
  intro zero
  rw [zero] at h
  exact Nat.not_succ_le_zero _ h

/-- Doubling a table keeps its things and makes room for one more. -/
theorem grow_cases (roomy : table.entries.length ≤ capacity table.length) :
    table.grow.entries.Perm table.entries ∧ table.entries.length + 1 ≤ capacity table.grow.length := by
  unfold grow
  dsimp only
  generalize sized : (if table.isEmpty then 4 else 2 * table.length) = size
  have enough : table.entries.length + 1 ≤ capacity size := by
    subst sized
    cases table with
    | nil => exact (by decide : 0 + 1 ≤ capacity 4)
    | cons slot rest =>
        refine Nat.le_trans (Nat.succ_le_succ roomy) ?_
        simp only [capacity, List.isEmpty_cons, List.length_cons, Bool.false_eq_true, if_false]
        split <;> split <;> omega
  have fits := Nat.lt_of_le_of_lt enough (room (pos_of_capacity enough))
  obtain ⟨same, length⟩ := perm_entries_foldl_put table.entries
    (List.replicate size (none : Option (Nat × α)))
    (by rw [entries_replicate, List.length_replicate, List.length_nil]; omega)
  rw [entries_replicate, List.append_nil] at same
  rw [length, List.length_replicate]
  exact ⟨same, enough⟩

/-- Adding a thing adds it and leaves the others. -/
theorem insert_cases (roomy : table.entries.length ≤ capacity table.length) (key : Nat) (value : α) :
    (table.insert key value).entries.Perm ((key, value) :: table.entries) ∧
      table.entries.length + 1 ≤ capacity (table.insert key value).length := by
  unfold insert
  split
  · rename_i small
    have free : table.entries.length < table.length := by
      refine Nat.lt_of_lt_of_le small ?_
      cases Nat.eq_zero_or_pos table.length with
      | inl zero => rw [zero]; decide
      | inr positive => exact Nat.le_of_lt (room positive)
    exact ⟨perm_entries_put free key value, by rwa [length_put]⟩
  · obtain ⟨same, enough⟩ := grow_cases roomy
    have free : table.grow.entries.length < table.grow.length := by
      rw [same.length_eq]
      exact Nat.lt_trans (Nat.lt_of_succ_le enough) (room (pos_of_capacity enough))
    exact ⟨(perm_entries_put free key value).trans (same.cons _), by rwa [length_put]⟩

theorem Sound.insert (h : table.Sound) (fresh : key ∉ table.keys) : (table.insert key value).Sound := by
  obtain ⟨same, enough⟩ := insert_cases h.roomy key value
  constructor
  · exact ((same.map Prod.fst).nodup_iff).mpr (List.nodup_cons.mpr ⟨fresh, h.unique⟩)
  · rw [same.length_eq]
    exact enough

theorem keys_modify (key : Nat) (f : α → α) (table : Slots α) :
    (table.modify key f).keys = table.keys := map_fst_entries_modify key f table

theorem length_modify (key : Nat) (f : α → α) (table : Slots α) :
    (table.modify key f).length = table.length := List.length_map _

theorem length_erase (key : Nat) (table : Slots α) : (table.erase key).length = table.length :=
  List.length_map _

theorem Sound.modify (h : table.Sound) (key : Nat) (f : α → α) : (table.modify key f).Sound := by
  constructor
  · rw [keys_modify]
    exact h.unique
  · rw [entries_modify, List.length_map, length_modify]
    exact h.roomy

theorem Sound.erase (h : table.Sound) (key : Nat) : (table.erase key).Sound := by
  constructor
  · rw [keys, entries_erase]
    exact h.unique.sublist (List.filter_sublist.map _)
  · rw [entries_erase, length_erase]
    exact Nat.le_trans (List.length_filter_le _ _) h.roomy

theorem mem_keys_insert (h : table.Sound) {key : Nat} {value : α} :
    other ∈ (table.insert key value).keys ↔ other = key ∨ other ∈ table.keys := by
  rw [keys, ((insert_cases h.roomy key value).1.map Prod.fst).mem_iff, List.map_cons, List.mem_cons]
  rfl

theorem find?_insert_self (h : table.Sound) (fresh : key ∉ table.keys) :
    (table.insert key value).find? key = some value := by
  rw [find?_eq_some_iff (h.insert fresh).unique, (insert_cases h.roomy key value).1.mem_iff]
  exact List.mem_cons_self

theorem find?_insert_of_ne (h : table.Sound) (fresh : key ∉ table.keys) (differs : other ≠ key) :
    (table.insert key value).find? other = table.find? other := by
  refine Option.ext fun found => ?_
  rw [find?_eq_some_iff (h.insert fresh).unique, find?_eq_some_iff h.unique,
    (insert_cases h.roomy key value).1.mem_iff, List.mem_cons]
  simp [differs]

end Slots
end SpanCapture
