import SpanCapture.Json.Parser
import SpanCapture.Proofs.Json.Path

/-! Documents as they are read. Whatever the order in which the fields of an object are written, in
the document that is read they stand sorted by name, each name once. -/
namespace SpanCapture
namespace Json

section
variable {document : Json} {listed : List Json} {named : List (String × Json)}
  {cs rest : List Char} {fuel depth : Nat}

theorem ordered_array : (array listed).Ordered ↔ ∀ item ∈ listed, item.Ordered := by
  induction listed with
  | nil => exact iff_of_true rfl (List.forall_mem_nil _)
  | cons item rest ih => rw [ordered_array_cons, ih, List.forall_mem_cons]

theorem ordered_object : (object named).Ordered ↔
    Keyed.Sorted named ∧ ∀ field ∈ named, field.2.Ordered := by
  induction named with
  | nil => exact iff_of_true rfl ⟨Keyed.sorted_nil, List.forall_mem_nil _⟩
  | cons field later ih =>
      obtain ⟨name, item⟩ := field
      rw [ordered_object_cons, ih, List.forall_mem_cons]
      constructor
      · exact fun ⟨sorted, here, _, behind⟩ => ⟨sorted, here, behind⟩
      · exact fun ⟨sorted, here, behind⟩ =>
          ⟨sorted, here, (Keyed.sorted_cons.mp sorted).2, behind⟩

theorem ordered_of_map_float {α : Type} {read : Option α} (give : α → Binary64 × List Char)
    (made : (read.map fun a => (float (give a).1, (give a).2)) = some (document, rest)) :
    document.Ordered := by
  obtain ⟨a, -, same⟩ := Option.map_eq_some_iff.mp made
  cases same
  rfl

/-- A number holds no fields. -/
theorem ordered_number {negative : Bool} (read : number negative cs = some (document, rest)) :
    document.Ordered := by
  unfold number at read
  dsimp only at read
  split at read
  · cases read
  split at read
  · split at read
    · cases read
    split at read
    · exact ordered_of_map_float id read
    · exact ordered_of_map_float id read
    · exact ordered_of_map_float (·, _) read
  · exact ordered_of_map_float id read
  · exact ordered_of_map_float id read
  · split at read
    · exact ordered_of_map_float (·, _) read
    · -- The remaining numbers are whole, but for those below the signed words.
      split at read <;> try split at read
      all_goals
        cases read
        rfl

structure ReadsOrdered (fuel : Nat) : Prop where
  value : ∀ {depth cs document rest}, value fuel depth cs = some (document, rest) → document.Ordered
  items : ∀ {depth cs listed rest}, items fuel depth cs = some (listed, rest) →
    ∀ item ∈ listed, item.Ordered
  fields : ∀ {depth cs named rest}, fields fuel depth cs = some (named, rest) →
    ∀ field ∈ named, field.2.Ordered

theorem ReadsOrdered.value_succ (h : ReadsOrdered fuel)
    (read : Json.value (fuel + 1) depth cs = some (document, rest)) : document.Ordered := by
  unfold Json.value at read
  split at read
  · cases read
    rfl
  · cases read
    rfl
  · cases read
    rfl
  · obtain ⟨found, -, same⟩ := Option.map_eq_some_iff.mp read
    cases same
    rfl
  · exact ordered_number read
  · split at read
    · cases read
    split at read
    · cases read
      rfl
    · obtain ⟨found, inside, same⟩ := Option.map_eq_some_iff.mp read
      cases same
      exact ordered_array.mpr (h.items inside)
  · split at read
    · cases read
    split at read
    · cases read
      rfl
    · obtain ⟨found, inside, same⟩ := Option.map_eq_some_iff.mp read
      cases same
      refine ordered_object.mpr ⟨Keyed.sorted_ofList found.1, fun field member => ?_⟩
      exact h.fields inside field (Keyed.mem_of_mem_ofList member)
  · exact ordered_number read

theorem ReadsOrdered.items_succ (h : ReadsOrdered fuel)
    (read : Json.items (fuel + 1) depth cs = some (listed, rest)) :
    ∀ item ∈ listed, item.Ordered := by
  unfold Json.items at read
  obtain ⟨⟨first, more⟩, here, read⟩ := Option.bind_eq_some_iff.mp read
  dsimp only at read
  split at read
  · cases read
    exact List.forall_mem_singleton.mpr (h.value here)
  · obtain ⟨others, behind, same⟩ := Option.bind_eq_some_iff.mp read
    cases same
    exact List.forall_mem_cons.mpr ⟨h.value here, h.items behind⟩
  · cases read

theorem ReadsOrdered.fields_succ (h : ReadsOrdered fuel)
    (read : Json.fields (fuel + 1) depth cs = some (named, rest)) :
    ∀ field ∈ named, field.2.Ordered := by
  unfold Json.fields at read
  split at read
  · obtain ⟨⟨name, more⟩, -, read⟩ := Option.bind_eq_some_iff.mp read
    dsimp only at read
    split at read
    · obtain ⟨⟨first, more⟩, here, read⟩ := Option.bind_eq_some_iff.mp read
      dsimp only at read
      split at read
      · cases read
        exact List.forall_mem_singleton.mpr (h.value here)
      · obtain ⟨others, behind, same⟩ := Option.bind_eq_some_iff.mp read
        cases same
        exact List.forall_mem_cons.mpr ⟨h.value here, h.fields behind⟩
      · cases read
    · cases read
  · cases read

theorem readsOrdered (fuel : Nat) : ReadsOrdered fuel := by
  induction fuel with
  | zero => exact ⟨nofun, nofun, nofun⟩
  | succ fuel ih => exact ⟨ih.value_succ, ih.items_succ, ih.fields_succ⟩

/-- A document that has been read has its fields in order. -/
theorem ordered_of_parse? {text : String} (read : parse? text = some document) :
    document.Ordered := by
  unfold parse? at read
  obtain ⟨found, whole, read⟩ := Option.bind_eq_some_iff.mp read
  dsimp only at read
  split at read
  · cases read
    exact (readsOrdered _).value whole
  · cases read

end
end Json
end SpanCapture
