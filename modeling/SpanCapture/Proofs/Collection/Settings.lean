import SpanCapture.Collection.Settings

/-! Settings before and after a change. A change is seen at its own name and, as far as values
go, nowhere else: what lies under a root the name does not start with stays as it was. -/
namespace SpanCapture

namespace Keyed

variable {α : Type}

theorem find?_filter {key : String} {keep : String → Bool} (kept : keep key = true)
    (entries : Keyed α) : find? key (entries.filter fun entry => keep entry.1) = find? key entries := by
  induction entries with
  | nil => rfl
  | cons entry rest ih =>
      obtain ⟨k, v⟩ := entry
      by_cases here : k = key
      · subst here
        simp [find?, kept]
      · by_cases keeps : keep k = true
        · simp [find?, here, keeps, ih]
        · simp [find?, here, keeps, ih]

theorem filter_insert {key : String} {keep : String → Bool} (dropped : keep key = false) (value : α)
    (entries : Keyed α) : (insert key value entries).filter (fun entry => keep entry.1) =
      entries.filter fun entry => keep entry.1 := by
  induction entries with
  | nil => simp [insert, dropped]
  | cons entry rest ih =>
      obtain ⟨k, v⟩ := entry
      unfold insert
      split
      · simp [dropped]
      · split
        · rename_i same
          subst same
          simp [dropped]
        · rw [List.filter_cons, List.filter_cons, ih]

end Keyed

namespace Settings

variable {s : Settings} {root name other : String} {value : Value}

@[simp] theorem startsWith_self (name : String) : startsWith name name = true :=
  (startsWith_iff name name).mpr (List.prefix_refl _)

theorem startsWith_append (root rest : String) : startsWith root (root ++ rest) = true := by
  rw [startsWith_iff, String.toList_append]
  exact List.prefix_append _ _

/-- What lies under a root lies under no other that neither lies under it nor holds it. -/
theorem startsWith_apart {side : String} (inside : startsWith side name = true)
    (apart : startsWith root side = false) (apart' : startsWith side root = false) :
    startsWith root name = false := by
  cases under : startsWith root name with
  | false => rfl
  | true =>
      rw [startsWith_iff] at inside under
      rcases List.prefix_or_prefix_of_prefix under inside with below | above
      · rw [(startsWith_iff root side).mpr below] at apart
        cases apart
      · rw [(startsWith_iff side root).mpr above] at apart'
        cases apart'

theorem get?_introduce_of_ne (differs : other ≠ name) (value : Value) (s : Settings) :
    (s.introduce name value).get? other = s.get? other :=
  Keyed.find?_insert_of_ne value differs s.values

theorem isExplicit_mark_of_ne (differs : other ≠ name) (s : Settings) :
    (s.mark name).isExplicit other = s.isExplicit other := by
  unfold mark isExplicit
  split
  · rfl
  · simp [differs]

theorem find?_under (inside : startsWith root name = true) (s : Settings) :
    (s.under root).find? name = s.get? name := Keyed.find?_filter inside s.values

theorem under_introduce (outside : startsWith root name = false) (value : Value) (s : Settings) :
    (s.introduce name value).under root = s.under root :=
  Keyed.filter_insert outside value s.values

/-- Where nothing under a root is off, no switch under it is. -/
theorem getBool?_ne_false (none : s.anyDisabled root = false) (inside : startsWith root name = true) :
    s.getBool? name ≠ some false := by
  intro off
  have found : ∃ stored, (s.under root).find? name = some stored ∧ stored.asBool? = some false := by
    rw [find?_under inside]
    exact Option.bind_eq_some_iff.mp off
  obtain ⟨stored, found, isOff⟩ := found
  have some : s.anyDisabled root = true :=
    List.any_eq_true.mpr ⟨(name, stored), Keyed.mem_of_find? found, by simp [isOff]⟩
  rw [none] at some
  cases some

theorem get?_write_of_ne (differs : other ≠ name) (value : Value) (s : Settings) :
    (s.write name value).2.get? other = s.get? other := by
  unfold Settings.write
  split
  · exact get?_introduce_of_ne differs value _
  · rfl

theorem isExplicit_write_of_ne (differs : other ≠ name) (value : Value) (s : Settings) :
    (s.write name value).2.isExplicit other = s.isExplicit other := by
  unfold Settings.write
  split
  · exact isExplicit_mark_of_ne differs s
  · exact isExplicit_mark_of_ne differs s

/-- Whoever is written has a value. -/
def Sound (s : Settings) : Prop := ∀ name, s.isExplicit name = true → (s.get? name).isSome

theorem Sound.introduce (h : s.Sound) (name : String) (value : Value) :
    (s.introduce name value).Sound := by
  intro other written
  by_cases same : other = name
  · rw [same, get?_introduce_self]
    rfl
  · rw [get?_introduce_of_ne same]
    exact h other written

/-- A value the settings hold already is the same as the stored one only if there is one. -/
theorem isSome_of_same (same : s.differs name value = false) : (s.get? name).isSome := by
  unfold differs at same
  cases stored : s.get? name with
  | none => simp [stored, Value.sameOption] at same
  | some => rfl

theorem Sound.write (h : s.Sound) (name : String) (value : Value) : (s.write name value).2.Sound := by
  intro other written
  by_cases same : other = name
  · subst same
    cases differs : s.differs other value with
    | true =>
        rw [write_of_differs other value s differs, get?_introduce_self]
        rfl
    | false =>
        rw [write_of_same other value s differs]
        exact isSome_of_same differs
  · rw [isExplicit_write_of_ne same] at written
    rw [get?_write_of_ne same]
    exact h other written

theorem get?_write_self (name : String) (value : Value) (s : Settings) :
    (s.write name value).2.get? name = if s.differs name value then some value else s.get? name := by
  unfold Settings.write
  split
  · exact get?_introduce_self name value _
  · rfl

theorem getBool?_write_of_ne (differs : other ≠ name) (value : Value) (s : Settings) :
    (s.write name value).2.getBool? other = s.getBool? other :=
  congrArg (Option.bind · Value.asBool?) (get?_write_of_ne differs value s)

theorem getBool?_write_self (name : String) (on : Bool) (s : Settings) :
    (s.write name (.bool on)).2.getBool? name = some on := by
  change ((s.write name (.bool on)).2.get? name).bind Value.asBool? = some on
  rw [get?_write_self]
  split
  · rfl
  · rename_i same
    rw [Bool.not_eq_true, differs, Bool.not_eq_false'] at same
    cases stored : s.get? name with
    | none => simp [stored, Value.sameOption] at same
    | some value =>
        cases value with
        | bool here =>
            rw [stored, Value.sameOption, Value.same_bool] at same
            rw [eq_of_beq same]
            rfl
        | _ => simp [stored, Value.sameOption, Value.same] at same

theorem explicit_write (name : String) (value : Value) (s : Settings) :
    (s.write name value).2.explicit = (s.mark name).explicit := by
  unfold Settings.write
  split <;> rfl

/-- Some switches have become known, on and unwritten; nothing else is different. -/
structure Learns (news : String → Prop) (s t : Settings) : Prop where
  explicit : t.explicit = s.explicit
  values : ∀ name, t.get? name = s.get? name ∨
    news name ∧ s.get? name = none ∧ t.get? name = some (.bool true)

section
variable {news more : String → Prop} {t u : Settings}

theorem Learns.refl (news : String → Prop) (s : Settings) : Learns news s s :=
  ⟨rfl, fun _ => .inl rfl⟩

theorem Learns.introduce (unknown : s.get? name = none) (new : news name) :
    Learns news s (s.introduce name (.bool true)) := by
  refine ⟨rfl, fun other => ?_⟩
  by_cases here : other = name
  · subst here
    exact .inr ⟨new, unknown, get?_introduce_self _ _ s⟩
  · exact .inl (get?_introduce_of_ne here _ s)

theorem Learns.mono (h : Learns news s t) (wider : ∀ name, news name → more name) :
    Learns more s t :=
  ⟨h.explicit, fun name => (h.values name).imp_right (And.imp_left (wider name))⟩

theorem Learns.trans (first : Learns news s t) (next : Learns news t u) : Learns news s u := by
  refine ⟨next.explicit.trans first.explicit, fun name => ?_⟩
  rcases next.values name with same | ⟨new, unknown, now⟩
  · rw [same]
    exact first.values name
  · rcases first.values name with same | ⟨-, -, before⟩
    · exact .inr ⟨new, same.symm.trans unknown, now⟩
    · rw [unknown] at before
      cases before

theorem Learns.isSome (h : Learns news s t) (known : (s.get? name).isSome) :
    (t.get? name).isSome := by
  rcases h.values name with same | ⟨-, -, now⟩
  · rwa [same]
  · rw [now]
    rfl

/-- A write makes up for what was learned about its name. -/
theorem Learns.write (h : Learns news s t) (name : String) (value : Value) :
    Learns news (s.write name value).2 (t.write name value).2 := by
  constructor
  · rw [explicit_write, explicit_write, mark, mark, h.explicit]
  · intro other
    by_cases here : other = name
    · subst here
      refine .inl ?_
      rw [get?_write_self, get?_write_self, differs, differs]
      rcases h.values other with same | ⟨-, unknown, now⟩
      · rw [same]
      · rw [unknown, now]
        cases value with
        | bool on => cases on <;> simp [Value.sameOption, Value.same]
        | _ => simp [Value.sameOption, Value.same]
    · rw [get?_write_of_ne here, get?_write_of_ne here]
      exact h.values other

end

end Settings
end SpanCapture
