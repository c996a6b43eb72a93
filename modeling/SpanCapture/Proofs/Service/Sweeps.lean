import Mathlib.Data.List.Nodup
import SpanCapture.Proofs.Recorder.Unwinding
import SpanCapture.Proofs.Service.Recorders

/-! Sweeps over contexts that nobody is at work in. As long as no script crashes, the order in which
the contexts are visited makes no difference, nothing is delivered, and a second sweep finds nothing
to do. A script that crashes ends the sweep in its context; those behind it are not visited. -/
namespace SpanCapture

/-- Unwinding does not crash: the trace is not due, or no script of an open frame crashes. -/
def Recorder.Harmless (maxAge now : Nat) (r : Recorder) : Prop := r.isDue maxAge now → r.Calm

instance (maxAge now : Nat) (r : Recorder) : Decidable (r.Harmless maxAge now) :=
  inferInstanceAs (Decidable (_ = true → r.Calm))

namespace Service

/-- Drops the trace of a context; unwinding it has taken time. -/
def expire (s : Service) (entry : Nat × Recorder) : Service :=
  { s with clock := s.clock.advance (Frame.delay entry.2.markOverdue.openFrames) }.setRecorder
    entry.1 entry.2.cleared

/-- What a visit leaves in which no script crashes. -/
def settle (now : Nat) (s : Service) (entry : Nat × Recorder) : Service :=
  if entry.2.isDue s.maxAge now then s.expire entry else s

section
variable {s : Service} {id now : Nat} {r : Recorder} {entry : Nat × Recorder}
  {order : List (Nat × Recorder)}

/-- A trace closed by the watchdog is not delivered. -/
theorem finish_overdue {completed : CompletedTrace}
    (overdue : completed.hints.flag HintName.overdue) (s : Service) :
    s.finish completed = (.done (), s) := by
  simp only [finish, Assembler.assemble_overdue _ _ _ _ overdue]

theorem maxAge_settle (now : Nat) (s : Service) (entry : Nat × Recorder) :
    (s.settle now entry).maxAge = s.maxAge := by
  unfold settle
  split <;> rfl

theorem keys_settle (now : Nat) (s : Service) (entry : Nat × Recorder) :
    (s.settle now entry).contexts.keys = s.contexts.keys := by
  unfold settle
  split
  · exact Slots.keys_modify entry.1 (fun _ => entry.2.cleared) s.contexts
  · rfl

theorem delivery_settle (now : Nat) (s : Service) (entry : Nat × Recorder) :
    (s.settle now entry).dispatcher = s.dispatcher ∧ (s.settle now entry).journal = s.journal := by
  unfold settle
  split <;> exact ⟨rfl, rfl⟩

theorem expire_comm {a b : Nat × Recorder} (apart : b.1 ≠ a.1) (s : Service) :
    (s.expire a).expire b = (s.expire b).expire a := by
  have times (n m : Nat) : (s.clock.advance n).advance m = (s.clock.advance m).advance n := by
    rw [Clock.advance_advance, Clock.advance_advance, Nat.add_comm]
  simp only [expire, setRecorder, times (Frame.delay a.2.markOverdue.openFrames),
    Slots.modify_comm apart]

/-- Visits of two contexts may come in either order. -/
theorem settle_comm {a b : Nat × Recorder} (apart : b.1 ≠ a.1) (now : Nat) (s : Service) :
    (s.settle now a).settle now b = (s.settle now b).settle now a := by
  have ages : ∀ entry, (s.expire entry).maxAge = s.maxAge := fun _ => rfl
  cases first : a.2.isDue s.maxAge now with
  | false =>
      cases second : b.2.isDue s.maxAge now <;> simp [settle, first, second, ages]
  | true =>
      cases second : b.2.isDue s.maxAge now with
      | false => simp [settle, first, second, ages]
      | true => simp [settle, first, second, ages, expire_comm apart]

theorem visit_harmless (unique : s.contexts.keys.Nodup) (known : s.recorder? id = some r)
    (harmless : r.Harmless s.maxAge now) :
    s.visit now id r = (.done (r.isDue s.maxAge now), s.settle now (id, r)) := by
  unfold visit settle
  cases due : r.isDue s.maxAge now with
  | false =>
      rw [Recorder.unwind_of_not_due due]
      dsimp only
      rw [setRecorder_self unique known]
      rfl
  | true =>
      obtain ⟨trace, unwound, shape⟩ := Recorder.unwind_of_calm due (harmless due) s.clock
      have overdue : trace.hints.flag HintName.overdue := by
        rw [shape.completed]
        exact Recorder.overdue_markOverdue r
      rw [unwound]
      dsimp only
      rw [finish_overdue overdue]
      rfl

/-- A sweep in which no script crashes visits every context. -/
theorem sweepThrough_harmless (unique : s.contexts.keys.Nodup) (once : (order.map Prod.fst).Nodup)
    (agrees : ∀ entry ∈ order, s.recorder? entry.1 = some entry.2)
    (harmless : ∀ entry ∈ order, entry.2.Harmless s.maxAge now) (report : SweepReport) :
    sweepThrough now [] report order s =
      (.done { report with
          visited := report.visited + order.length
          unwound := report.unwound + order.countP fun entry => entry.2.isDue s.maxAge now },
        order.foldl (settle now) s) := by
  induction order generalizing s report with
  | nil => rfl
  | cons entry rest ih =>
      obtain ⟨id, r⟩ := entry
      obtain ⟨apart, others⟩ := List.nodup_cons.mp once
      obtain ⟨here, later⟩ := List.forall_mem_cons.mp agrees
      obtain ⟨top, below⟩ := List.forall_mem_cons.mp harmless
      have visited := visit_harmless unique here top
      -- The others are other contexts, and whether one is due does not depend on the clock.
      have elsewhere := agrees_visit apart later now r
      rw [visited] at elsewhere
      have free : ¬(List.contains [] id && r.isBuilding) = true := Bool.false_ne_true
      unfold sweepThrough
      dsimp only
      rw [if_neg free, visited]
      dsimp only
      rw [ih (keys_settle now s (id, r) ▸ unique) others elsewhere
        ((maxAge_settle now s (id, r)).symm ▸ below), maxAge_settle, List.foldl_cons,
        List.countP_cons, List.length_cons]
      cases due : r.isDue s.maxAge now <;> simp <;> omega

/-- Such a sweep reports all contexts as visited and those overdue as unwound, and so they are. -/
theorem sweepThrough_answers (unique : s.contexts.keys.Nodup) (once : (order.map Prod.fst).Nodup)
    (agrees : ∀ entry ∈ order, s.recorder? entry.1 = some entry.2)
    (harmless : ∀ entry ∈ order, entry.2.Harmless s.maxAge now) :
    (sweepThrough now [] {} order s).1 = .done ⟨order.length, 0,
        order.countP fun entry => entry.2.isDue s.maxAge now⟩ ∧
      ∀ entry ∈ order, (sweepThrough now [] {} order s).2.recorder? entry.1 =
        some (if entry.2.isDue s.maxAge now then entry.2.cleared else entry.2) := by
  have answer : (sweepThrough now [] {} order s).1 = .done ⟨order.length, 0,
      order.countP fun entry => entry.2.isDue s.maxAge now⟩ := by
    rw [sweepThrough_harmless unique once agrees harmless, Nat.zero_add, Nat.zero_add]
  refine ⟨answer, fun entry member => ?_⟩
  refine recorder?_sweepThrough now [] {} once agrees ?_ member
  rw [answer]
  rfl

/-- The contexts of a service, in whatever order, are those it knows. -/
theorem agrees_of_perm (unique : s.contexts.keys.Nodup) (perm : order.Perm s.contexts.entries) :
    (order.map Prod.fst).Nodup ∧ ∀ entry ∈ order, s.recorder? entry.1 = some entry.2 := by
  constructor
  · exact (perm.map Prod.fst).nodup_iff.mpr unique
  · intro entry member
    exact (Slots.find?_eq_some_iff unique).mpr (perm.mem_iff.mp member)

theorem foldl_settle_perm {other : List (Nat × Recorder)} (once : (order.map Prod.fst).Nodup)
    (perm : order.Perm other) (now : Nat) (s : Service) :
    order.foldl (settle now) s = other.foldl (settle now) s := by
  apply perm.foldl_eq'
  intro a first b second s
  by_cases same : b.1 = a.1
  · rw [List.inj_on_of_nodup_map once second first same]
  · exact settle_comm same now s

/-- In whatever order, a sweep in which no script crashes comes to the same. -/
theorem sweepThrough_perm (unique : s.contexts.keys.Nodup)
    (harmless : ∀ entry ∈ s.contexts.entries, entry.2.Harmless s.maxAge now)
    (perm : order.Perm s.contexts.entries) :
    sweepThrough now [] {} order s =
      (.done ⟨s.contexts.entries.length, 0,
          s.contexts.entries.countP fun entry => entry.2.isDue s.maxAge now⟩,
        s.contexts.entries.foldl (settle now) s) := by
  obtain ⟨once, agrees⟩ := agrees_of_perm unique perm
  have all : ∀ entry ∈ order, entry.2.Harmless s.maxAge now :=
    fun entry member => harmless entry (perm.mem_iff.mp member)
  rw [sweepThrough_harmless unique once agrees all, foldl_settle_perm once perm, perm.length_eq,
    perm.countP_eq, Nat.zero_add, Nat.zero_add]

theorem recorder?_swept (unique : s.contexts.keys.Nodup)
    (harmless : ∀ entry ∈ s.contexts.entries, entry.2.Harmless s.maxAge now)
    (known : s.recorder? id = some r) :
    (s.sweep now []).2.recorder? id = some (if r.isDue s.maxAge now then r.cleared else r) := by
  obtain ⟨once, agrees⟩ := agrees_of_perm unique (.refl _)
  exact (sweepThrough_answers unique once agrees harmless).2 (id, r) (Slots.mem_of_find? known)

theorem foldl_settle_leaves (now : Nat) (order : List (Nat × Recorder)) (s : Service) :
    let swept := order.foldl (settle now) s
    swept.maxAge = s.maxAge ∧ swept.contexts.keys = s.contexts.keys ∧
      swept.dispatcher = s.dispatcher ∧ swept.journal = s.journal := by
  induction order generalizing s with
  | nil => exact ⟨rfl, rfl, rfl, rfl⟩
  | cons entry rest ih =>
      obtain ⟨age, keys, dispatcher, journal⟩ := ih (s.settle now entry)
      obtain ⟨quiet, silent⟩ := delivery_settle now s entry
      exact ⟨age.trans (maxAge_settle now s entry), keys.trans (keys_settle now s entry),
        dispatcher.trans quiet, journal.trans silent⟩

/-- Where no trace is due, a sweep in whatever order changes nothing. -/
theorem sweepThrough_idle (unique : s.contexts.keys.Nodup)
    (idle : ∀ entry ∈ s.contexts.entries, entry.2.isDue s.maxAge now = false)
    (perm : order.Perm s.contexts.entries) :
    sweepThrough now [] {} order s = (.done ⟨s.contexts.entries.length, 0, 0⟩, s) := by
  have harmless : ∀ entry ∈ s.contexts.entries, entry.2.Harmless s.maxAge now := by
    intro entry member due
    rw [idle entry member] at due
    cases due
  have settled (rest : List (Nat × Recorder))
      (idle : ∀ entry ∈ rest, entry.2.isDue s.maxAge now = false) :
      rest.foldl (settle now) s = s := by
    induction rest with
    | nil => rfl
    | cons entry rest ih =>
        obtain ⟨here, later⟩ := List.forall_mem_cons.mp idle
        have same : s.settle now entry = s := by
          rw [settle, here]
          rfl
        rw [List.foldl_cons, same]
        exact ih later
  have none : s.contexts.entries.countP (fun entry => entry.2.isDue s.maxAge now) = 0 := by
    rw [List.countP_eq_zero]
    intro entry member
    rw [idle entry member]
    exact Bool.false_ne_true
  rw [sweepThrough_perm unique harmless perm, settled _ idle, none]

/-- After a sweep no trace is due at that time. -/
theorem idle_of_swept (unique : s.contexts.keys.Nodup)
    (harmless : ∀ entry ∈ s.contexts.entries, entry.2.Harmless s.maxAge now) :
    ∀ entry ∈ (s.sweep now []).2.contexts.entries,
      entry.2.isDue (s.sweep now []).2.maxAge now = false := by
  have swept : (s.sweep now []).2 = s.contexts.entries.foldl (settle now) s := by
    rw [sweep, sweepThrough_perm unique harmless (.refl _)]
  obtain ⟨age, keys, -, -⟩ := foldl_settle_leaves now s.contexts.entries s
  rw [← swept] at age keys
  rintro ⟨id, r'⟩ member
  have found : (s.sweep now []).2.recorder? id = some r' :=
    (Slots.find?_eq_some_iff (keys ▸ unique)).mpr member
  have listed : id ∈ (s.sweep now []).2.contexts.keys := mem_keys found
  rw [keys] at listed
  obtain ⟨entry, there, rfl⟩ := List.mem_map.mp listed
  have known : s.recorder? entry.1 = some entry.2 := (Slots.find?_eq_some_iff unique).mpr there
  rw [recorder?_swept unique harmless known] at found
  rw [age, ← Option.some.inj found]
  cases due : entry.2.isDue s.maxAge now with
  | false => exact due
  | true => rfl

/-- Sweeps over contexts that nobody is at work in and in which no script of an overdue trace crashes:
in whatever order the contexts are visited, a sweep leaves the same service and reports all of them
visited and those overdue unwound. Their recorders are as they were made, the others are left, and
nothing is offered to anybody. A second sweep at the same time, in whatever order, unwinds nothing and
changes nothing. -/
theorem sweeps_agree_and_settle (unique : s.contexts.keys.Nodup)
    (harmless : ∀ entry ∈ s.contexts.entries, entry.2.Harmless s.maxAge now) :
    let swept := (s.sweep now []).2
    (∀ order, order.Perm s.contexts.entries →
      sweepThrough now [] {} order s = s.sweep now []) ∧
    (s.sweep now []).1 = .done ⟨s.contexts.entries.length, 0,
      s.contexts.entries.countP fun entry => entry.2.isDue s.maxAge now⟩ ∧
    (∀ id r, s.recorder? id = some r →
      swept.recorder? id = some (if r.isDue s.maxAge now then r.cleared else r)) ∧
    swept.dispatcher = s.dispatcher ∧ swept.journal = s.journal ∧
    ∀ order, order.Perm swept.contexts.entries →
      sweepThrough now [] {} order swept = (.done ⟨s.contexts.entries.length, 0, 0⟩, swept) := by
  intro swept
  have once := sweepThrough_perm unique harmless (.refl _)
  have result : swept = s.contexts.entries.foldl (settle now) s := congrArg Prod.snd once
  obtain ⟨-, keys, dispatcher, journal⟩ := foldl_settle_leaves now s.contexts.entries s
  rw [← result] at keys dispatcher journal
  refine ⟨?_, congrArg Prod.fst once, ?_, dispatcher, journal, ?_⟩
  · intro order perm
    rw [sweep, sweepThrough_perm unique harmless perm, once]
  · intro id r known
    exact recorder?_swept unique harmless known
  · intro order perm
    have count : swept.contexts.entries.length = s.contexts.entries.length := by
      have lengths := congrArg List.length keys
      rwa [Slots.keys, Slots.keys, List.length_map, List.length_map] at lengths
    rw [← count]
    exact sweepThrough_idle (keys ▸ unique) (idle_of_swept unique harmless) perm

/-- Three contexts at work, two of them for a minute; a script is waiting in the first. -/
def threeContexts (script : List Action) : List Call :=
  [.newContext, .newContext, .newContext,
    .enter 1 { kind := "http", label := "first", pending := [script] },
    .enter 2 { kind := "http", label := "second" }, .wait 60000000000,
    .enter 3 { kind := "http", label := "third" }]

theorem two_of_three_unwound :
    ∃ first, build Setup.plain = .done (.ok first) ∧
      let s := after step first (threeContexts [.advance 5])
      let swept := (s.sweep 60000000000 []).2
      sweepThrough 60000000000 [] {} s.contexts.entries.reverse s = s.sweep 60000000000 [] ∧
        (s.sweep 60000000000 []).1 = .done ⟨3, 0, 2⟩ ∧
        swept.sweep 60000000000 [] = (.done ⟨3, 0, 0⟩, swept) := by
  refine ⟨_, rfl, ?_⟩
  intro s swept
  have unique : s.contexts.keys.Nodup := by decide +kernel
  have harmless : ∀ entry ∈ s.contexts.entries, entry.2.Harmless s.maxAge 60000000000 := by
    decide +kernel
  have visited : s.contexts.entries.length = 3 := by decide +kernel
  have unwound : (s.contexts.entries.countP fun entry =>
      entry.2.isDue s.maxAge 60000000000) = 2 := by decide +kernel
  obtain ⟨agree, report, -, -, -, again⟩ := sweeps_agree_and_settle unique harmless
  rw [visited] at report again
  rw [unwound] at report
  exact ⟨agree _ (List.reverse_perm _), report, again _ (.refl _)⟩

/-- A sweep that has been through some contexts goes on with the others. -/
theorem sweepThrough_append {held : List Nat} {before : List (Nat × Recorder)}
    {report report' : SweepReport} (done : (sweepThrough now held report before s).1 = .done report')
    (rest : List (Nat × Recorder)) :
    sweepThrough now held report (before ++ rest) s =
      sweepThrough now held report' rest (sweepThrough now held report before s).2 := by
  induction before generalizing s report with
  | nil =>
      cases done
      rfl
  | cons entry before ih =>
      obtain ⟨id, r⟩ := entry
      simp only [List.cons_append, sweepThrough] at done ⊢
      by_cases busy : (held.contains id && r.isBuilding) = true
      · rw [if_pos busy] at done
        rw [if_pos busy, if_pos busy]
        exact ih done
      · rw [if_neg busy] at done
        rw [if_neg busy, if_neg busy]
        cases visited : s.visit now id r with
        | mk outcome s' =>
            rw [visited] at done
            cases outcome with
            | crashed message => cases done
            | done unwound => exact ih done

/-- Unwinding a recorder that is not harmless crashes the visit. -/
theorem visit_crashes (id : Nat) (harm : ¬r.Harmless s.maxAge now) :
    ∃ message, (r.unwind s.maxAge now s.clock).2.2 = .crashed message ∧
      s.visit now id r = (.crashed message, s.record id r (.unwind s.maxAge now)) := by
  have loud : ¬(r.unwind s.maxAge now s.clock).2.2.isDone := mt Recorder.isDone_unwind_iff.mp harm
  have visited := visits now id r s
  generalize s.visit now id r = result at visited
  cases visited with
  | crashed answered => exact ⟨_, answered, rfl⟩
  | spared answered =>
      rw [answered] at loud
      exact absurd rfl loud
  | unwound answered =>
      rw [answered] at loud
      exact absurd rfl loud

/-- The first context in which a script crashes ends a sweep. -/
theorem sweepThrough_crashes {before behind : List (Nat × Recorder)}
    (unique : s.contexts.keys.Nodup) (once : ((before ++ (id, r) :: behind).map Prod.fst).Nodup)
    (agrees : ∀ entry ∈ before ++ (id, r) :: behind, s.recorder? entry.1 = some entry.2)
    (harmless : ∀ entry ∈ before, entry.2.Harmless s.maxAge now)
    (harm : ¬r.Harmless s.maxAge now) :
    let swept := sweepThrough now [] {} (before ++ (id, r) :: behind) s
    ∃ clock message, (r.unwind s.maxAge now clock).2.2 = .crashed message ∧
      swept.1 = .crashed message ∧
      (∀ entry ∈ before, swept.2.recorder? entry.1 =
        some (if entry.2.isDue s.maxAge now then entry.2.cleared else entry.2)) ∧
      swept.2.recorder? id = some (r.unwind s.maxAge now clock).2.1 ∧
      ∀ entry ∈ behind, swept.2.recorder? entry.1 = some entry.2 := by
  rw [List.map_append, List.map_cons, List.nodup_append] at once
  obtain ⟨first, last, apart⟩ := once
  obtain ⟨here, others⟩ := List.nodup_cons.mp last
  obtain ⟨known, rest⟩ := List.forall_mem_append.mp agrees
  obtain ⟨answered, unwound⟩ := sweepThrough_answers unique first known harmless
  -- None of the contexts from the crash on has been visited before it.
  have untouched : ∀ entry ∈ (id, r) :: behind,
      (sweepThrough now [] {} before s).2.recorder? entry.1 = some entry.2 := by
    intro entry member
    have absent : entry.1 ∉ before.map Prod.fst := by
      intro earlier
      exact apart _ earlier _ (List.mem_map_of_mem (f := Prod.fst) member) rfl
    rw [recorder?_sweepThrough_of_not_mem now [] {} absent]
    exact rest entry member
  have age : (sweepThrough now [] {} before s).2.maxAge = s.maxAge := by
    rw [sweepThrough_harmless unique first known harmless]
    exact (foldl_settle_leaves now before s).1
  rw [sweepThrough_append answered]
  generalize (sweepThrough now [] {} before s).2 = s₁ at unwound untouched age
  rw [← age] at harm
  obtain ⟨message, crashed, visited⟩ := visit_crashes id harm
  have stopped (report : SweepReport) : sweepThrough now [] report ((id, r) :: behind) s₁ =
      (.crashed message, s₁.record id r (.unwind s₁.maxAge now)) := by
    have free : ¬(List.contains [] id && r.isBuilding) = true := Bool.false_ne_true
    rw [sweepThrough]
    dsimp only
    rw [if_neg free, visited]
  obtain ⟨top, below⟩ := List.forall_mem_cons.mp untouched
  rw [stopped, ← age]
  refine ⟨s₁.clock, message, crashed, rfl, ?_, recorder?_record top _, ?_⟩
  · intro entry member
    have earlier : id ∉ before.map Prod.fst := fun listed => apart _ listed _ List.mem_cons_self rfl
    rw [recorder?_record_of_ne (ne_of_not_mem earlier member), unwound entry member, age]
  · intro entry member
    rw [recorder?_record_of_ne (ne_of_not_mem here member)]
    exact below entry member

/-- A sweep over contexts that nobody is at work in, in whatever order. Where no script of an overdue
trace crashes, all contexts are visited and those overdue unwound. The first context in which one does
ends the sweep: those before it have been unwound where they were overdue, and those behind it are
left as they were. -/
theorem sweep_ends_at_first_crash (unique : s.contexts.keys.Nodup)
    (perm : order.Perm s.contexts.entries) :
    let swept := sweepThrough now [] {} order s
    ((∀ entry ∈ order, entry.2.Harmless s.maxAge now) →
      swept.1 = .done ⟨order.length, 0,
        order.countP fun entry => entry.2.isDue s.maxAge now⟩ ∧
      ∀ entry ∈ order, swept.2.recorder? entry.1 =
        some (if entry.2.isDue s.maxAge now then entry.2.cleared else entry.2)) ∧
    ∀ before id r behind, order = before ++ (id, r) :: behind →
      (∀ entry ∈ before, entry.2.Harmless s.maxAge now) → ¬r.Harmless s.maxAge now →
      ∃ clock message, (r.unwind s.maxAge now clock).2.2 = .crashed message ∧
        swept.1 = .crashed message ∧
        (∀ entry ∈ before, swept.2.recorder? entry.1 =
          some (if entry.2.isDue s.maxAge now then entry.2.cleared else entry.2)) ∧
        swept.2.recorder? id = some (r.unwind s.maxAge now clock).2.1 ∧
        ∀ entry ∈ behind, swept.2.recorder? entry.1 = some entry.2 := by
  intro swept
  obtain ⟨once, agrees⟩ := agrees_of_perm unique perm
  constructor
  · intro harmless
    exact sweepThrough_answers unique once agrees harmless
  · rintro before id r behind rfl harmless harm
    exact sweepThrough_crashes unique once agrees harmless harm

/-- Where the first context is visited between the others, the second is unwound and the third left. -/
theorem crash_between_contexts :
    ∃ first a b c, build Setup.plain = .done (.ok first) ∧
      let s := after step first (threeContexts [.crash "boom"])
      let swept := sweepThrough 60000000000 [] {} [c, a, b] s
      s.contexts.entries = [a, b, c] ∧ [c, a, b].map Prod.fst = [2, 1, 3] ∧
        swept.1.isDone = false ∧ swept.2.recorder? c.1 = some c.2.cleared ∧
        swept.2.recorder? b.1 = some b.2 := by
  have ran : ∃ first, build Setup.plain = .done (.ok first) ∧
      let s := after step first (threeContexts [.crash "boom"])
      s.contexts.keys = [1, 3, 2] ∧
        (s.contexts.entries.map fun entry => entry.2.isDue s.maxAge 60000000000) =
          [true, false, true] ∧
        (s.contexts.entries.map fun entry => decide (entry.2.Harmless s.maxAge 60000000000)) =
          [false, true, true] :=
    ⟨_, rfl, by decide +kernel, by decide +kernel, by decide +kernel⟩
  obtain ⟨first, built, keys, due, harmless⟩ := ran
  refine ⟨first, ?_⟩
  generalize after step first (threeContexts [.crash "boom"]) = s at *
  have unique : s.contexts.keys.Nodup := by
    rw [keys]
    decide
  obtain ⟨a, b, c, entries⟩ : ∃ a b c, s.contexts.entries = [a, b, c] := by
    rw [← List.length_eq_three, ← List.length_map, ← Slots.keys, keys]
    rfl
  rw [Slots.keys, entries] at keys
  rw [entries] at due harmless
  obtain ⟨one, three, two⟩ : a.1 = 1 ∧ b.1 = 3 ∧ c.1 = 2 := by simpa using keys
  obtain ⟨-, -, late⟩ : a.2.isDue s.maxAge 60000000000 ∧ b.2.isDue s.maxAge 60000000000 = false ∧
      c.2.isDue s.maxAge 60000000000 := by simpa using due
  obtain ⟨harm, -, calm⟩ : ¬a.2.Harmless s.maxAge 60000000000 ∧
      b.2.Harmless s.maxAge 60000000000 ∧ c.2.Harmless s.maxAge 60000000000 := by
    simpa using harmless
  have perm : [c, a, b].Perm s.contexts.entries := by
    rw [entries]
    exact (List.perm_append_singleton c [a, b]).symm
  obtain ⟨clock, message, -, crashed, before, -, behind⟩ :=
    (sweep_ends_at_first_crash unique perm).2 [c] a.1 a.2 [b] rfl (by simpa using calm) harm
  refine ⟨a, b, c, built, entries, ?_, ?_, ?_, behind b (List.mem_singleton_self b)⟩
  · simp [one, two, three]
  · rw [crashed]
    rfl
  · rw [before c (List.mem_singleton_self c), late]
    rfl

/-- A script that crashes in the context visited first: the second, overdue as well, stays as it was. -/
theorem crash_shields_later_context :
    ∃ first, build Setup.plain = .done (.ok first) ∧
      let s := after step first (threeContexts [.crash "boom"])
      let swept := s.sweep 60000000000 []
      (s.recorder? 2).any (·.isDue s.maxAge 60000000000) ∧ swept.1 = .crashed "boom" ∧
        (swept.2.recorder? 2).any (·.isDue s.maxAge 60000000000) :=
  ⟨_, rfl, by decide +kernel, by decide +kernel, by decide +kernel⟩

end
end Service
end SpanCapture
