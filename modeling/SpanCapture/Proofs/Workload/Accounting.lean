import SpanCapture.Proofs.Workload.Requests

/-! A whole run of a workload: one request after another. What holds after so many requests is
carried from each to the next: the traces delivered so far are those of the requests let through,
in their order, and the report accounts for every frame. Only an analyzer that crashes can stop
this. -/
namespace SpanCapture
namespace Workload

/-- At the end of a request its context is as it was opened, without open frames. -/
def Idles (w : Workload) (s : Service) (number : Nat) : Prop :=
  (w.respond (w.upTo s number) number).service.recorder? (w.upTo s number).service.nextContext =
    some (s.blank (w.upTo s number).service.nextContext)

/-- After so many requests, one trace was delivered for each that was let through. -/
structure Served (w : Workload) (s : Service) (count : Nat) (traces : List Trace) : Prop
    extends Between w s (traces.map Trace.size).sum (w.upTo s count) where
  delivered : s.dispatcher.Delivers traces (w.upTo s count).service.dispatcher
  willing : (w.upTo s count).service.dispatcher.Open
  labels : traces.map (·.root.entry.op.label) =
    (w.admitted s count).map fun number => (rootOperation number).label
  roots : (w.upTo s count).report.roots = traces.length
  idle : ∀ number < count, w.Idles s number
  exact : (w.upTo s count).report.skipped = 0 →
    (w.upTo s count).report.entered = count * w.framesPerRequest ∧
      (w.upTo s count).leaves = count * w.fanout ^ w.depth

/-- What a report says about a run of a workload that began with one service and ended with
another. -/
structure Accounts (w : Workload) (s : Service) (report : WorkloadReport) (s' : Service) : Prop where
  /-- One trace is delivered for each request let through, in the order of the requests, and the
  frames entered are those of the traces and those discarded. -/
  delivered : ∃ traces, s.dispatcher.Delivers traces s'.dispatcher ∧
    traces.length = report.roots ∧
    traces.map (·.root.entry.op.label) =
      (w.admitted s w.requests).map (fun number => (rootOperation number).label) ∧
    (traces.map Trace.size).sum + report.discarded = report.entered
  /-- The other requests are those whose root was rejected. -/
  requests : report.roots +
    (List.range w.requests).countP (fun number => !w.admits (w.upTo s number)) = w.requests
  idle : ∀ number < w.requests, w.Idles s number
  /-- If no probe was rejected, all counts are known. A period of zero lets nothing fail. -/
  exact : report.skipped = 0 →
    report.entered = w.requests * w.framesPerRequest ∧
      report.failures =
        (if w.failEvery = 0 then 0 else w.requests * w.fanout ^ w.depth / w.failEvery) ∧
      report.discarded = (List.range (w.requests * w.fanout ^ w.depth)).countP w.vanishes

section
variable {w : Workload} {s : Service} {held count : Nat} {traces : List Trace}

theorem Served.placed (h : Served w s count traces) (deep : 1 ≤ w.depth) :
    w.Placed 0 (w.upTo s count) := by
  intro none
  refine ⟨count * w.fanout ^ (w.depth - 1), ?_⟩
  rw [(h.exact none).2, Nat.add_zero, Nat.mul_assoc, ← Nat.pow_succ, Nat.succ_eq_add_one,
    Nat.sub_add_cancel deep]

theorem admitted_succ (w : Workload) (s : Service) (count : Nat) :
    w.admitted s (count + 1) =
      w.admitted s count ++ if w.admits (w.upTo s count) then [count] else [] := by
  rw [admitted, List.range_succ, List.filter_append, List.filter_cons, List.filter_nil]
  rfl

/-- Dropping a context changes nothing that the books are about. -/
theorem Between.dropped {run : WorkloadRun} (h : Between w s held run) (context : Nat) :
    Between w s held { run with service := run.service.dropContext context } :=
  ⟨⟨h.going, h.frames, h.failures, h.discarded⟩, h.sound.dropContext context,
    h.alike.trans ⟨rfl, rfl, rfl, rfl, rfl, rfl⟩⟩

theorem served_none (sound : s.Sound) (willing : s.dispatcher.Open) : Served w s 0 [] where
  going := rfl
  frames := rfl
  failures := (Nat.zero_div _).symm
  discarded _ := rfl
  sound := sound
  alike := .refl s
  delivered := Dispatcher.delivers_nothing _
  willing := willing
  labels := rfl
  roots := rfl
  idle := nofun
  exact _ := ⟨(Nat.zero_mul _).symm, (Nat.zero_mul _).symm⟩

/-- The counts of one more request, if nothing was skipped. -/
theorem Served.exact_next (h : Served w s count traces) (roots : Nat) {run' : WorkloadRun}
    (advances : Advances w.framesPerRequest (w.fanout ^ w.depth)
      { w.upTo s count with report := { (w.upTo s count).report with roots } } run')
    (none : run'.report.skipped = 0) :
    run'.report.entered = (count + 1) * w.framesPerRequest ∧
      run'.leaves = (count + 1) * w.fanout ^ w.depth := by
  obtain ⟨entered, leaves⟩ := h.exact (Nat.le_zero.mp (none ▸ advances.skipped))
  obtain ⟨entered', leaves'⟩ := advances.exact none
  exact ⟨by rw [entered', entered, Nat.succ_mul], by rw [leaves', leaves, Nat.succ_mul]⟩

theorem upTo_next (going : (w.upTo s count).crash = none) :
    w.upTo s (count + 1) =
      { w.respond (w.upTo s count) count with
        service := (w.respond (w.upTo s count) count).service.dropContext
          (w.upTo s count).service.nextContext } := by
  rw [upTo_succ, request, WorkloadRun.unlessStopped_of_going going]

theorem Served.idle_next (h : Served w s count traces) (idles : w.Idles s count) :
    ∀ number < count + 1, w.Idles s number := by
  intro number before
  rcases Nat.lt_succ_iff_lt_or_eq.mp before with earlier | rfl
  · exact h.idle number earlier
  · exact idles

theorem Served.next (h : Served w s count traces) (serves : w.Serves s) (deep : 1 ≤ w.depth) :
    Stopped s (w.upTo s (count + 1)) ∨ ∃ traces, Served w s (count + 1) traces := by
  have next := upTo_next h.going
  rcases h.toBetween.responds serves deep (h.placed deep) count with stopped | ⟨responds, idles⟩
  · rw [next]
    exact .inl stopped
  refine .inr ?_
  cases responds with
  | rejected verdict same between advances =>
      have exact := h.exact_next _ advances
      refine ⟨traces, ?_⟩
      constructor
      · rw [next]
        exact between.dropped _
      · rw [next]
        exact same ▸ h.delivered
      · rw [next]
        exact same ▸ h.willing
      · rw [admitted_succ, verdict, h.labels]
        simp
      · rw [next]
        exact advances.roots.trans h.roots
      · exact h.idle_next idles
      · rw [next]
        exact exact
  | delivered trace verdict dispatched label between advances =>
      have exact := h.exact_next _ advances
      refine ⟨traces ++ [trace], ?_⟩
      constructor
      · rw [next, List.map_append, List.sum_append]
        exact between.dropped _
      · rw [next]
        exact dispatched ▸ h.delivered.dispatch h.willing trace
      · rw [next]
        exact dispatched ▸ (h.willing.dispatch trace).2
      · rw [admitted_succ, verdict, List.map_append, List.map_append, h.labels]
        exact congrArg (_ ++ [·]) label
      · rw [next, List.length_append]
        exact advances.roots.trans (congrArg (· + 1) h.roots)
      · exact h.idle_next idles
      · rw [next]
        exact exact

theorem served (serves : w.Serves s) (deep : 1 ≤ w.depth) (sound : s.Sound)
    (willing : s.dispatcher.Open) (count : Nat) :
    Stopped s (w.upTo s count) ∨ ∃ traces, Served w s count traces := by
  induction count with
  | zero => exact .inr ⟨[], served_none sound willing⟩
  | succ count ih =>
      rcases ih with stopped | ⟨traces, served⟩
      · rw [upTo_succ, request, WorkloadRun.unlessStopped_of_stopped stopped.1]
        exact .inl stopped
      · exact served.next serves deep

theorem run_eq (w : Workload) (s : Service) :
    w.run s = ((w.upTo s w.requests).crash.elim (.done (w.upTo s w.requests).report) .crashed,
      (w.upTo s w.requests).service) := by
  have same : (List.range w.requests).foldl w.request { service := s } = w.upTo s w.requests := rfl
  rw [run, same]
  cases (w.upTo s w.requests).crash <;> rfl

theorem Served.accounts (h : Served w s w.requests traces) :
    w.Accounts s (w.upTo s w.requests).report (w.upTo s w.requests).service := by
  refine ⟨⟨traces, h.delivered, h.roots.symm, h.labels, h.frames⟩, ?_, h.idle, ?_⟩
  · -- Every request was let through or not, and the first have a trace each.
    have admitted := congrArg List.length h.labels
    rw [List.length_map, List.length_map, Workload.admitted, ← List.countP_eq_length_filter]
      at admitted
    have all := List.length_eq_countP_add_countP (fun number => w.admits (w.upTo s number))
      (l := List.range w.requests)
    rw [List.length_range] at all
    rw [h.roots, admitted]
    simpa [Bool.not_eq_true] using all.symm
  · intro none
    obtain ⟨entered, leaves⟩ := h.exact none
    refine ⟨entered, ?_, ?_⟩
    · rw [h.failures, leaves]
      split
      · rename_i never
        rw [never, Nat.div_zero]
      · rfl
    · rw [h.discarded none, leaves]

/-- Every run that ends with a report accounts for every frame; and if no analyzer crashes, every run
ends with a report. -/
theorem accounts_for_every_frame (deep : 1 ≤ w.depth) (sound : s.Sound) (serves : w.Serves s)
    (willing : s.dispatcher.Open) :
    (s.analyzers.Quiet → ∃ report s', w.run s = (.done report, s')) ∧
      ∀ report s', w.run s = (.done report, s') → w.Accounts s report s' := by
  rw [run_eq]
  rcases served serves deep sound willing w.requests with stopped | ⟨traces, served⟩
  · obtain ⟨message, crashed⟩ := Option.isSome_iff_exists.mp stopped.1
    rw [crashed]
    exact ⟨fun quiet => absurd quiet stopped.2, nofun⟩
  · rw [served.going]
    refine ⟨fun _ => ⟨_, _, rfl⟩, ?_⟩
    rintro report s' ended
    cases ended
    exact served.accounts

def attentive : Setup :=
  { Setup.plain with config := {}, receivers := [⟨"memory", .collecting [], []⟩] }

/-- Two requests for a known application; every third leaf fails. -/
def shop : Workload := { requests := 2, application := some "shop", failEvery := 3 }

theorem shop_accounts :
    ∃ s s', Service.build attentive = .done (.ok s) ∧ 1 ≤ shop.depth ∧ s.Sound ∧ shop.Serves s ∧
      s.dispatcher.Open ∧ s.analyzers.Quiet ∧ shop.run s = (.done ⟨2, 14, 0, 2, 3⟩, s') ∧
      shop.Accounts s ⟨2, 14, 0, 2, 3⟩ s' := by
  obtain ⟨s, built⟩ : ∃ s, Service.build attentive = .done (.ok s) := ⟨_, rfl⟩
  have sound := Service.sound_build built
  have serves : shop.Serves s := by
    cases built
    exact ⟨rfl, Service.welcomes_byHint rfl (by decide), by decide⟩
  have willing : s.dispatcher.Open := by
    cases built
    exact ⟨0, by decide, _, rfl, Receiver.willing_collecting _ _ _⟩
  have quiet : s.analyzers.Quiet := by
    cases built
    exact nofun
  obtain ⟨ends, accounts⟩ :=
    accounts_for_every_frame (by decide : 1 ≤ shop.depth) sound serves willing
  obtain ⟨report, s', ran⟩ := ends quiet
  have known : (shop.run s).1 = .done ⟨2, 14, 0, 2, 3⟩ := by
    cases built
    decide +kernel
  rw [ran] at known
  cases known
  exact ⟨s, s', built, by decide, sound, serves, willing, quiet, ran, accounts _ s' ran⟩

end

end Workload
end SpanCapture
