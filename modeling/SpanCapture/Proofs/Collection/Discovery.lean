import SpanCapture.Proofs.Collection.Verdict

/-! Probes that come by make their switches known and decide nothing. Collecting a probe leaves the
settings as they were, but for its switches that were not known: they are on then, and unwritten. Two
boards of which one knows more switches of this kind come to the same verdicts, and writing keeps
them so; hence a verdict depends on what was written alone, and not on what was collected before. -/
namespace SpanCapture
namespace Switchboard

def Call.isWrite : Call → Bool
  | .write .. => true
  | _ => false

def Call.isCollect : Call → Bool
  | .collect _ => true
  | _ => false

/-- A board of bundled strategies that is up to date and on which nobody answers changes. -/
structure Orderly (board : Switchboard) : Prop where
  bundled : board.Bundled
  abreast : board.Abreast []
  sound : board.settings.Sound
  quiet : board.Quiet

section
variable {board board' : Switchboard} {probe : Probe}

theorem orderly_after {early calls : List Call} (before : ∀ call ∈ early, call.OnSettings)
    (plain : ∀ call ∈ calls, call.Plain) (config : Config) :
    let board := after step (Service.buildBoard config [] (after step {} early)) calls
    board.Quiet → board.Orderly := by
  intro board quiet
  obtain ⟨bundled, abreast, sound⟩ := bundled_after before plain config
  exact ⟨bundled, abreast, sound, quiet⟩

theorem Orderly.events (h : board.Orderly) (events : Events board board')
    (subscribers : board'.subscribers = board.subscribers) : board'.Orderly := by
  refine ⟨h.bundled.continues events.continues, h.abreast.events events, ?_, ?_⟩
  · exact Events.keeps (P := fun board => board.settings.Sound) (fun _ _ => Sound.event) h.sound
      events
  · rw [Quiet, subscribers]
    exact h.quiet

/-- Judging a probe leaves the board as showing it has made it. -/
theorem Orderly.collect_eq (h : board.Orderly) (probe : Probe) :
    (board.collect probe).2 = board.observeAll probe board.registered := by
  have shown := events_observeAll probe board.registered board
  exact (judgeAll_active (h.bundled.continues shown.continues) (h.abreast.events shown) probe).1

theorem Orderly.verdict (h : board.Orderly) (probe : Probe) :
    (board.collect probe).1 = true ↔ board.settings.Admits probe := by
  have shown := events_observeAll probe board.registered board
  obtain ⟨-, verdict⟩ := judgeAll_active (h.bundled.continues shown.continues)
    (h.abreast.events shown) probe
  exact verdict.trans (observeAll_quiet board.registered h.bundled h.quiet h.sound probe)

/-- Every switch of a probe is made known by a strategy of the chain. -/
theorem Bundled.registers (h : board.Bundled) {name : String} (member : name ∈ probe.switches) :
    ∃ number ∈ board.registered, ∃ s, board.strategies[number]? = some s ∧
      s.switchOf? probe = some name := by
  have listed (number : Nat) (inside : number < 6) : number ∈ board.registered :=
    mem_registered.mpr (h.enlisted number inside)
  rcases Probe.mem_switches.mp member with rfl | ⟨plugin, own, rfl⟩ | ⟨aspect, own, rfl⟩
  · obtain ⟨_, known, ⟨⟩⟩ := h.standing (show 5 < 6 by decide)
    exact ⟨5, listed 5 (by decide), _, known, rfl⟩
  · obtain ⟨_, known, ⟨⟩⟩ := h.standing (show 3 < 6 by decide)
    exact ⟨3, listed 3 (by decide), _, known, congrArg (Option.map SettingName.pluginEnabled) own⟩
  · obtain ⟨_, known, ⟨⟩⟩ := h.standing (show 4 < 6 by decide)
    exact ⟨4, listed 4 (by decide), _, known, congrArg (Option.map SettingName.aspectEnabled) own⟩

/-- Collecting a probe makes its switches known, and that is all it does to the settings. -/
theorem Orderly.collect_learns (h : board.Orderly) (probe : Probe) :
    (board.collect probe).2.subscribers = board.subscribers ∧
      Settings.Learns (· ∈ probe.switches) board.settings (board.collect probe).2.settings ∧
      ∀ name ∈ probe.switches, ((board.collect probe).2.settings.get? name).isSome := by
  rw [h.collect_eq]
  obtain ⟨subscribers, learns, now⟩ := observeAll_learns board.registered h.bundled h.quiet probe
  refine ⟨subscribers, learns, fun name member => ?_⟩
  obtain ⟨number, listed, s, known, own⟩ := h.bundled.registers member
  exact now number listed s name known own

theorem Orderly.collect (h : board.Orderly) (probe : Probe) : (board.collect probe).2.Orderly :=
  h.events (events_collect probe board) (h.collect_learns probe).1

theorem Orderly.write (h : board.Orderly) (name : String) (value : Value) :
    (board.write name value).Orderly :=
  h.events (.single (.served _)) (write_quiet h.quiet name value).2

/-- Of two boards one knows more switches, on and unwritten, and the agent's is not among them. -/
structure Better (board board' : Switchboard) : Prop where
  orderly : board.Orderly
  orderly' : board'.Orderly
  learns : Settings.Learns (· ≠ SettingName.agentDisabled) board.settings board'.settings

theorem Better.verdict (h : board.Better board') (probe : Probe) :
    (board'.collect probe).1 = (board.collect probe).1 := by
  have same : board'.settings.Admits probe ↔ board.settings.Admits probe :=
    h.learns.admits h.orderly.sound fun differs => differs rfl
  exact Bool.eq_iff_iff.mpr
    ((h.orderly'.verdict probe).trans (same.trans (h.orderly.verdict probe).symm))

theorem Better.collect (h : board.Better board') (probe : Probe) :
    board.Better (board'.collect probe).2 := by
  obtain ⟨-, learns, -⟩ := h.orderly'.collect_learns probe
  refine ⟨h.orderly, h.orderly'.collect probe, h.learns.trans (learns.mono ?_)⟩
  rintro _ member rfl
  exact Probe.agentDisabled_not_mem_switches probe member

theorem Better.write (h : board.Better board') (name : String) (value : Value) :
    (board.write name value).Better (board'.write name value) := by
  refine ⟨h.orderly.write name value, h.orderly'.write name value, ?_⟩
  rw [(write_quiet h.orderly.quiet name value).1, (write_quiet h.orderly'.quiet name value).1]
  exact h.learns.write name value

/-- A board on which probes are collected between writes knows more than one with the writes
alone, and stays so. -/
theorem Better.after (h : board.Better board') {history : List Call}
    (calls : ∀ call ∈ history, call.isWrite ∨ call.isCollect) :
    (after step board (history.filter Call.isWrite)).Better (after step board' history) := by
  induction history generalizing board board' with
  | nil => exact h
  | cons call rest ih =>
      obtain ⟨here, later⟩ := List.forall_mem_cons.mp calls
      cases call with
      | write name value => exact ih (h.write name value) later
      | collect probe => exact ih (h.collect probe) later
      | _ => simp [Call.isWrite, Call.isCollect] at here

/-- On a board of the bundled strategies where no listener asks for anything. Collecting a probe,
whatever comes of it, leaves the explicit names and every value as they were, but for the switches of
the probe that had none: they are known then, and on. And the verdict on a probe is the one it would
get if none of the probes before had come by, whatever was written in between. -/
theorem discovery_decides_nothing {early calls : List Call}
    (before : ∀ call ∈ early, call.OnSettings) (plain : ∀ call ∈ calls, call.Plain)
    (config : Config) :
    let board := after step (Service.buildBoard config [] (after step {} early)) calls
    board.Quiet →
      (∀ probe, let shown := (board.collect probe).2.settings
        shown.explicit = board.settings.explicit ∧
        (∀ name, shown.get? name = (board.settings.get? name).or
          (if name ∈ probe.switches then some (.bool true) else none)) ∧
        ∀ name ∈ probe.switches, name ∈ shown.values.keys) ∧
      ∀ history : List Call, (∀ call ∈ history, call.isWrite ∨ call.isCollect) → ∀ probe,
        ((after step board history).collect probe).1 =
          ((after step board (history.filter Call.isWrite)).collect probe).1 := by
  intro board quiet
  have orderly : board.Orderly := orderly_after before plain config quiet
  constructor
  · intro probe shown
    obtain ⟨-, learns, now⟩ := orderly.collect_learns probe
    refine ⟨learns.explicit, fun name => ?_, fun name member => ?_⟩
    · rcases learns.values name with same | ⟨member, unknown, on⟩
      · rw [same]
        cases stored : board.settings.get? name with
        | some => rfl
        | none =>
            have absent : name ∉ probe.switches := fun member => by
              have known := now name member
              rw [same, stored] at known
              cases known
            rw [if_neg absent]
            rfl
      · rw [on, unknown, if_pos member]
        rfl
    · obtain ⟨value, stored⟩ := Option.isSome_iff_exists.mp (now name member)
      exact List.mem_map_of_mem (f := Prod.fst) (Keyed.mem_of_find? stored)
  · intro history calls probe
    have same : board.Better board := ⟨orderly, orderly, .refl _ _⟩
    exact (same.after calls).verdict probe

/-- A probe of a shop, seen first while the agent is off; then its package is switched off and the
agent is back. -/
theorem discovery_in_disabled_shop :
    let board := after step (Service.buildBoard {} [] (after step {} []))
      [.write SettingName.agentDisabled (.bool true)]
    let get : Probe := { className := "shop.Api", methodName := "get", plugin := some "jdbc" }
    let history := [Call.collect get, .write (SettingName.instrumentationRoot ++ "shop") (.bool false),
      .collect get, .write SettingName.agentDisabled (.bool false)]
    board.Quiet ∧ (board.collect get).1 = false ∧
      (board.collect get).2.settings.get? (SettingName.pluginEnabled "jdbc") = some (.bool true) ∧
      ((after step board history).collect get).1 = false ∧
      ((after step board (history.filter Call.isWrite)).collect get).1 = false := by
  intro board get history
  have plain : ∀ call ∈ [Call.write SettingName.agentDisabled (.bool true)], call.Plain :=
    List.forall_mem_singleton.mpr trivial
  have ran : board.subscribers.all (·.2.isChain) = true ∧ (board.collect get).1 = false ∧
      (board.settings.get? (SettingName.pluginEnabled "jdbc")).isNone = true ∧
      ((after step board (history.filter Call.isWrite)).collect get).1 = false := by
    decide +kernel
  obtain ⟨chainOnly, rejected, unknown, without⟩ := ran
  have quiet : board.Quiet := by
    intro id listener member
    cases List.all_eq_true.mp chainOnly _ member
  obtain ⟨shown, forgotten⟩ := discovery_decides_nothing (List.forall_mem_nil _) plain {} quiet
  have own : SettingName.pluginEnabled "jdbc" ∈ get.switches :=
    Probe.mem_switches.mpr (.inr (.inl ⟨"jdbc", rfl, rfl⟩))
  refine ⟨quiet, rejected, ?_, ?_, without⟩
  · obtain ⟨-, values, -⟩ := shown get
    have on := values (SettingName.pluginEnabled "jdbc")
    rw [if_pos own, Option.isNone_iff_eq_none.mp unknown, Option.none_or] at on
    dsimp only [board]
    exact on
  · rw [forgotten history (by simp [history, Call.isWrite, Call.isCollect])]
    exact without

end

end Switchboard
end SpanCapture
