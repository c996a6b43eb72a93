import SpanCapture.Proofs.Collection.Bundle
import SpanCapture.Proofs.Collection.Share

/-! Downgraded traces before the chain. The strategy that lets only endpoints through is active
exactly while the settings ask for some percentage of traces to be downgraded; this is so on every
board of a service, whatever is asked of it. While it is active a probe of a downgraded trace
passes only as an endpoint. While it is not, nobody looks at whether the trace is downgraded. -/
namespace SpanCapture

theorem Strategy.ratioSetting_introduce {name : String} (other : name ≠ SettingName.endpointRatio)
    (value : Value) (settings : Settings) :
    ratioSetting (settings.introduce name value) = ratioSetting settings := by
  have stored := Settings.get?_introduce_of_ne other.symm value settings
  exact congrArg (fun stored : Option Value => ((stored.bind Value.asInt?).getD 0).toInt) stored

namespace Switchboard

section
variable {board board' : Switchboard} {errand : Errand} {rest : List Errand} {probe : Probe}

/-- The strategy is active exactly while the settings ask for some percentage. -/
def Posted (board : Switchboard) : Prop :=
  Service.endpointStrategy ∈ board.active ↔ 0 < Strategy.ratioSetting board.settings

/-- The strategy is in its place in the chain, and is active when it should be, unless the chain is
yet to look again. -/
structure Enforces (board : Switchboard) (errands : List Errand) : Prop where
  wired : board.Wired
  standing : ∃ tracker, board.Tracks Service.endpointStrategy tracker
  enlisted : Service.endpointStrategy ∈ board.enlisted
  posted : board.Posted ∨ board.Pending errands

theorem Enforces.now (h : board.Enforces []) : board.Posted :=
  h.posted.resolve_right not_pending_nil

/-- A chain that is up to date has the strategy active when it should be. -/
theorem Fresh.posted (fresh : board.Fresh)
    (standing : ∃ tracker, board.Tracks Service.endpointStrategy tracker)
    (enlisted : Service.endpointStrategy ∈ board.enlisted) : board.Posted := by
  obtain ⟨tracker, known⟩ := standing
  rw [Posted, fresh, List.mem_filter, isActiveNow, known]
  simp [Strategy.isActive, mem_registered.mpr enlisted]

theorem posted_refresh (standing : ∃ tracker, board.Tracks Service.endpointStrategy tracker)
    (enlisted : Service.endpointStrategy ∈ board.enlisted) : board.refresh.Posted :=
  (fresh_refresh board).posted standing enlisted

theorem Enforces.heeds (h : board.Enforces rest) : board.Heeds SettingName.endpointRatio := by
  obtain ⟨tracker, known⟩ := h.standing
  refine ⟨.endpoints tracker, ?_, Settings.startsWith_self _⟩
  exact List.mem_filterMap.mpr ⟨_, mem_registered.mpr h.enlisted, known⟩

/-- A setting that changes is another one, or the chain is told. -/
theorem Posted.introduce (h : board.Posted) (wired : board.Wired)
    (heeds : board.Heeds SettingName.endpointRatio) {settings : Settings} {name : String}
    (value : Value) (same : settings.values = board.settings.values) :
    let board' := { board with settings := settings.introduce name value }
    board'.Posted ∨ board'.Pending (board.announce name value ++ rest) := by
  by_cases own : name = SettingName.endpointRatio
  · exact .inr (wired.pending (own ▸ heeds) _ value)
  · left
    have ratio : Strategy.ratioSetting settings = Strategy.ratioSetting board.settings := by
      simp only [Strategy.ratioSetting, Settings.getInt?, same]
    change _ ↔ 0 < Strategy.ratioSetting (settings.introduce name value)
    rw [Strategy.ratioSetting_introduce own, ratio]
    exact h

theorem Posted.attend (h : board.Posted) (wired : board.Wired)
    (standing : ∃ tracker, board.Tracks Service.endpointStrategy tracker)
    (enlisted : Service.endpointStrategy ∈ board.enlisted) (errand : Errand) :
    (board.attend errand).1.Posted ∨
      (board.attend errand).1.Pending ((board.attend errand).2 ++ rest) := by
  have enforces : board.Enforces [] := ⟨wired, standing, enlisted, .inl h⟩
  have attended := attends board errand
  generalize board.attend errand = result at attended
  cases attended with
  | looked => exact .inl (posted_refresh standing enlisted)
  | @written name value => exact h.introduce wired enforces.heeds value rfl
  | @introduced name value => exact h.introduce wired enforces.heeds value rfl
  | enlisted =>
      left
      unfold Switchboard.enlist
      split
      · exact h
      · exact posted_refresh standing (List.mem_append_left _ enlisted)
  | _ => exact .inl h

theorem Enforces.attend (h : board.Enforces (errand :: rest)) :
    (board.attend errand).1.Enforces ((board.attend errand).2 ++ rest) := by
  obtain ⟨tracker, known⟩ := h.standing
  have standing : ∃ tracker, (board.attend errand).1.Tracks Service.endpointStrategy tracker :=
    ⟨tracker, Seats.congr known (strategies_attend board errand)⟩
  have enlisted := enlisted_attend board errand h.enlisted
  refine ⟨h.wired.attend errand, standing, enlisted, ?_⟩
  rcases h.posted with posted | pending
  · exact posted.attend h.wired h.standing h.enlisted errand
  · rcases pending.attend with still | ⟨now, looked⟩
    · exact .inr still
    · rw [looked] at standing enlisted ⊢
      exact .inl (posted_refresh standing enlisted)

theorem Enforces.serveAll (h : board.Enforces []) (requests : List Request) :
    (board.serveAll requests).Enforces [] :=
  serveAll_keeps (P := Enforces) (fun _ _ _ enforces => enforces.attend)
    ⟨h.wired, h.standing, h.enlisted, .inl h.now⟩ h

theorem Enforces.event (h : board.Enforces []) (event : Event board board') :
    board'.Enforces [] := by
  have wired := h.wired.event event
  obtain ⟨tracker, known⟩ := h.standing
  obtain ⟨_, known', becomes⟩ := event.continues.becomes known
  have standing : ∃ tracker, board'.Tracks Service.endpointStrategy tracker := by
    cases becomes with
    | same => exact ⟨tracker, known'⟩
    | decided _ next => exact ⟨next, known'⟩
  have enlisted := event.continues.enlisted h.enlisted
  refine ⟨wired, standing, enlisted, .inl ?_⟩
  cases event with
  | served requests => exact (h.serveAll requests).now
  | enlisted number =>
      unfold Switchboard.enlist
      split
      · exact h.now
      · exact posted_refresh h.standing (List.mem_append_left _ h.enlisted)
  | refreshed => exact posted_refresh h.standing h.enlisted
  | _ => exact h.now

theorem Enforces.events (h : board.Enforces []) (events : Events board board') :
    board'.Enforces [] :=
  Events.keeps (P := fun board => board.Enforces []) (fun _ _ h event => h.event event) h events

theorem Enforces.add (h : board.Enforces []) (s : Strategy) : (board.add s).2.Enforces [] := by
  obtain ⟨tracker, known⟩ := h.standing
  exact ⟨h.wired.add s, ⟨tracker, Seats.add known s⟩, h.enlisted, .inl h.now⟩

theorem Enforces.step (h : board.Enforces []) (call : Call) : (step board call).2.Enforces [] := by
  refine step_keeps (P := fun board => board.Enforces []) (fun _ _ h event => h.event event) h
    (fun s _ => h.add s) fun number _ applications _ known => ?_
  obtain ⟨tracker, own⟩ := h.standing
  exact ⟨h.wired.replace _ _, ⟨tracker, Seats.replace own known nofun _⟩, h.enlisted, .inl h.now⟩

theorem enforces_build (bare : board.Bare) (config : Config) (custom : List CustomStrategy) :
    (Service.buildBoard config custom board).Enforces [] := by
  obtain ⟨bundled, abreast⟩ := bundled_build bare config
  have first : (Service.buildBoard config [] board).Enforces [] := by
    obtain ⟨_, known, ⟨⟩⟩ := bundled.standing (show 2 < 6 by decide)
    have enlisted := bundled.enlisted 2 (by decide)
    exact ⟨abreast.wired, ⟨_, known⟩, enlisted, .inl (abreast.fresh.posted ⟨_, known⟩ enlisted)⟩
  exact buildBoard_keeps (P := fun board => board.Enforces []) first
    (fun _ s h => (h.add (.custom s)).step (.enlist _)) custom

/-- A probe of a downgraded trace that is no endpoint is rejected while the strategy is active. -/
theorem Enforces.rejects (h : board.Enforces []) (marked : probe.endpointOnly = true)
    (plain : probe.isEndpoint = false)
    (asked : 0 < Strategy.ratioSetting (board.observeAll probe board.registered).settings) :
    (board.collect probe).1 = false := by
  have shown := h.events (events_observeAll probe board.registered board)
  obtain ⟨tracker, known⟩ := shown.standing
  refine judgeAll_refused known (fun _ => ?_) (shown.now.mpr asked)
  rw [Strategy.collect, marked, plain]
  rfl

/-- The strategies at hand, of which one looks at whether a trace is downgraded. -/
def Usual (board : Switchboard) : Prop :=
  ∀ number s, board.strategies[number]? = some s →
    s.IsBundled ∧ ∀ tracker, s = .endpoints tracker → number = Service.endpointStrategy

theorem Usual.continues (h : board.Usual) (continues : board.Continues board') : board'.Usual := by
  intro number s' known'
  obtain ⟨s, known, becomes⟩ := continues.origin known'
  obtain ⟨bundled, own⟩ := h number s known
  cases becomes with
  | same => exact ⟨bundled, own⟩
  | decided t => exact ⟨trivial, fun _ _ => own t rfl⟩
  | noted => exact ⟨trivial, nofun⟩
  | discovered => exact ⟨trivial, nofun⟩

def Call.Usual : Call → Prop
  | .add _ => False
  | _ => True

theorem Usual.step (h : board.Usual) {call : Call} (usual : call.Usual) :
    (step board call).2.Usual := by
  refine step_keeps (fun _ _ h event => h.continues event.continues) h ?_ ?_
  · rintro s rfl
    exact usual.elim
  · intro number _ applications _ _ other s there
    change (board.strategies.set number _)[other]? = some s at there
    rw [List.getElem?_set] at there
    split at there
    · split at there
      · cases there
        exact ⟨trivial, nofun⟩
      · cases there
    · exact h other s there

theorem usual_build (bare : board.Bare) (config : Config) :
    (Service.buildBoard config [] board).Usual := by
  intro number s known
  have place := (bundled_build bare config).1.places known
  cases place with
  | endpoints => exact ⟨trivial, fun _ _ => rfl⟩
  | _ => exact ⟨trivial, nofun⟩

/-- To be shown a probe does not depend on whether its trace is downgraded. -/
theorem Usual.observeAll (h : board.Usual) (probe : Probe) (mark : Bool) (numbers : List Nat) :
    board.observeAll { probe with endpointOnly := mark } numbers = board.observeAll probe numbers := by
  induction numbers generalizing board with
  | nil => rfl
  | cons number rest ih =>
      have same : board.observe number { probe with endpointOnly := mark } =
          board.observe number probe := by
        unfold Switchboard.observe
        cases known : board.strategies[number]? with
        | none => rfl
        | some s =>
            cases s with
            | custom => exact (h number _ known).1.elim
            | _ => rfl
      rw [Switchboard.observeAll, Switchboard.observeAll, same]
      exact ih (h.continues (events_observe number probe board).continues)

/-- Whoever else judges a probe does not look at whether its trace is downgraded. -/
theorem Usual.judgeAll (h : board.Usual) (probe : Probe) (mark : Bool) {numbers : List Nat}
    (others : Service.endpointStrategy ∉ numbers) :
    board.judgeAll { probe with endpointOnly := mark } numbers = board.judgeAll probe numbers := by
  induction numbers generalizing board with
  | nil => rfl
  | cons number rest ih =>
      obtain ⟨here, later⟩ := not_or.mp (mt List.mem_cons.mpr others)
      have same : board.judge number { probe with endpointOnly := mark } =
          board.judge number probe := by
        unfold Switchboard.judge
        cases known : board.strategies[number]? with
        | none => rfl
        | some s =>
            obtain ⟨bundled, own⟩ := h number s known
            cases s with
            | custom => exact bundled.elim
            | endpoints tracker => exact absurd (own tracker rfl).symm here
            | _ => rfl
      by_cases rejected : (board.judge number probe).1 = .done false
      · rw [judgeAll_rejected rejected, judgeAll_rejected (same ▸ rejected), same]
      · rw [judgeAll_passed rejected, judgeAll_passed (same ▸ rejected), same]
        exact ih (h.continues (events_judge number probe board).continues) later

/-- While the strategy is not active, a probe is judged as one of a trace that is not downgraded. -/
theorem Enforces.passes (h : board.Enforces []) (usual : board.Usual) (probe : Probe)
    (unasked : ¬0 < Strategy.ratioSetting (board.observeAll probe board.registered).settings) :
    board.collect probe = board.collect { probe with endpointOnly := false } := by
  have shown := h.events (events_observeAll probe board.registered board)
  have absent := mt shown.now.mp unasked
  have still := usual.continues (events_observeAll probe board.registered board).continues
  change _ = (board.observeAll { probe with endpointOnly := false } board.registered).judgeAll _ _
  rw [usual.observeAll, still.judgeAll probe false absent]
  rfl

end

end Switchboard
end SpanCapture
