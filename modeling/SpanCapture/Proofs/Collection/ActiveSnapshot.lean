import SpanCapture.Proofs.Collection.Members
import SpanCapture.Proofs.Collection.Settings

/-! The chain's list of active strategies is never out of date. A strategy is active or not by
the settings under its activation alone; so a change leaves the list as it should be, or some
strategy of the chain heeds it and the chain is yet to be told. Between calls nothing is left to
tell. -/
namespace SpanCapture

/-- Whether a strategy is active depends on no other settings than those its activation names. -/
def Strategy.Local (s : Strategy) : Prop :=
  ∀ a b : Settings, a.under s.activation = b.under s.activation → s.isActive a = s.isActive b

namespace Strategy

def IsBundled : Strategy → Prop
  | custom _ => False
  | _ => True

theorem anyDisabled_of_under {root : String} {a b : Settings} (same : a.under root = b.under root) :
    a.anyDisabled root = b.anyDisabled root := by
  rw [Settings.anyDisabled, Settings.anyDisabled, same]

theorem get?_of_under {name : String} {a b : Settings} (same : a.under name = b.under name) :
    a.get? name = b.get? name := by
  rw [← Settings.find?_under (Settings.startsWith_self name) a, same,
    Settings.find?_under (Settings.startsWith_self name) b]

theorem IsBundled.isLocal {s : Strategy} (bundled : s.IsBundled) : s.Local := by
  intro a b same
  cases s with
  | agent =>
      have stored := get?_of_under same
      change ((a.get? _).bind Value.asBool?).getD false = ((b.get? _).bind Value.asBool?).getD false
      exact congrArg (fun value : Option Value => (value.bind Value.asBool?).getD false) stored
  | ignored => rfl
  | endpoints =>
      have stored := get?_of_under same
      have alike : ratioSetting a = ratioSetting b :=
        congrArg (fun value : Option Value => ((value.bind Value.asInt?).getD 0).toInt) stored
      simp only [isActive, alike]
  | plugins => exact anyDisabled_of_under same
  | aspects => exact anyDisabled_of_under same
  | callSites => exact anyDisabled_of_under same
  | custom => exact bundled.elim

theorem Becomes.isLocal {s s' : Strategy} (h : s.Becomes s') (isLocal : s.Local) : s'.Local := by
  intro a b same
  rw [h.activation] at same
  rw [h.isActive, h.isActive]
  exact isLocal a b same

end Strategy

namespace Switchboard

section
variable {board board' : Switchboard} {errands rest : List Errand}

/-- The list of active strategies is what the settings say now. -/
def Fresh (board : Switchboard) : Prop :=
  board.active = board.registered.filter board.isActiveNow

theorem fresh_refresh (board : Switchboard) : board.refresh.Fresh := by
  have order : board.refresh.registered = board.registered :=
    registered_congr rfl fun _ _ => rfl
  rw [Fresh, order]
  rfl

theorem Fresh.enlist (h : board.Fresh) (number : Nat) : (board.enlist number).Fresh := by
  unfold Switchboard.enlist
  split
  · exact h
  · exact fresh_refresh _

theorem Fresh.congr (h : board.Fresh) (enlisted : board'.enlisted = board.enlisted)
    (active : board'.active = board.active)
    (alike : ∀ n ∈ board.enlisted, board'.priorityOf n = board.priorityOf n)
    (asActive : ∀ n ∈ board.enlisted, board'.isActiveNow n = board.isActiveNow n) :
    board'.Fresh := by
  rw [Fresh, active, registered_congr enlisted alike, h]
  exact (List.filter_congr fun n member => asActive n (mem_registered.mp member)).symm

/-- The chain is yet to be told of a change that some strategy heeds. -/
def Pending (board : Switchboard) (errands : List Errand) : Prop :=
  ∃ id name value, .tell id .chain name value ∈ errands ∧ board.Heeds name

theorem not_pending_nil : ¬board.Pending [] := fun ⟨_, _, _, member, _⟩ => List.not_mem_nil member

/-- The chain keeps up with the settings. -/
structure Abreast (board : Switchboard) (errands : List Errand) : Prop where
  wired : board.Wired
  isLocal : ∀ s ∈ board.strategies, s.Local
  upToDate : board.Fresh ∨ board.Pending errands

theorem Abreast.fresh (h : board.Abreast []) : board.Fresh :=
  h.upToDate.resolve_right not_pending_nil

theorem Heeds.congr {name : String} (heeds : board.Heeds name)
    (enlisted : board'.enlisted = board.enlisted)
    (strategies : board'.strategies = board.strategies) : board'.Heeds name := by
  have alike (n : Nat) : board'.priorityOf n = board.priorityOf n := by
    rw [priorityOf, priorityOf, strategies]
  obtain ⟨s, member, starts⟩ := heeds
  refine ⟨s, ?_, starts⟩
  rw [named, strategies, registered_congr enlisted fun n _ => alike n]
  exact member

/-- The chain is told of every change that is announced. -/
theorem Wired.pending (wired : board.Wired) {name : String} (heeds : board.Heeds name)
    (settings : Settings) (value : Value) :
    Pending { board with settings } (board.announce name value ++ rest) := by
  obtain ⟨id, member⟩ := wired.listening
  refine ⟨id, name, value, List.mem_append_left _ ?_, heeds.congr rfl rfl⟩
  exact List.mem_map.mpr ⟨(id, .chain), member, rfl⟩

theorem Pending.congr (pending : board.Pending rest) (more : List Errand)
    (enlisted : board'.enlisted = board.enlisted)
    (strategies : board'.strategies = board.strategies) : board'.Pending (more ++ rest) := by
  obtain ⟨id, name, value, member, heeds⟩ := pending
  exact ⟨id, name, value, List.mem_append_right more member, heeds.congr enlisted strategies⟩

/-- What is pending behind an errand that is not for the chain. -/
theorem Pending.behind {errand : Errand} (pending : board.Pending (errand :: rest))
    (unheeded : ∀ id name value, errand = .tell id .chain name value → ¬board.Heeds name) :
    board.Pending rest := by
  obtain ⟨id, name, value, member, heeds⟩ := pending
  rcases List.mem_cons.mp member with first | behind
  · exact absurd heeds (unheeded id name value first.symm)
  · exact ⟨id, name, value, behind, heeds⟩

/-- A change that concerns no strategy of the chain makes none active or not. -/
theorem Fresh.withSettings (h : board.Fresh) (wired : board.Wired)
    (isLocal : ∀ s ∈ board.strategies, s.Local) {settings : Settings}
    (same : ∀ s ∈ board.named board.registered,
      settings.under s.activation = board.settings.under s.activation) :
    Fresh { board with settings } := by
  refine h.congr rfl rfl (fun _ _ => rfl) fun number member => ?_
  have inside := wired.known number member
  have known := List.getElem?_eq_getElem inside
  have named : board.strategies[number] ∈ board.named board.registered :=
    List.mem_filterMap.mpr ⟨number, mem_registered.mpr member, known⟩
  simp only [isActiveNow, known, Option.map_some, Option.getD_some]
  exact isLocal _ (List.getElem_mem inside) _ _ (same _ named)

/-- What is pending stays so until the chain looks again. -/
theorem Pending.attend {errand : Errand} (h : board.Pending (errand :: rest)) :
    (board.attend errand).1.Pending ((board.attend errand).2 ++ rest) ∨
      ∃ now : Switchboard, (board.attend errand).1 = now.refresh := by
  have attended := attends board errand
  generalize board.attend errand = result at attended
  cases attended with
  | looked => exact .inr ⟨board, rfl⟩
  | passed unheeded =>
      refine .inl (h.behind ?_)
      rintro id name value ⟨⟩
      exact unheeded
  | heard => exact .inl ((h.behind nofun).congr _ rfl rfl)
  | written => exact .inl ((h.behind nofun).congr _ rfl rfl)
  | rewritten => exact .inl ((h.behind nofun).congr _ rfl rfl)
  | introduced => exact .inl ((h.behind nofun).congr _ rfl rfl)
  | known => exact .inl (h.behind nofun)
  | dismissed => exact .inl ((h.behind nofun).congr _ rfl rfl)
  | enlisted =>
      unfold Switchboard.enlist
      split
      · exact .inl (h.behind nofun)
      · exact .inr ⟨_, rfl⟩

/-- A change of a setting is of no concern, or the chain is told of it. -/
theorem Fresh.changed (h : board.Fresh) (wired : board.Wired)
    (isLocal : ∀ s ∈ board.strategies, s.Local) {settings : Settings} {name : String}
    (value : Value) (elsewhere : ∀ root, startsWith root name = false →
      settings.under root = board.settings.under root) :
    let board' := { board with settings }
    board'.Fresh ∨ board'.Pending (board.announce name value ++ rest) := by
  by_cases heeds : board.Heeds name
  · exact .inr (wired.pending heeds settings value)
  · refine .inl (h.withSettings wired isLocal fun s member => elsewhere s.activation ?_)
    exact Bool.eq_false_iff.mpr fun starts => heeds ⟨s, member, starts⟩

/-- After an errand a list that was as it should be still is, or the chain is yet to be told. -/
theorem Fresh.attend (h : board.Fresh) (wired : board.Wired)
    (isLocal : ∀ s ∈ board.strategies, s.Local) (errand : Errand) :
    (board.attend errand).1.Fresh ∨
      (board.attend errand).1.Pending ((board.attend errand).2 ++ rest) := by
  have attended := attends board errand
  generalize board.attend errand = result at attended
  cases attended with
  | looked => exact .inl (fresh_refresh board)
  | passed => exact .inl h
  | heard => exact .inl (h.congr rfl rfl (fun _ _ => rfl) fun _ _ => rfl)
  | @written name value =>
      exact h.changed wired isLocal value fun root outside =>
        Settings.under_introduce outside value (board.settings.mark name)
  | rewritten => exact .inl (h.withSettings wired isLocal fun _ _ => rfl)
  | @introduced name value =>
      exact h.changed wired isLocal value fun root outside =>
        Settings.under_introduce outside value board.settings
  | known => exact .inl h
  | dismissed => exact .inl (h.congr rfl rfl (fun _ _ => rfl) fun _ _ => rfl)
  | enlisted => exact .inl (h.enlist _)

/-- Every errand keeps the chain abreast. -/
theorem Abreast.attend {errand : Errand} (h : board.Abreast (errand :: rest)) :
    (board.attend errand).1.Abreast ((board.attend errand).2 ++ rest) := by
  refine ⟨h.wired.attend errand, strategies_attend board errand ▸ h.isLocal, ?_⟩
  rcases h.upToDate with fresh | pending
  · exact fresh.attend h.wired h.isLocal errand
  · rcases pending.attend with still | ⟨now, looked⟩
    · exact .inr still
    · rw [looked]
      exact .inl (fresh_refresh now)

theorem Abreast.serveAll (h : board.Abreast []) (requests : List Request) :
    (board.serveAll requests).Abreast [] :=
  serveAll_keeps (P := Abreast) (fun _ _ _ abreast => abreast.attend)
    ⟨h.wired, h.isLocal, .inl h.fresh⟩ h

theorem isLocal_event (isLocal : ∀ s ∈ board.strategies, s.Local) (event : Event board board') :
    ∀ s ∈ board'.strategies, s.Local := by
  intro s' member
  obtain ⟨number, known'⟩ := List.getElem?_of_mem member
  obtain ⟨s, known, becomes⟩ := event.continues.origin known'
  exact becomes.isLocal (isLocal s (List.mem_of_getElem? known))

theorem Abreast.fresh_event (h : board.Abreast []) (event : Event board board') : board'.Fresh := by
  cases event with
  | served requests => exact (h.serveAll requests).fresh
  | replaced known becomes =>
      have continues := continues_replace known becomes
      refine h.fresh.congr rfl rfl (fun number _ => ?_) fun number _ => ?_
      · exact congrArg (Option.getD · 0) (continues.map _ (fun becomes => becomes.priority) number)
      · exact congrArg (Option.getD · false)
          (continues.map _ (fun becomes => becomes.isActive board.settings) number)
  | enlisted number => exact h.fresh.enlist number
  | refreshed => exact fresh_refresh board
  | noted => exact h.fresh.congr rfl rfl (fun _ _ => rfl) fun _ _ => rfl
  | subscribed => exact h.fresh.congr rfl rfl (fun _ _ => rfl) fun _ _ => rfl
  | dismissed => exact h.fresh.congr rfl rfl (fun _ _ => rfl) fun _ _ => rfl

theorem Abreast.event (h : board.Abreast []) (event : Event board board') : board'.Abreast [] :=
  ⟨h.wired.event event, isLocal_event h.isLocal event, .inl (h.fresh_event event)⟩

theorem Abreast.events (h : board.Abreast []) (events : Events board board') :
    board'.Abreast [] :=
  Events.keeps (P := fun board => board.Abreast []) (fun _ _ h event => h.event event) h events

/-- A newcomer to the board changes nothing in the chain. -/
theorem Abreast.add (h : board.Abreast []) {s : Strategy} (isLocal : s.Local) :
    (board.add s).2.Abreast [] := by
  have same (number : Nat) (member : number ∈ board.enlisted) :
      (board.add s).2.strategies[number]? = board.strategies[number]? :=
    getElem?_add (h.wired.known number member) s
  refine ⟨h.wired.add s, ?_, .inl (h.fresh.congr rfl rfl ?_ ?_)⟩
  · intro t member
    rcases List.mem_append.mp member with before | new
    · exact h.isLocal t before
    · rw [List.mem_singleton.mp new]
      exact isLocal
  · intro number member
    rw [priorityOf, priorityOf, same number member]
  · intro number member
    change ((board.add s).2.strategies[number]?.map (·.isActive board.settings)).getD false = _
    rw [same number member]
    rfl

/-- The calls that leave it to the settings who is active: newcomers are local, and no ignored
applications are pushed. -/
def Call.KeepsActivity : Call → Prop
  | .add s => s.Local
  | .ignoreApplications .. => False
  | _ => True

theorem Abreast.step (h : board.Abreast []) {call : Call} (keeps : call.KeepsActivity) :
    (step board call).2.Abreast [] := by
  by_cases plain : call.Plain
  · exact h.events (events_step plain board)
  · cases call with
    | add s => exact h.add keeps
    | ignoreApplications => exact keeps.elim
    | _ => exact absurd trivial plain

theorem Abreast.after {calls : List Call} (h : board.Abreast [])
    (keeps : ∀ call ∈ calls, call.KeepsActivity) :
    (after Switchboard.step board calls).Abreast [] :=
  after_invariant (P := (Abreast · [])) h (fun _ _ h keeps => h.step keeps) keeps

theorem Bare.abreast (h : board.Bare) : (board.subscribe .chain).2.Abreast [] := by
  have nobody : (board.subscribe .chain).2.strategies = [] := h.strategies
  have noneCame : (board.subscribe .chain).2.enlisted = [] := h.enlisted
  refine ⟨h.wired, fun s member => ?_, .inl ?_⟩
  · rw [nobody] at member
    cases member
  · rw [Fresh, registered, noneCame]
    exact h.active

/-- After every call the active strategies are those of the chain, sorted by priority and among
equals by the order they came, that are active by the settings as they are. -/
theorem active_up_to_date {early calls : List Call} (before : ∀ call ∈ early, call.OnSettings)
    (keeps : ∀ call ∈ calls, call.KeepsActivity) :
    let board := after step ((after step {} early).subscribe .chain).2 calls
    board.active = (board.enlisted.mergeSort board.runsBefore).filter board.isActiveNow := by
  intro board
  rw [← registered_eq_mergeSort]
  exact ((bare_after before).abreast.after keeps).fresh

/-- A listener that answers one change by another: in quiet mode the agent is off. -/
def quietens : Listener where
  label := "mode"
  react _ name _ := if name = "mode" then [.write SettingName.agentDisabled (.bool true)] else []

/-- The agent's strategy comes last and runs first. -/
def quietMode : List Call :=
  [.add .plugins, .add .agent, .enlist 0, .enlist 1,
    .write (SettingName.pluginEnabled "jdbc") (.bool false), .write "mode" (.text "quiet")]

theorem active_in_quiet_mode :
    let board := after step ((after step {} [.subscribe quietens]).subscribe .chain).2 quietMode
    board.active = [1, 0] ∧
      board.active = (board.enlisted.mergeSort board.runsBefore).filter board.isActiveNow := by
  have before : ∀ call ∈ [Call.subscribe quietens], call.OnSettings :=
    List.forall_mem_singleton.mpr trivial
  have keeps : ∀ call ∈ quietMode, call.KeepsActivity := by
    refine List.forall_mem_cons.mpr ⟨Strategy.IsBundled.isLocal trivial, ?_⟩
    refine List.forall_mem_cons.mpr ⟨Strategy.IsBundled.isLocal trivial, ?_⟩
    simp [Call.KeepsActivity]
  exact ⟨by decide +kernel, active_up_to_date before keeps⟩

end

end Switchboard
end SpanCapture
