import SpanCapture.Proofs.Collection.Bundle
import SpanCapture.Service.Context

/-! Ignored applications. The names are pushed to the strategy, and the chain comes to look again
only because the list is written as a setting too; a list that stands there already is not told to
anybody. Once the strategy is active it stays active until the next push, and while it is active
no probe of an ignored application is collected. -/
namespace SpanCapture

namespace Keyed

variable {α : Type}

theorem mem_keys_insert {key other : String} {value : α} {entries : Keyed α} :
    other ∈ keys (insert key value entries) ↔ other = key ∨ other ∈ keys entries := by
  induction entries with
  | nil => simp [keys, insert]
  | cons entry rest ih =>
      obtain ⟨k, v⟩ := entry
      unfold insert
      split
      · simp [keys]
      · split
        · rename_i same
          subst same
          simp [keys]
        · change other ∈ k :: keys (insert key value rest) ↔ _ ∨ other ∈ k :: keys rest
          rw [List.mem_cons, List.mem_cons, ih]
          exact or_left_comm

theorem mem_keys_foldl_insert {other : String} (pairs : List (String × α)) {entries : Keyed α} :
    other ∈ keys (pairs.foldl (fun entries pair => entries.insert pair.1 pair.2) entries) ↔
      other ∈ pairs.map Prod.fst ∨ other ∈ keys entries := by
  induction pairs generalizing entries with
  | nil => simp
  | cons pair rest ih =>
      rw [List.foldl_cons, ih, mem_keys_insert, List.map_cons, List.mem_cons]
      exact or_left_comm.trans or_assoc.symm

end Keyed

namespace Switchboard

theorem mem_distinct {name : String} {names : List String} : name ∈ distinct names ↔ name ∈ names := by
  rw [distinct, Keyed.ofList, Keyed.mem_keys_foldl_insert]
  simp [Keyed.keys]

section
variable {board board' : Switchboard} {names : List String} {errand : Errand} {rest : List Errand}
  {probe : Probe} {application : String}

/-- The strategy was told to ignore some applications, and is in the chain. -/
structure Ignores (board : Switchboard) (names : List String) : Prop where
  told : board.strategies[Service.ignoredStrategy]? = some (.ignored names)
  enlisted : Service.ignoredStrategy ∈ board.enlisted

theorem Ignores.continues (h : board.Ignores names) (continues : board.Continues board') :
    board'.Ignores names := by
  obtain ⟨_, known, becomes⟩ := continues.becomes h.told
  cases becomes
  exact ⟨known, continues.enlisted h.enlisted⟩

theorem Ignores.attend (h : board.Ignores names) (errand : Errand) :
    (board.attend errand).1.Ignores names :=
  h.continues (.of_same (strategies_attend board errand) (enlisted_attend board errand))

theorem Ignores.heeds (h : board.Ignores names) : board.Heeds SettingName.ignoredApplications := by
  refine ⟨.ignored names, ?_, Settings.startsWith_self _⟩
  exact List.mem_filterMap.mpr ⟨_, mem_registered.mpr h.enlisted, h.told⟩

/-- A chain that looks again finds the strategy active, unless there is nobody to ignore. -/
theorem Ignores.active_refresh (h : board.Ignores names) (somebody : names ≠ []) :
    Service.ignoredStrategy ∈ board.refresh.active := by
  refine List.mem_filter.mpr ⟨mem_registered.mpr h.enlisted, ?_⟩
  rw [isActiveNow, h.told]
  simpa [Strategy.isActive] using somebody

/-- The strategy is active, or the chain is about to look again. -/
def Noticed (board : Switchboard) (errands : List Errand) : Prop :=
  Service.ignoredStrategy ∈ board.active ∨ board.Pending errands

theorem Noticed.active (h : board.Noticed []) : Service.ignoredStrategy ∈ board.active :=
  h.resolve_right not_pending_nil

theorem Noticed.attend (h : board.Noticed (errand :: rest)) (ignores : board.Ignores names)
    (somebody : names ≠ []) : (board.attend errand).1.Noticed ((board.attend errand).2 ++ rest) := by
  have still := ignores.attend errand
  -- A board on which the chain has just looked again.
  have looked {now : Switchboard} (result : (board.attend errand).1 = now.refresh) :
      (board.attend errand).1.Noticed ((board.attend errand).2 ++ rest) := by
    rw [result] at still ⊢
    exact .inl (Ignores.active_refresh ⟨still.told, still.enlisted⟩ somebody)
  rcases h with active | pending
  · rcases active_attend board errand with same | ⟨now, result⟩
    · exact .inl (same ▸ active)
    · exact looked result
  · rcases pending.attend with waits | ⟨now, result⟩
    · exact .inr waits
    · exact looked result

/-- What the strategy is told and that it is active outlast every errand. -/
theorem active_serveAll (ignores : board.Ignores names) (somebody : names ≠ [])
    (active : Service.ignoredStrategy ∈ board.active) (requests : List Request) :
    Service.ignoredStrategy ∈ (board.serveAll requests).active := by
  have kept : (board.serveAll requests).Ignores names ∧ (board.serveAll requests).Noticed [] :=
    serveAll_keeps (P := fun board errands => board.Ignores names ∧ board.Noticed errands)
      (fun board errand rest h => ⟨h.1.attend errand, h.2.attend h.1 somebody⟩)
      ⟨ignores, .inl active⟩ ⟨ignores, .inl active⟩
  exact kept.2.active

theorem active_event (ignores : board.Ignores names) (somebody : names ≠ [])
    (active : Service.ignoredStrategy ∈ board.active) (event : Event board board') :
    Service.ignoredStrategy ∈ board'.active := by
  cases event with
  | served requests => exact active_serveAll ignores somebody active requests
  | enlisted number =>
      unfold Switchboard.enlist
      split
      · exact active
      · refine Ignores.active_refresh ⟨ignores.told, ?_⟩ somebody
        exact List.mem_append_left _ ignores.enlisted
  | refreshed => exact ignores.active_refresh somebody
  | replaced => exact active
  | noted => exact active
  | subscribed => exact active
  | dismissed => exact active

theorem active_events (ignores : board.Ignores names) (somebody : names ≠ [])
    (active : Service.ignoredStrategy ∈ board.active) (events : Events board board') :
    Service.ignoredStrategy ∈ board'.active := by
  have kept := Events.keeps
    (P := fun board => board.Ignores names ∧ Service.ignoredStrategy ∈ board.active)
    (fun _ _ h event => ⟨h.1.continues event.continues, active_event h.1 somebody h.2 event⟩)
    ⟨ignores, active⟩ events
  exact kept.2

def Call.Leaves : Call → Prop
  | .ignoreApplications number _ => number ≠ Service.ignoredStrategy
  | _ => True

theorem Ignores.add (h : board.Ignores names) (s : Strategy) : (board.add s).2.Ignores names :=
  ⟨(getElem?_add (List.getElem?_eq_some_iff.mp h.told).1 s).trans h.told, h.enlisted⟩

theorem Ignores.replace (h : board.Ignores names) {number : Nat}
    (other : number ≠ Service.ignoredStrategy) (s : Strategy) :
    (board.replace number s).Ignores names := by
  refine ⟨?_, h.enlisted⟩
  change (board.strategies.set number s)[Service.ignoredStrategy]? = _
  rw [List.getElem?_set_ne other]
  exact h.told

theorem Ignores.serveAll (h : board.Ignores names) (requests : List Request) :
    (board.serveAll requests).Ignores names :=
  h.continues (.of_same (strategies_serveAll requests board) (enlisted_serveAll requests board))

theorem Ignores.step (h : board.Ignores names) {call : Call} (leaves : call.Leaves) :
    (step board call).2.Ignores names ∧ (names ≠ [] → Service.ignoredStrategy ∈ board.active →
      Service.ignoredStrategy ∈ (step board call).2.active) := by
  by_cases plain : call.Plain
  · have events := events_step plain board
    exact ⟨h.continues events.continues, fun somebody active => active_events h somebody active events⟩
  · cases call with
    | add s =>
        exact ⟨h.add s, fun _ active => active⟩
    | ignoreApplications number applications =>
        change (board.ignoreApplications number applications).Ignores names ∧
          (_ → _ → _ ∈ (board.ignoreApplications number applications).active)
        rcases ignoreApplications_cases number applications board with same | ⟨_, -, pushed⟩
        · rw [same]
          exact ⟨h, fun _ active => active⟩
        · have replaced := h.replace leaves (.ignored (distinct applications))
          rw [pushed]
          exact ⟨replaced.serveAll _, fun somebody active =>
            active_serveAll replaced somebody active _⟩
    | _ => exact absurd trivial plain

/-- An active strategy that ignores the application of a probe rejects it, whoever else judges. -/
theorem collect_ignored (h : board.Ignores names) (active : Service.ignoredStrategy ∈ board.active)
    (own : probe.application = some application) (member : application ∈ names) :
    (board.collect probe).1 = false := by
  have shown := events_observeAll probe board.registered board
  have somebody : names ≠ [] := List.ne_nil_of_mem member
  refine judgeAll_refused (h.continues shown.continues).told (fun _ => ?_)
    (active_events h somebody active shown)
  simp [Strategy.collect, own, member]

inductive OfService : Switchboard → Prop
  | built {early : List Call} (before : ∀ call ∈ early, call.OnSettings) (config : Config)
      (custom : List CustomStrategy) :
      OfService (Service.buildBoard config custom (after step {} early))
  | asked {board : Switchboard} (ofService : OfService board) (call : Call) :
      OfService (step board call).2

theorem ignores_build (bare : board.Bare) (config : Config) (custom : List CustomStrategy) :
    (Service.buildBoard config custom board).Wired ∧
      (Service.buildBoard config custom board).Ignores [] := by
  obtain ⟨bundled, abreast⟩ := bundled_build bare config
  have first : (Service.buildBoard config [] board).Ignores [] := by
    obtain ⟨_, known, ⟨⟩⟩ := bundled.standing (show 1 < 6 by decide)
    exact ⟨known, bundled.enlisted 1 (by decide)⟩
  refine buildBoard_keeps (P := fun board => board.Wired ∧ board.Ignores [])
    ⟨abreast.wired, first⟩ (fun board s h => ?_) custom
  have added := h.2.add (.custom s)
  exact ⟨(h.1.add (.custom s)).enlist _,
    added.continues (.of_same (strategies_enlist _ _) (enlisted_enlist _ _))⟩

/-- The chain of a service's board is told of changes, and its strategy for ignored applications is
in place. -/
theorem OfService.standing (ofService : OfService board) :
    board.Wired ∧ ∃ names, board.Ignores names := by
  induction ofService with
  | built before config custom =>
      obtain ⟨wired, ignores⟩ := ignores_build (bare_after before) config custom
      exact ⟨wired, [], ignores⟩
  | @asked board _ call ih =>
      obtain ⟨wired, names, ignores⟩ := ih
      refine ⟨wired.step call, ?_⟩
      by_cases leaves : call.Leaves
      · exact ⟨names, (ignores.step leaves).1⟩
      · cases call with
        | ignoreApplications number applications =>
            have here : number = Service.ignoredStrategy := Decidable.not_not.mp leaves
            subst here
            have inside := (List.getElem?_eq_some_iff.mp ignores.told).1
            change ∃ names, (board.ignoreApplications _ applications).Ignores names
            rcases ignoreApplications_cases Service.ignoredStrategy applications board with
              same | ⟨_, -, pushed⟩
            · rw [same]
              exact ⟨names, ignores⟩
            · have told : (board.replace Service.ignoredStrategy
                  (.ignored (distinct applications))).Ignores (distinct applications) :=
                ⟨List.getElem?_set_self inside, ignores.enlisted⟩
              rw [pushed]
              exact ⟨_, told.serveAll _⟩
        | _ => exact absurd trivial leaves

/-- A write to the setting makes the strategy active exactly if it changes the setting, which the
chain heeds; one that changes nothing is told to nobody. -/
theorem active_write (ignores : board.Ignores names) (somebody : names ≠ []) (wired : board.Wired)
    {value : Value} {last : Switchboard}
    (settled : board.settle [.serve (.write SettingName.ignoredApplications value)] = some last) :
    Service.ignoredStrategy ∈ last.active ↔
      board.settings.differs SettingName.ignoredApplications value = true ∨
        Service.ignoredStrategy ∈ board.active := by
  have attended := attends board (.serve (.write SettingName.ignoredApplications value))
  rw [settle_cons] at settled
  generalize board.attend _ = result at attended settled
  cases attended with
  | written differs =>
      refine iff_of_true ?_ (.inl differs)
      let written := { board with
        settings := (board.settings.mark SettingName.ignoredApplications).introduce
          SettingName.ignoredApplications value }
      have ignores' : written.Ignores names := ⟨ignores.told, ignores.enlisted⟩
      have pending : written.Pending (board.announce SettingName.ignoredApplications value ++ []) :=
        wired.pending ignores.heeds _ value
      have kept : last.Ignores names ∧ last.Noticed [] :=
        settle_keeps (P := fun board errands => board.Ignores names ∧ board.Noticed errands)
          (fun board errand rest h => ⟨h.1.attend errand, h.2.attend h.1 somebody⟩)
          ⟨ignores', .inr pending⟩ settled
      exact kept.2.active
  | rewritten same =>
      rw [List.append_nil, settle_nil] at settled
      cases settled
      rw [same]
      simp

/-- How the settings show which applications are ignored. -/
def mirrored (applications : List String) : Value := .list ((distinct applications).map .text)

/-- The strategy told anew, and the list not yet written. -/
def tellIgnored (applications : List String) (board : Switchboard) : Switchboard :=
  board.replace Service.ignoredStrategy (.ignored (distinct applications))

/-- Pushing ignored applications comes to an end: listeners do not answer each other forever. -/
def PushReturns (board : Switchboard) (applications : List String) : Prop :=
  ((board.tellIgnored applications).settle
    [.serve (.write SettingName.ignoredApplications (mirrored applications))]).isSome

variable {applications : List String}

theorem Ignores.tell (h : board.Ignores names) (applications : List String) :
    (board.tellIgnored applications).Ignores (distinct applications) :=
  ⟨List.getElem?_set_self (List.getElem?_eq_some_iff.mp h.told).1, h.enlisted⟩

theorem Ignores.push_eq (h : board.Ignores names) (applications : List String) :
    board.ignoreApplications Service.ignoredStrategy applications =
      (board.tellIgnored applications).write SettingName.ignoredApplications
        (mirrored applications) := by
  rw [ignoreApplications, h.told]
  rfl

theorem Ignores.push (h : board.Ignores names) (applications : List String) :
    (board.ignoreApplications Service.ignoredStrategy applications).Ignores
      (distinct applications) := by
  rw [h.push_eq]
  exact (h.tell applications).serveAll _

/-- Right after a push the strategy is active exactly if the list was another than the settings
held, or the strategy was active already. -/
theorem active_push (h : board.Ignores names) (wired : board.Wired)
    (returns : board.PushReturns applications) (somebody : applications ≠ []) :
    Service.ignoredStrategy ∈
        (board.ignoreApplications Service.ignoredStrategy applications).active ↔
      board.settings.differs SettingName.ignoredApplications (mirrored applications) = true ∨
        Service.ignoredStrategy ∈ board.active := by
  have nonempty : distinct applications ≠ [] := by
    obtain ⟨application, member⟩ := List.exists_mem_of_ne_nil _ somebody
    exact List.ne_nil_of_mem (mem_distinct.mpr member)
  obtain ⟨last, settled⟩ := Option.isSome_iff_exists.mp returns
  have pushed : board.ignoreApplications Service.ignoredStrategy applications = last := by
    rw [h.push_eq, write, serve, serveAll_eq]
    exact congrArg (Option.getD · _) settled
  rw [pushed]
  exact active_write (h.tell applications) nonempty (wired.replace _ _) settled

/-- Calls that leave the strategy alone leave it told, and once active it stays so. -/
theorem Ignores.after (h : board.Ignores names) (somebody : names ≠ []) {later : List Call}
    (leaves : ∀ call ∈ later, call.Leaves)
    (heard : Service.ignoredStrategy ∈ board.active ∨
      ∃ m ∈ moments Switchboard.step board later, Service.ignoredStrategy ∈ m.after.active) :
    (after Switchboard.step board later).Ignores names ∧
      Service.ignoredStrategy ∈ (after Switchboard.step board later).active := by
  induction later generalizing board with
  | nil =>
      rcases heard with active | ⟨m, member, -⟩
      · exact ⟨h, active⟩
      · cases member
  | cons call rest ih =>
      obtain ⟨here, onward⟩ := List.forall_mem_cons.mp leaves
      obtain ⟨kept, stays⟩ := h.step here
      refine ih kept onward ?_
      rcases heard with active | ⟨m, member, active⟩
      · exact .inl (stays somebody active)
      · rcases List.mem_cons.mp member with rfl | later
        · exact .inl active
        · exact .inr ⟨m, later, active⟩

/-- Applications pushed to a service are ignored until the next push, in its chain and in its
contexts: if the list pushed is another than the one the settings hold, or the strategy is active
at the time, or as soon as it comes to be active. -/
theorem pushed_applications_ignored (ofService : OfService board)
    (returns : board.PushReturns applications) {later : List Call}
    (leaves : ∀ call ∈ later, call.Leaves)
    (heard : board.settings.differs SettingName.ignoredApplications (mirrored applications) = true ∨
      Service.ignoredStrategy ∈ board.active ∨
      ∃ m ∈ moments step (board.ignoreApplications Service.ignoredStrategy applications) later,
        Service.ignoredStrategy ∈ m.after.active) :
    let last := after step (board.ignoreApplications Service.ignoredStrategy applications) later
    (∀ probe application, probe.application = some application → application ∈ applications →
      (last.collect probe).1 = false) ∧
    ∀ s : Service, s.board = last → ∀ id probe application,
      (s.shouldCollect id probe).1.2.application = some application →
      application ∈ applications → (s.shouldCollect id probe).1.1 = false := by
  intro last
  obtain ⟨wired, names, ignores⟩ := ofService.standing
  have rejects : ∀ probe application, probe.application = some application →
      application ∈ applications → (last.collect probe).1 = false := by
    intro probe application own member
    have somebody : applications ≠ [] := List.ne_nil_of_mem member
    have told := mem_distinct.mpr member
    have now := (active_push ignores wired returns somebody).mpr
    have active := (or_assoc.mpr heard).imp_left now
    obtain ⟨still, stays⟩ :=
      (ignores.push applications).after (List.ne_nil_of_mem told) leaves active
    exact collect_ignored still stays own told
  refine ⟨rejects, ?_⟩
  intro s same id probe application own member
  change (s.board.collect _).1 = false
  rw [same]
  exact rejects _ application own member

def render : Probe :=
  { className := "admin.Console", methodName := "render", application := some "admin" }

/-- The setting is emptied behind the strategy's back; it goes on ignoring. -/
theorem admin_ignored_over_emptied_setting :
    let board := Service.buildBoard {} [] (after step {} [])
    let later := [Call.write SettingName.ignoredApplications (.list []), .collect render]
    let last := after step (board.ignoreApplications Service.ignoredStrategy ["admin"]) later
    board.PushReturns ["admin"] ∧ (last.collect render).1 = false := by
  intro board later last
  have ofService : board.OfService := .built (List.forall_mem_nil _) {} []
  have leaves : ∀ call ∈ later, call.Leaves := by simp [later, Call.Leaves]
  have ran : (settleSoon 100 (board.tellIgnored ["admin"]) [.serve (.write
      SettingName.ignoredApplications (mirrored ["admin"]))]).isSome = true ∧
      board.settings.differs SettingName.ignoredApplications (mirrored ["admin"]) = true := by
    decide +kernel
  obtain ⟨soon, differs⟩ := ran
  rw [settleSoon_eq] at soon
  obtain ⟨ignored, -⟩ := pushed_applications_ignored ofService soon leaves (.inl differs)
  exact ⟨soon, ignored render "admin" rfl List.mem_cons_self⟩

/-- The setting holds the list already: the push is told to nobody, and a probe of the application
is collected right after it. -/
theorem admin_collected_under_known_list :
    let early := [Call.write SettingName.ignoredApplications (.list [.text "admin"])]
    let board := after step (Service.buildBoard {} [] (after step {} early)) [.collect render]
    let pushed := board.ignoreApplications Service.ignoredStrategy ["admin"]
    pushed.ignoredBy Service.ignoredStrategy = ["admin"] ∧ render.application = some "admin" ∧
      (pushed.collect render).1 = true := by
  decide +kernel

end

end Switchboard
end SpanCapture
