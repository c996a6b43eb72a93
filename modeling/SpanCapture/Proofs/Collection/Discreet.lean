import SpanCapture.Proofs.Collection.Notices
import SpanCapture.Proofs.Collection.Verdict

/-! Listeners that keep out of a probe's way. They may answer changes as they please: write and
register settings, tell others to go. But no name they use concerns the probe. Where all listeners
are like that, what the settings say of the probe after a request, with all that came of it, is what
they say after the request alone; and the verdict on the probe is what they say. -/
namespace SpanCapture

/-- Every name that concerns a probe is one of collection. -/
theorem startsWith_of_concerns {probe : Probe} {name : String} (concerns : Concerns probe name) :
    startsWith "collection." name = true := by
  have inside {root name : String} (under : startsWith root name = true)
      (below : startsWith "collection." root = true) : startsWith "collection." name = true := by
    rw [startsWith_iff] at *
    exact below.trans under
  cases concerns with
  | agent => decide
  | ratio => decide
  | plugin => exact inside (Strategy.startsWith_pluginEnabled _) (by decide)
  | aspect => exact inside (Strategy.startsWith_aspectEnabled _) (by decide)
  | site governs => exact inside (Strategy.startsWith_of_governs governs) (by decide)

def Request.Apart (probe : Probe) : Request → Prop
  | .write name _ | .register name _ => ¬Concerns probe name
  | .enlist _ | .unsubscribe _ => True

namespace Switchboard

/-- No listener asks for anything that concerns the probe. -/
def Discreet (board : Switchboard) (probe : Probe) : Prop :=
  ∀ entry ∈ board.subscribers, entry.2.AsksOnly (Request.Apart probe)

section
variable {board : Switchboard} {probe : Probe}

/-- The chain alone asks for nothing. -/
theorem discreet_of_chain (alone : board.subscribers.all (·.2.isChain) = true) :
    board.Discreet probe := by
  rintro ⟨id, subscriber⟩ member
  cases subscriber with
  | chain => trivial
  | listener => cases List.all_eq_true.mp alone _ member

theorem Discreet.subscribe (h : board.Discreet probe) {listener : Listener}
    (apart : listener.AsksOnly (Request.Apart probe)) :
    (board.subscribe (.listener listener)).2.Discreet probe := by
  intro entry member
  rcases List.mem_append.mp member with old | new
  · exact h entry old
  · cases List.mem_singleton.mp new
    exact apart

theorem Discreet.attended (h : board.Discreet probe) (errand : Errand) :
    (board.attend errand).1.Discreet probe := by
  intro entry member
  exact h entry ((subscribers_attend board errand).1.subset member)

/-- Whatever is asked for, even about the probe, those told of it keep out of the probe's way. -/
theorem Discreet.asked (h : board.Discreet probe) (request : Request) :
    ∀ errand ∈ (board.attend (.serve request)).2, errand.AsksOnly (Request.Apart probe) := by
  have attended := attends board (.serve request)
  generalize board.attend (.serve request) = result at attended
  cases attended with
  | written => exact asksOnly_announce h _ _
  | introduced => exact asksOnly_announce h _ _
  | rewritten => exact nofun
  | known => exact nofun
  | enlisted => exact nofun
  | dismissed => exact nofun

/-- What comes of an errand apart from the probe is apart from it, too. -/
theorem Discreet.attend (h : board.Discreet probe) {errand : Errand}
    (apart : errand.AsksOnly (Request.Apart probe)) :
    (∀ next ∈ (board.attend errand).2, next.AsksOnly (Request.Apart probe)) ∧
      Settings.Bears probe board.settings (board.attend errand).1.settings := by
  have attended := attends board errand
  cases errand with
  | tell id subscriber name value =>
      generalize board.attend _ = result at attended
      cases attended with
      | looked => exact ⟨nofun, .refl _ _⟩
      | passed => exact ⟨nofun, .refl _ _⟩
      | heard =>
          refine ⟨?_, .refl _ _⟩
          intro next member
          obtain ⟨request, asked, rfl⟩ := List.mem_map.mp member
          exact apart _ _ _ request asked
  | serve request =>
      refine ⟨h.asked request, ?_⟩
      generalize board.attend _ = result at attended
      cases attended with
      | @written name value differs =>
          have bears := Settings.Bears.write apart value board.settings
          rwa [Settings.write_of_differs name value _ differs] at bears
      | @rewritten name value same =>
          have bears := Settings.Bears.write apart value board.settings
          rwa [Settings.write_of_same name value _ same] at bears
      | introduced => exact .introduce apart _ _
      | known => exact .refl _ _
      | @enlisted number =>
          rcases enlist_cases number board with same | brought
          · rw [same]
            exact .refl _ _
          · rw [brought]
            exact .refl _ _
      | dismissed => exact .refl _ _

theorem Discreet.settle (h : board.Discreet probe) {errands : List Errand}
    (apart : ∀ errand ∈ errands, errand.AsksOnly (Request.Apart probe)) {last : Switchboard}
    (settled : board.settle errands = some last) :
    Settings.Bears probe board.settings last.settings := by
  let P (now : Switchboard) (left : List Errand) : Prop := now.Discreet probe ∧
    (∀ errand ∈ left, errand.AsksOnly (Request.Apart probe)) ∧
    Settings.Bears probe board.settings now.settings
  have keeps : ∀ now errand rest, P now (errand :: rest) →
      P (now.attend errand).1 ((now.attend errand).2 ++ rest) := by
    rintro now errand rest ⟨discreet, each, bears⟩
    obtain ⟨here, later⟩ := List.forall_mem_cons.mp each
    obtain ⟨next, bears'⟩ := discreet.attend here
    exact ⟨discreet.attended errand, List.forall_mem_append.mpr ⟨next, later⟩, bears.trans bears'⟩
  have start : P board errands := ⟨h, apart, .refl _ _⟩
  obtain ⟨-, -, bears⟩ := settle_keeps keeps start settled
  exact bears

theorem Discreet.serveAll (h : board.Discreet probe) (requests : List Request) :
    (board.serveAll requests).Discreet probe := by
  intro entry member
  exact h entry ((subscribers_serveAll requests board).1.subset member)

/-- After a request and all that came of it, the settings say of the probe what they said after
the request alone. What never comes to an end changes nothing. -/
theorem Discreet.serve (h : board.Discreet probe) (request : Request) :
    board.serve request = board ∨
      Settings.Bears probe (board.attend (.serve request)).1.settings
        (board.serve request).settings := by
  have served : board.serve request =
      ((board.attend (.serve request)).1.settle (board.attend (.serve request)).2).getD board := by
    rw [Switchboard.serve, serveAll_eq, List.map_singleton, settle_cons, List.append_nil]
  rw [served]
  cases settled : (board.attend (.serve request)).1.settle (board.attend (.serve request)).2 with
  | none => exact .inl rfl
  | some last => exact .inr ((h.attended _).settle (h.asked request) settled)

/-- A switch made known as on, be it one of the probe's. -/
theorem Discreet.register (h : board.Discreet probe) {switch : String}
    (other : switch ≠ SettingName.agentDisabled) :
    (board.register switch (.bool true)).2.Discreet probe ∧
      Settings.Bears probe board.settings (board.register switch (.bool true)).2.settings := by
  unfold Switchboard.register
  split
  · exact ⟨h, .refl _ _⟩
  · rename_i unknown
    refine ⟨h.serveAll _, ?_⟩
    rcases h.serve (.register switch (.bool true)) with nothing | bears
    · dsimp only
      rw [nothing]
      exact .refl _ _
    · refine Settings.Bears.trans ?_ bears
      rw [Switchboard.attend, unknown]
      have learns : Settings.Learns (· = switch) board.settings
          (board.settings.introduce switch (.bool true)) := .introduce unknown rfl
      exact learns.bears other.symm probe

theorem Discreet.observe (h : board.Discreet probe) (bundled : board.Bundled) (number : Nat) :
    (board.observe number probe).2.Discreet probe ∧
      Settings.Bears probe board.settings (board.observe number probe).2.settings := by
  unfold Switchboard.observe
  split
  · exact ⟨h, .refl _ _⟩
  · rename_i known
    exact (bundled.places known).isBundled.elim
  · rename_i s _ known
    split
    · exact ⟨h, .refl _ _⟩
    · rename_i switch own
      let marked := board.replace number (s.remember board.settings switch)
      have discreet : marked.Discreet probe := h
      exact discreet.register (Strategy.switch_ne_agentDisabled own)

theorem Discreet.observeAll (h : board.Discreet probe) (bundled : board.Bundled)
    (numbers : List Nat) :
    (board.observeAll probe numbers).Discreet probe ∧
      Settings.Bears probe board.settings (board.observeAll probe numbers).settings := by
  induction numbers generalizing board with
  | nil => exact ⟨h, .refl _ _⟩
  | cons number rest ih =>
      have continues := (events_observe number probe board).continues
      obtain ⟨discreet, bears⟩ := h.observe bundled number
      obtain ⟨discreet', bears'⟩ := ih discreet (bundled.continues continues)
      exact ⟨discreet', bears.trans bears'⟩

/-- A board of bundled strategies that is up to date, with listeners that keep out of the way. -/
structure Undisturbed (board : Switchboard) (probe : Probe) : Prop where
  bundled : board.Bundled
  abreast : board.Abreast []
  sound : board.settings.Sound
  discreet : board.Discreet probe

theorem undisturbed_after {early calls : List Call} (before : ∀ call ∈ early, call.OnSettings)
    (plain : ∀ call ∈ calls, call.Plain) (config : Config) :
    let board := after step (Service.buildBoard config [] (after step {} early)) calls
    board.Discreet probe → board.Undisturbed probe := by
  intro board discreet
  obtain ⟨bundled, abreast, sound⟩ := bundled_after before plain config
  exact ⟨bundled, abreast, sound, discreet⟩

/-- The verdict on a probe is what the settings say when it comes. -/
theorem Undisturbed.verdict (h : board.Undisturbed probe) :
    (board.collect probe).1 = true ↔ board.settings.Admits probe := by
  have shown := events_observeAll probe board.registered board
  obtain ⟨-, verdict⟩ := judgeAll_active (h.bundled.continues shown.continues)
    (h.abreast.events shown) probe
  obtain ⟨-, bears⟩ := h.discreet.observeAll h.bundled board.registered
  exact verdict.trans (bears.admits h.sound)

theorem Undisturbed.write (h : board.Undisturbed probe) (name : String) (value : Value) :
    (board.write name value).Undisturbed probe := by
  have event : Event board (board.write name value) := .served [.write name value]
  exact ⟨h.bundled.continues event.continues, h.abreast.event event, Sound.event h.sound event,
    h.discreet.serveAll _⟩

/-- After a write, and whatever listeners made of it, a probe is admitted as after the write alone,
or everything is as it was. -/
theorem Undisturbed.admits_write (h : board.Undisturbed probe) (name : String) (value : Value) :
    board.write name value = board ∨ ((board.write name value).settings.Admits probe ↔
      (board.settings.write name value).2.Admits probe) := by
  rcases h.discreet.serve (.write name value) with nothing | bears
  · exact .inl nothing
  · exact .inr (bears.admits (h.sound.write name value))

end

end Switchboard
end SpanCapture
