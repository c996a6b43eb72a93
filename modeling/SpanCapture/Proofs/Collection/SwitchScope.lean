import SpanCapture.Proofs.Collection.Discreet

/-! How far a switch of call sites reaches. It covers a method, a class, or what lies below a dot
behind its key. Where no longer key that covers a probe decides already, the probe is left to the
switch and gets what is written there; on all others the switch has no influence. That the strategy
is active or not by whatever lies under its root carries a switch no further: where nothing under
the root is off, the strategy would accept. -/
namespace SpanCapture

/-- The keys of the switches that cover a method: its own, the one of its class, and those of what
the class lies in, up to a dot each. -/
inductive Covers (probe : Probe) : String → Prop
  | method : Covers probe (probe.className ++ "." ++ probe.methodName)
  | itself : Covers probe probe.className
  | above {package below : String} (inside : probe.className = package ++ "." ++ below) :
      Covers probe package

section
variable {probe : Probe} {key name : String}

/-- A key covers a probe if it is the one of the method, or ends where a part of the class does. -/
theorem covers_iff : Covers probe key ↔ key = probe.className ++ "." ++ probe.methodName ∨
    startsWith (key ++ ".") (probe.className ++ ".") = true := by
  have dot : ".".toList = ['.'] := rfl
  constructor
  · intro covers
    cases covers with
    | method => exact .inl rfl
    | itself => exact .inr (Settings.startsWith_self _)
    | above inside =>
        refine .inr ?_
        simp only [inside, String.append_assoc]
        rw [← String.append_assoc]
        exact Settings.startsWith_append _ _
  · rintro (rfl | inside)
    · exact .method
    · rw [startsWith_iff, String.toList_append, String.toList_append, dot,
        List.prefix_concat_iff] at inside
      rcases inside with same | ⟨below, letters⟩
      · rw [String.toList_injective (List.append_cancel_right same)]
        exact .itself
      · have split : probe.className = key ++ "." ++ String.ofList below := by
          apply String.toList_injective
          rw [String.toList_append, String.toList_append, dot, String.toList_ofList, letters]
        exact .above split

instance (probe : Probe) (key : String) : Decidable (Covers probe key) :=
  decidable_of_iff _ covers_iff.symm

/-- A class that begins with a dot lies in what has no name. -/
example : Covers { className := ".Cart", methodName := "add" } "" := by decide

theorem instrumentation_eq (probe : Probe) :
    SettingName.instrumentation probe.className probe.methodName =
      SettingName.instrumentationRoot ++ (probe.className ++ "." ++ probe.methodName) := by
  simp only [SettingName.instrumentation, String.append_assoc]

theorem Covers.governs (covers : Covers probe key) :
    Governs probe (SettingName.instrumentationRoot ++ key) := by
  cases covers with
  | method =>
      rw [← instrumentation_eq]
      exact .method
  | itself => exact .itself
  | above inside => exact .above inside

/-- The names that govern a method are the keys that cover it, under the root. -/
theorem Governs.covers (governs : Governs probe name) :
    ∃ key, name = SettingName.instrumentationRoot ++ key ∧ Covers probe key := by
  cases governs with
  | method => exact ⟨_, instrumentation_eq probe, .method⟩
  | itself => exact ⟨_, rfl, .itself⟩
  | above inside => exact ⟨_, rfl, .above inside⟩

theorem covers_of_governs (governs : Governs probe (SettingName.instrumentationRoot ++ key)) :
    Covers probe key := by
  obtain ⟨other, same, covers⟩ := governs.covers
  have letters := congrArg String.toList same
  rw [String.toList_append, String.toList_append] at letters
  rwa [String.toList_injective (List.append_cancel_left letters)]

/-- Of the names that govern a method no two have the same length. -/
theorem Governs.eq_of_length {other : String} (governs : Governs probe name)
    (governs' : Governs probe other) (same : name.length = other.length) : name = other := by
  obtain ⟨before, later, order⟩ := List.append_of_mem (Strategy.mem_switchesFor.mpr governs)
  have shorter := Strategy.pairwise_switchesFor probe
  have member := Strategy.mem_switchesFor.mpr governs'
  rw [order] at shorter member
  obtain ⟨-, behind, across⟩ := List.pairwise_append.mp shorter
  rcases List.mem_append.mp member with ahead | rest
  · have longer := across other ahead name List.mem_cons_self
    omega
  · rcases List.mem_cons.mp rest with here | below
    · exact here.symm
    · have longer := (List.pairwise_cons.mp behind).1 other below
      omega

/-- A name that only begins as the class does is not a part of it. -/
theorem not_covers_shopping (cart : probe.className = "shopping.Cart") : ¬Covers probe "shop" := by
  rw [covers_iff, cart]
  rintro (same | inside)
  · have lengths := congrArg String.length same
    rw [String.length_append, String.length_append] at lengths
    have short : "shop".length = 4 := by decide
    have long : "shopping.Cart".length = 13 := by decide
    omega
  · exact absurd inside (by decide)

end

namespace Settings

instance (settings : Settings) (name : String) : Decidable (settings.Decides name) :=
  inferInstanceAs (Decidable (_ ∨ _))

/-- The settings leave a probe to a switch: it covers the probe, and no longer one that does
decides. -/
structure LeavesTo (settings : Settings) (probe : Probe) (key : String) : Prop where
  covers : Covers probe key
  last : ∀ longer, Covers probe longer → key.length < longer.length →
    ¬settings.Decides (SettingName.instrumentationRoot ++ longer)

section
variable {s t : Settings} {probe : Probe} {key name other : String}

theorem length_root_lt {longer : String} : (SettingName.instrumentationRoot ++ key).length <
    (SettingName.instrumentationRoot ++ longer).length ↔ key.length < longer.length := by
  rw [String.length_append, String.length_append]
  omega

theorem decides_write_of_ne (differs : other ≠ name) (value : Value) (s : Settings) :
    (s.write name value).2.Decides other ↔ s.Decides other := by
  unfold Decides
  rw [getBool?_write_of_ne differs, isExplicit_write_of_ne differs]

/-- No two switches decide about one probe. -/
theorem Deciding.unique (decided : s.Deciding probe name) (decided' : s.Deciding probe other) :
    name = other := by
  refine decided.governs.eq_of_length decided'.governs (Nat.le_antisymm ?_ ?_)
  · exact Nat.le_of_not_lt fun longer =>
      decided'.first name decided.governs longer decided.decides
  · exact Nat.le_of_not_lt fun longer =>
      decided.first other decided'.governs longer decided'.decides

/-- If what decides about a probe is no longer than a switch that covers it, it is left to the
switch, whatever the switch itself says. -/
theorem Deciding.leavesTo (decided : t.Deciding probe name)
    (same : ∀ other, other ≠ SettingName.instrumentationRoot ++ key →
      (t.Decides other ↔ s.Decides other))
    (covers : Covers probe key)
    (short : name.length ≤ (SettingName.instrumentationRoot ++ key).length) :
    s.LeavesTo probe key := by
  refine ⟨covers, ?_⟩
  intro longer covers' lies decides
  have further := length_root_lt.mpr lies
  have differs : SettingName.instrumentationRoot ++ longer ≠
      SettingName.instrumentationRoot ++ key := by
    intro equal
    rw [equal] at further
    exact Nat.lt_irrefl _ further
  exact decided.first _ covers'.governs (Nat.lt_of_le_of_lt short further)
    ((same _ differs).mpr decides)

/-- What decides about a probe decides after a change as well, if the change was made to a switch
that is shorter or does not govern the probe. -/
theorem Deciding.transfer {switch : String} (decided : s.Deciding probe name)
    (same : ∀ other, other ≠ switch → (t.Decides other ↔ s.Decides other))
    (apart : ∀ other, Governs probe other → name.length ≤ other.length → other ≠ switch) :
    t.Deciding probe name := by
  have here := apart name decided.governs (Nat.le_refl _)
  refine ⟨decided.governs, (same name here).mpr decided.decides, ?_⟩
  intro other governs longer decides
  have there := apart other governs (Nat.le_of_lt longer)
  exact decided.first other governs longer ((same other there).mp decides)

/-- A write that a probe is not left to has no part in what decides about the probe. -/
theorem deciding_write (shut : ¬s.LeavesTo probe key) (value : Value) (name : String) :
    let switch := SettingName.instrumentationRoot ++ key
    ((s.write switch value).2.Deciding probe name ↔ s.Deciding probe name) ∧
      (s.Deciding probe name → name ≠ switch) := by
  intro switch
  have same (other : String) (differs : other ≠ switch) :
      (s.write switch value).2.Decides other ↔ s.Decides other :=
    decides_write_of_ne differs value s
  have hidden {u : Settings}
      (agrees : ∀ other, other ≠ switch → (u.Decides other ↔ s.Decides other))
      (decided : u.Deciding probe name) :
      ∀ other, Governs probe other → name.length ≤ other.length → other ≠ switch := by
    rintro _ governs short rfl
    exact shut (decided.leavesTo agrees (covers_of_governs governs) short)
  refine ⟨⟨?_, ?_⟩, ?_⟩
  · intro decided
    exact decided.transfer (fun other differs => (same other differs).symm) (hidden same decided)
  · intro decided
    exact decided.transfer same (hidden (fun _ _ => Iff.rfl) decided)
  · intro decided
    exact hidden (fun _ _ => Iff.rfl) decided name decided.governs (Nat.le_refl _)

/-- What a probe is left to decides about it as soon as it is switched on or off. -/
theorem LeavesTo.deciding (left : s.LeavesTo probe key) (on : Bool) :
    let switch := SettingName.instrumentationRoot ++ key
    (s.write switch (.bool on)).2.Deciding probe switch := by
  intro switch
  have value := getBool?_write_self switch on s
  refine ⟨left.covers.governs, ?_, ?_⟩
  · cases on with
    | false => exact .inl value
    | true => exact .inr ⟨value, isExplicit_write switch _ s⟩
  · intro other governs longer
    have differs : other ≠ switch := by
      rintro rfl
      exact Nat.lt_irrefl _ longer
    obtain ⟨lower, rfl, covers⟩ := governs.covers
    rw [decides_write_of_ne differs]
    exact left.last lower covers (length_root_lt.mp longer)

theorem off_write (shut : ¬s.LeavesTo probe key) (value : Value) :
    let t := (s.write (SettingName.instrumentationRoot ++ key) value).2
    (∃ name, t.Deciding probe name ∧ t.getBool? name = some false) ↔
      ∃ name, s.Deciding probe name ∧ s.getBool? name = some false := by
  refine exists_congr fun name => ?_
  obtain ⟨decided, apart⟩ := deciding_write shut value name
  rw [decided]
  refine and_congr_right fun here => ?_
  rw [getBool?_write_of_ne (apart here)]

/-- Admission goes by the switches of call sites only through the one that decides. -/
theorem Admits.transfer (h : s.Admits probe)
    (outside : ∀ name, startsWith SettingName.instrumentationRoot name = false →
      t.get? name = s.get? name)
    (off : (∃ name, t.Deciding probe name ∧ t.getBool? name = some false) →
      ∃ name, s.Deciding probe name ∧ s.getBool? name = some false) : t.Admits probe := by
  have switch (name : String) (apart : startsWith SettingName.instrumentationRoot name = false) :
      t.getBool? name = s.getBool? name :=
    congrArg (Option.bind · Value.asBool?) (outside name apart)
  have plugins (plugin : String) : startsWith SettingName.instrumentationRoot
      (SettingName.pluginEnabled plugin) = false :=
    startsWith_apart (Strategy.startsWith_pluginEnabled plugin) (by decide) (by decide)
  have aspects (aspect : String) : startsWith SettingName.instrumentationRoot
      (SettingName.aspectEnabled aspect) = false :=
    startsWith_apart (Strategy.startsWith_aspectEnabled aspect) (by decide) (by decide)
  refine ⟨?_, ?_, ?_, ?_, ?_⟩
  · rw [switch _ (by decide)]
    exact h.agent
  · have ratio : t.getInt? SettingName.endpointRatio = s.getInt? SettingName.endpointRatio :=
      congrArg (Option.bind · Value.asInt?) (outside _ (by decide))
    rw [ratio]
    exact h.endpoints
  · intro plugin own
    rw [switch _ (plugins plugin)]
    exact h.plugin plugin own
  · intro aspect own
    rw [switch _ (aspects aspect)]
    exact h.aspect aspect own
  · intro name decided isOff
    obtain ⟨before, decided', wasOff⟩ := off ⟨name, decided, isOff⟩
    exact h.site before decided' wasOff

/-- A write that a probe is not left to changes nothing about whether the probe is admitted. -/
theorem admits_write (shut : ¬s.LeavesTo probe key) (value : Value) :
    (s.write (SettingName.instrumentationRoot ++ key) value).2.Admits probe ↔ s.Admits probe := by
  have outside (name : String) (apart : startsWith SettingName.instrumentationRoot name = false) :
      (s.write (SettingName.instrumentationRoot ++ key) value).2.get? name = s.get? name := by
    refine get?_write_of_ne ?_ value s
    rintro rfl
    rw [startsWith_append] at apart
    cases apart
  have off := off_write shut value
  constructor
  · exact fun admits => admits.transfer (fun name apart => (outside name apart).symm) off.mpr
  · exact fun admits => admits.transfer outside off.mp

end

end Settings

namespace Strategy

section
variable {s : Settings} {probe : Probe} {key name : String}

/-- The strategy for call sites never crashes, so its verdict is known by when it rejects. -/
theorem callSites_eq_done {on : Bool} {discovered : List String}
    (rejects : (callSites discovered).collect s probe = .done false ↔ on = false) :
    (callSites discovered).collect s probe = .done on := by
  obtain ⟨accepts, verdict⟩ : ∃ accepts, (callSites discovered).collect s probe = .done accepts :=
    ⟨_, rfl⟩
  rw [verdict, Outcome.done.injEq] at rejects
  rw [verdict]
  cases accepts with
  | false => rw [rejects.mp rfl]
  | true =>
      cases on with
      | true => rfl
      | false => cases rejects.mpr rfl

/-- The strategy for call sites says what the switch that decides about a probe says. -/
theorem callSites_of_deciding (decided : s.Deciding probe name) {on : Bool}
    (value : s.getBool? name = some on) (discovered : List String) :
    (callSites discovered).collect s probe = .done on := by
  refine callSites_eq_done ?_
  rw [callSites_rejects]
  constructor
  · rintro ⟨other, decided', off⟩
    rw [decided.unique decided', off] at value
    exact (Option.some.inj value).symm
  · rintro rfl
    exact ⟨name, decided, value⟩

/-- A write that a probe is not left to changes no verdict of the strategy for call sites. -/
theorem callSites_write (shut : ¬s.LeavesTo probe key) (value : Value) (discovered : List String) :
    (callSites discovered).collect
        (s.write (SettingName.instrumentationRoot ++ key) value).2 probe =
      (callSites discovered).collect s probe := by
  obtain ⟨before, was⟩ : ∃ before, (callSites discovered).collect s probe = .done before := ⟨_, rfl⟩
  have rejected : (∃ name, s.Deciding probe name ∧ s.getBool? name = some false) ↔
      before = false := by
    rw [← callSites_rejects, was, Outcome.done.injEq]
  rw [was]
  refine callSites_eq_done ?_
  rw [callSites_rejects]
  exact (Settings.off_write shut value).trans rejected

end

end Strategy

namespace Switchboard

theorem Undisturbed.collect_write {board : Switchboard} {probe : Probe} {key : String}
    (h : board.Undisturbed probe) (shut : ¬board.settings.LeavesTo probe key) (value : Value) :
    ((board.write (SettingName.instrumentationRoot ++ key) value).collect probe).1 =
      (board.collect probe).1 := by
  rcases h.admits_write (SettingName.instrumentationRoot ++ key) value with nothing | same
  · rw [nothing]
  · have later := (h.write (SettingName.instrumentationRoot ++ key) value).verdict
    exact Bool.eq_iff_iff.mpr
      (later.trans (same.trans ((Settings.admits_write shut value).trans h.verdict.symm)))

/-- On every state of the settings, the strategy for call sites gives a probe that is left to a
switch the verdict that is written there, and of every other probe no write to the switch moves its
verdict. Nor does it move the verdict of the whole chain, on every board of the bundled strategies
whose listeners keep out of the probe's way. So a switch moves a verdict only if its key is the one
of the method or of its class, or ends in the class right before a dot, and no longer key of this
kind decides already. A switch of `shop` moves nothing about `shopping.Cart`. -/
theorem switch_moves_only_what_it_covers {early calls : List Call}
    (before : ∀ call ∈ early, call.OnSettings) (plain : ∀ call ∈ calls, call.Plain)
    (config : Config) (key : String) (probe : Probe) :
    let switch := SettingName.instrumentationRoot ++ key
    let board := after step (Service.buildBoard config [] (after step {} early)) calls
    (∀ (settings : Settings) (discovered : List String),
      (settings.LeavesTo probe key → ∀ on : Bool, (Strategy.callSites discovered).collect
          (settings.write switch (.bool on)).2 probe = .done on) ∧
      (¬settings.LeavesTo probe key → ∀ value : Value, (Strategy.callSites discovered).collect
          (settings.write switch value).2 probe =
        (Strategy.callSites discovered).collect settings probe)) ∧
    (board.Discreet probe → ¬board.settings.LeavesTo probe key → ∀ value : Value,
      ((board.write switch value).collect probe).1 = (board.collect probe).1) ∧
    ∀ settings : Settings, probe.className = "shopping.Cart" →
      ¬settings.LeavesTo probe "shop" := by
  intro switch board
  refine ⟨fun settings discovered => ⟨?_, ?_⟩, ?_, ?_⟩
  · intro left on
    have stored := Settings.getBool?_write_self switch on settings
    exact Strategy.callSites_of_deciding (left.deciding on) stored discovered
  · intro shut value
    exact Strategy.callSites_write shut value discovered
  · intro discreet shut value
    exact (undisturbed_after before plain config discreet).collect_write shut value
  · intro settings cart left
    exact not_covers_shopping cart left.covers

/-- Someone who keeps book of the last change, apart from what is collected. -/
def clerk : Listener where
  label := "clerk"
  react := fun _ name _ => if name = "audit.last" then [] else [.write "audit.last" (.text name)]

theorem clerk_apart (probe : Probe) : clerk.AsksOnly (Request.Apart probe) := by
  intro journal name value request asked
  have apart : ¬Concerns probe "audit.last" := by
    intro concerns
    exact absurd (startsWith_of_concerns concerns) (by decide)
  unfold clerk at asked
  dsimp only at asked
  split at asked
  · cases asked
  · cases List.mem_singleton.mp asked
    exact apart

/-- One method of a shop is on by itself; then the shop goes off. -/
theorem shop_goes_off :
    let calls := [Call.write (SettingName.instrumentation "shop.Api" "get") (.bool true),
      .subscribe clerk]
    let board := after step (Service.buildBoard {} [] (after step {} [])) calls
    let off := board.write (SettingName.instrumentationRoot ++ "shop") (.bool false)
    let get : Probe := { className := "shop.Api", methodName := "get" }
    let put : Probe := { className := "shop.Api", methodName := "put" }
    let add : Probe := { className := "shopping.Cart", methodName := "add" }
    off.settings.isExplicit "audit.last" = true ∧ (board.collect put).1 = true ∧
      (off.collect put).1 = false ∧ board.settings.LeavesTo put "shop" ∧
      (off.collect get).1 = (board.collect get).1 ∧
      (off.collect add).1 = (board.collect add).1 := by
  intro calls board off get put add
  have plain : ∀ call ∈ calls, call.Plain := by simp [calls, Call.Plain]
  have ran : off.settings.isExplicit "audit.last" = true ∧ (board.collect put).1 = true ∧
      (off.collect put).1 = false ∧
      board.settings.Decides (SettingName.instrumentationRoot ++ "shop.Api.get") := by
    decide +kernel
  obtain ⟨kept, accepted, rejected, decides⟩ := ran
  let built := Service.buildBoard {} [] (after step {} [])
  have joined (first : Switchboard) (call : Call) : after step first [call, .subscribe clerk] =
      ((step first call).2.subscribe (.listener clerk)).2 := rfl
  have alone : (step built (.write (SettingName.instrumentation "shop.Api" "get")
      (.bool true))).2.subscribers.all (·.2.isChain) = true := by decide +kernel
  have discreet (probe : Probe) : board.Discreet probe := by
    dsimp only [board, calls]
    rw [joined]
    exact (discreet_of_chain alone).subscribe (clerk_apart probe)
  have frame (probe : Probe) := (switch_moves_only_what_it_covers (List.forall_mem_nil _) plain {}
    "shop" probe).2
  have left : board.settings.LeavesTo put "shop" := by
    refine Classical.byContradiction fun shut => ?_
    have same : (off.collect put).1 = (board.collect put).1 :=
      (frame put).1 (discreet put) shut (.bool false)
    rw [accepted, rejected] at same
    cases same
  have itself : (off.collect get).1 = (board.collect get).1 := by
    refine (frame get).1 (discreet get) (fun left => ?_) (.bool false)
    exact left.last "shop.Api.get" .method (by decide) decides
  have elsewhere : (off.collect add).1 = (board.collect add).1 := by
    obtain ⟨chain, shopping⟩ := frame add
    exact chain (discreet add) (shopping board.settings rfl) (.bool false)
  exact ⟨kept, accepted, rejected, left, itself, elsewhere⟩

end Switchboard
end SpanCapture
