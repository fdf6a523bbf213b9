/-
# OemPkg.BootMenu.WriteGate — which settings the boot menu writes

The model of the boot menu's two HII entry points, ExtractConfig and RouteConfig, with their four
configurations (`BootMenu/BootMenu.c`). The settings page is guarded by a global: an extraction of
BootGrayoutConfig asks the settings access protocol which ids may be written, and RouteConfig for
BootSettingsConfig consults what that extraction left. Other calls come in between, some of them
with caller-supplied blocks of the very type of the guard.

The guard is compared with what it is for: `lastGrayout` remembers the answers of the most recent
such extraction, and along every run the guard agrees with that memory (`run_guards`). So nothing is
written but what the last extraction saw as writable (`only_writable_settings_are_set`).
-/
import OemPkg.Lib.Machine
import OemPkg.BootMenu.OrderForm
import OemPkg.Settings.BootManagerSettings

namespace OemPkg.BootMenu

open OemPkg.Lib OemPkg.Uefi OemPkg.Settings

/-! ## The settings page -/

/-- The settings of the page. -/
inductive MenuSetting where
  | ipv6 | altBoot | bootOrderLock | enableUsbBoot
  deriving DecidableEq, Repr

/-- The order in which the source goes over them. -/
def menuSettings : List MenuSetting := [.ipv6, .altBoot, .bootOrderLock, .enableUsbBoot]

theorem mem_menuSettings (id : MenuSetting) : id ∈ menuSettings := by
  cases id <;> decide

/-- The DFCI_SETTING_ID__ of a setting. -/
def MenuSetting.id : MenuSetting → DfciSettingId
  | .ipv6 => .boot .ipv6
  | .altBoot => .boot .altBoot
  | .bootOrderLock => .boot .bootOrderLock
  | .enableUsbBoot => .boot .enableUsbBoot

/-- The four BOOLEANs that SETTINGS_MENU_CONFIGURATION, SETTINGS_GRAYOUT_CONFIGURATION and
SETTINGS_SUPPRESS_CONFIGURATION have in common. -/
abbrev SettingsConfiguration := MenuSetting → UInt8

/-- What the protocol's Get answers: the status, the value it writes, if any, and the flags. -/
structure Got where
  status : EfiStatus
  value : Option UInt8
  flags : DfciSettingFlags

/-- The menu's globals, with the boot variables. -/
structure MenuState where
  order : OrderMenu
  vars : BootVariables
  /-- mSettingsConfiguration -/
  settings : SettingsConfiguration
  /-- mSettingsGrayoutConfiguration -/
  grayout : SettingsConfiguration
  restrictedAccessString : UInt8
  /-- mSettingsSuppressConfiguration -/
  suppress : SettingsConfiguration

/-- The globals when the driver is loaded. -/
def MenuState.atLoad (vars : BootVariables) : MenuState :=
  ⟨⟨[], ⟨List.replicate maxBootOptionsSupported 0, List.length_replicate⟩⟩, vars,
    fun _ => 0, fun _ => 0, 0, fun _ => 0⟩

/-- GetSetting: the status, and the value it leaves behind `Data`. -/
def getSetting (got : Got) (data : UInt8) : EfiStatus × UInt8 :=
  (got.status, if efiError got.status then 1 else got.value.getD data)

/-- GetSettingGrayoutFlag, for the field of setting `id`. -/
def getSettingGrayoutFlag (got : Got) (id : MenuSetting) (st : MenuState) : MenuState :=
  -- if Get fails, assume grayed out
  let st := { st with grayout := Function.update st.grayout id 0 }
  if efiError got.status then st
  else if got.flags.writeAccess then
    { st with grayout := Function.update st.grayout id 1 }
  else { st with restrictedAccessString := st.restrictedAccessString ||| 1 }

/-- GetSettingSuppressFlag: only a setting without a provider is suppressed. -/
def getSettingSuppressFlag (got : Got) : UInt8 := if got.status = efiNotFound then 1 else 0

/-! ## The entry points -/

/-- The configurations HiiIsConfigHdrMatch tells apart. -/
inductive ConfigHeader where
  | bootOrderConfig | bootSettingsConfig | bootGrayoutConfig | bootSuppressConfig | unsupported
  deriving DecidableEq

/-- A request or configuration string. -/
structure ConfigString where
  /-- OFFSET occurs in it -/
  hasOffset : Bool
  header : ConfigHeader

/-- A call of ExtractConfig: its arguments, absent for a NULL pointer, what Get answers for each
id during the call, and the status of BlockToConfig. -/
structure ExtractCall where
  progress : Bool
  results : Bool
  request : Option ConfigString
  get : DfciSettingId → Got
  blockToConfig : EfiStatus

/-- The block ExtractConfig hands to BlockToConfig. -/
inductive ConfigBlock where
  | order (c : OrderMenuConfiguration)
  | settings (c : SettingsConfiguration)
  | grayout (c : SettingsConfiguration) (restrictedAccessString : UInt8)
  | suppress (c : SettingsConfiguration)

/-- ExtractConfig: its status, the block it converts, and the globals it leaves. -/
def extractConfig (call : ExtractCall) (st : MenuState) :
    (EfiStatus × Option ConfigBlock) × MenuState :=
  if !call.progress || !call.results then ((efiInvalidParameter, none), st)
  else
    match call.request with
    | none => ((efiUnsupported, none), st)
    | some request =>
        if !request.hasOffset then ((efiUnsupported, none), st)
        else
          match request.header with
          | .bootOrderConfig =>
              ((call.blockToConfig, some (.order st.order.orderConfiguration)), st)
          | .bootSettingsConfig =>
              let st :=
                { st with settings := fun id => (getSetting (call.get id.id) (st.settings id)).2 }
              ((call.blockToConfig, some (.settings st.settings)), st)
          | .bootGrayoutConfig =>
              let st := menuSettings.foldl
                (fun st id => getSettingGrayoutFlag (call.get id.id) id st)
                { st with restrictedAccessString := 0 }
              ((call.blockToConfig, some (.grayout st.grayout st.restrictedAccessString)), st)
          | .bootSuppressConfig =>
              let st := { st with suppress := fun id => getSettingSuppressFlag (call.get id.id) }
              ((call.blockToConfig, some (.suppress st.suppress)), st)
          | .unsupported => ((efiUnsupported, none), st)

/-- A call of RouteConfig: its arguments, absent for a NULL pointer, and what its calls answer. -/
structure RouteCall where
  progress : Bool
  configuration : Option ConfigString
  /-- for BootOrderConfig -/
  submission : Submission
  dialogs : Dialogs
  /-- ConfigToBlock for the other three: the status, and the block as it leaves it -/
  configToBlock : EfiStatus × SettingsConfiguration
  /-- the protocol's Set -/
  set : DfciSettingId → UInt8 → EfiStatus

/-- The settings RouteConfig writes, in order: those whose field of the guard is set. -/
def settingsToSet (st : MenuState) : List (MenuSetting × UInt8) :=
  (menuSettings.filter fun id => st.grayout id != 0).map fun id => (id, st.settings id)

/-- RouteConfig: its status, the Sets it makes, and the globals it leaves. -/
def routeConfiguration (H : OrderedListFlags) (defaults : Option (List EfiLoadOption))
    (call : RouteCall) (st : MenuState) :
    (EfiStatus × List (MenuSetting × UInt8)) × MenuState :=
  match call.configuration with
  | none => ((efiInvalidParameter, []), st)
  | some configuration =>
      if !call.progress then ((efiInvalidParameter, []), st)
      else if !configuration.hasOffset then ((efiUnsupported, []), st)
      else
        match configuration.header with
        | .bootOrderConfig =>
            let r := routeConfig H defaults call.dialogs call.submission st.order st.vars
            ((r.status, []), { st with order := r.menu, vars := r.vars })
        -- parsed into a temporary: this just moves Progress
        | .bootGrayoutConfig => ((call.configToBlock.1, []), st)
        | .bootSuppressConfig => ((call.configToBlock.1, []), st)
        | .bootSettingsConfig =>
            let st := { st with settings := call.configToBlock.2 }
            if efiError call.configToBlock.1 then ((call.configToBlock.1, []), st)
            else
              let sets := settingsToSet st
              ((sets.foldl (fun status s => status ||| call.set s.1.id s.2) efiSuccess, sets), st)
        | .unsupported => ((efiUnsupported, []), st)

/-! ## Runs -/

/-- A call of one of the entry points. -/
inductive MenuCall where
  | extract (call : ExtractCall)
  | route (call : RouteCall)

/-- What a call answers. -/
inductive MenuAnswer where
  | extracted (status : EfiStatus) (block : Option ConfigBlock)
  | routed (status : EfiStatus) (sets : List (MenuSetting × UInt8))

/-- The Sets a call makes. -/
def MenuAnswer.sets : MenuAnswer → List (MenuSetting × UInt8)
  | .extracted _ _ => []
  | .routed _ sets => sets

/-- The boot menu as a component. -/
def bootMenu (H : OrderedListFlags) (defaults : Option (List EfiLoadOption)) :
    Machine MenuState MenuCall MenuAnswer where
  step st
    | .extract call =>
        let r := extractConfig call st
        (r.2, .extracted r.1.1 r.1.2)
    | .route call =>
        let r := routeConfiguration H defaults call st
        (r.2, .routed r.1.1 r.1.2)

/-- Read without error, and may be written. -/
def Got.writable (got : Got) : Bool := !efiError got.status && got.flags.writeAccess

/-- Read without error, and may not be written. -/
def Got.restricted (got : Got) : Bool := !efiError got.status && !got.flags.writeAccess

/-- What Get answers during the call, if the call extracts BootGrayoutConfig. -/
def MenuCall.grayoutReads : MenuCall → Option (DfciSettingId → Got)
  | .extract call =>
      match call.request with
      | some request =>
          if call.progress && call.results && request.hasOffset &&
              request.header == .bootGrayoutConfig then some call.get
          else none
      | none => none
  | .route _ => none

/-- What Get answered during the most recent extraction of BootGrayoutConfig. -/
def lastGrayout (calls : List MenuCall) : Option (DfciSettingId → Got) :=
  calls.foldl (fun last call => call.grayoutReads.or last) none

/-! ## The guard is the memory of the last extraction -/

/-- The guard agrees with the answers `last`: without any, nothing may be written. -/
structure Guards (st : MenuState) (last : Option (DfciSettingId → Got)) : Prop where
  grayout : ∀ id : MenuSetting,
    st.grayout id = if (last.any fun get => (get id.id).writable) = true then 1 else 0
  restricted : st.restrictedAccessString =
    if (last.any fun get => menuSettings.any fun id => (get id.id).restricted) = true then 1 else 0

theorem guards_atLoad (vars : BootVariables) : Guards (.atLoad vars) none where
  grayout _ := rfl
  restricted := rfl

/-- The guard is nothing but these two fields. -/
theorem Guards.congr {st st' : MenuState} {last : Option (DfciSettingId → Got)}
    (h : Guards st last) (hgray : st'.grayout = st.grayout)
    (hrestricted : st'.restrictedAccessString = st.restrictedAccessString) : Guards st' last where
  grayout id := by rw [hgray, h.grayout]
  restricted := by rw [hrestricted, h.restricted]

theorem grayout_getSettingGrayoutFlag (got : Got) (id : MenuSetting) (st : MenuState) :
    (getSettingGrayoutFlag got id st).grayout =
      Function.update st.grayout id (if got.writable then 1 else 0) := by
  unfold getSettingGrayoutFlag Got.writable
  cases efiError got.status <;> cases got.flags.writeAccess <;> simp

theorem restricted_getSettingGrayoutFlag (got : Got) (id : MenuSetting) (st : MenuState) :
    (getSettingGrayoutFlag got id st).restrictedAccessString =
      if got.restricted then st.restrictedAccessString ||| 1 else st.restrictedAccessString := by
  unfold getSettingGrayoutFlag Got.restricted
  cases efiError got.status <;> cases got.flags.writeAccess <;> simp

/-- **The extraction of some ids**, by induction on those still to come. -/
theorem extractGrayout_spec (get : DfciSettingId → Got) (ids : List MenuSetting) :
    ∀ st : MenuState,
      let st' := ids.foldl (fun st id => getSettingGrayoutFlag (get id.id) id st) st
      (∀ id, st'.grayout id =
        if id ∈ ids then (if (get id.id).writable then 1 else 0) else st.grayout id) ∧
      st'.restrictedAccessString =
        if (ids.any fun id => (get id.id).restricted) = true then st.restrictedAccessString ||| 1
        else st.restrictedAccessString := by
  induction ids with
  | nil => exact fun st => ⟨fun id => rfl, rfl⟩
  | cons i ids ih =>
      intro st
      obtain ⟨hgray, hrestricted⟩ := ih (getSettingGrayoutFlag (get i.id) i st)
      constructor
      · intro id
        show (List.foldl _ (getSettingGrayoutFlag (get i.id) i st) ids).grayout id = _
        rw [hgray, grayout_getSettingGrayoutFlag]
        by_cases hi : id = i
        · subst hi
          simp
        · simp [hi]
      · show (List.foldl _ (getSettingGrayoutFlag (get i.id) i st) ids).restrictedAccessString = _
        rw [hrestricted, restricted_getSettingGrayoutFlag, List.any_cons]
        cases (get i.id).restricted <;> cases ids.any fun id => (get id.id).restricted <;>
          simp [UInt8.or_assoc]

/-- An extraction of BootGrayoutConfig sets the guard to what Get answered. -/
theorem guards_of_extraction (get : DfciSettingId → Got) (st : MenuState) :
    Guards (menuSettings.foldl (fun st id => getSettingGrayoutFlag (get id.id) id st)
      { st with restrictedAccessString := 0 }) (some get) := by
  obtain ⟨hgray, hrestricted⟩ :=
    extractGrayout_spec get menuSettings { st with restrictedAccessString := 0 }
  constructor
  · intro id
    rw [hgray, if_pos (mem_menuSettings id)]
    rfl
  · simp only [hrestricted, Option.any_some, UInt8.zero_or]

/-- One extraction. -/
theorem guards_extract {st : MenuState} {last : Option (DfciSettingId → Got)} (h : Guards st last)
    (call : ExtractCall) :
    Guards (extractConfig call st).2 ((MenuCall.extract call).grayoutReads.or last) := by
  obtain ⟨progress, results, request, get, blockToConfig⟩ := call
  -- the calls that return before they read the header
  cases progress with
  | false => cases request <;> exact h
  | true =>
      cases results with
      | false => cases request <;> exact h
      | true =>
          cases request with
          | none => exact h
          | some request =>
              obtain ⟨hasOffset, header⟩ := request
              cases hasOffset with
              | false => exact h
              | true =>
                  cases header with
                  | bootGrayoutConfig => exact guards_of_extraction get st
                  | bootOrderConfig => exact h
                  | bootSettingsConfig => exact h.congr rfl rfl
                  | bootSuppressConfig => exact h.congr rfl rfl
                  | unsupported => exact h

variable (H : OrderedListFlags) (defaults : Option (List EfiLoadOption))

/-- One RouteConfig leaves the guard alone, whatever its blocks contain. -/
theorem guards_route {st : MenuState} {last : Option (DfciSettingId → Got)} (h : Guards st last)
    (call : RouteCall) : Guards (routeConfiguration H defaults call st).2 last := by
  obtain ⟨progress, configuration, submission, dialogs, configToBlock, set⟩ := call
  cases configuration with
  | none => exact h
  | some configuration =>
      obtain ⟨hasOffset, header⟩ := configuration
      cases progress with
      | false => exact h
      | true =>
          cases hasOffset with
          | false => exact h
          | true =>
              cases header with
              | bootOrderConfig => exact h.congr rfl rfl
              | bootGrayoutConfig => exact h
              | bootSuppressConfig => exact h
              | bootSettingsConfig =>
                  unfold routeConfiguration
                  dsimp only
                  split_ifs <;> exact h.congr rfl rfl
              | unsupported => exact h

/-- **Along every run the guard is the memory of the last extraction.** -/
theorem run_guards (calls : List MenuCall) :
    ∀ {st : MenuState} {last : Option (DfciSettingId → Got)}, Guards st last →
      Guards ((bootMenu H defaults).run st calls)
        (calls.foldl (fun last call => call.grayoutReads.or last) last) := by
  induction calls with
  | nil => intro st last h; exact h
  | cons call calls ih =>
      intro st last h
      rw [Machine.run_cons, List.foldl_cons]
      apply ih
      cases call with
      | extract call => exact guards_extract h call
      | route call => exact guards_route H defaults h call

/-- RouteConfig sets only what the guard lets through. -/
theorem grayout_of_mem_sets {call : RouteCall} {st : MenuState} {id : MenuSetting} {value : UInt8}
    (h : (id, value) ∈ (routeConfiguration H defaults call st).1.2) : st.grayout id ≠ 0 := by
  obtain ⟨progress, configuration, submission, dialogs, configToBlock, set⟩ := call
  unfold routeConfiguration at h
  cases configuration with
  | none => cases h
  | some configuration =>
      obtain ⟨hasOffset, header⟩ := configuration
      cases progress with
      | false => cases h
      | true =>
          cases hasOffset with
          | false => cases h
          | true =>
              cases header with
              | bootSettingsConfig =>
                  simp only [Bool.not_true, Bool.false_eq_true, if_false] at h
                  split_ifs at h
                  · cases h
                  · obtain ⟨id', hid', heq⟩ := List.mem_map.mp h
                    obtain rfl : id' = id := congrArg Prod.fst heq
                    simpa using (List.mem_filter.mp hid').2
              | bootOrderConfig => cases h
              | bootGrayoutConfig => cases h
              | bootSuppressConfig => cases h
              | unsupported => cases h

/-- **Only settings the user may write are written.** Let any calls of the two entry points follow
the load of the driver. A call after them sets only ids that the most recent extraction of
BootGrayoutConfig among them read without error and with write access. And when there is such an
extraction, RestrictedAccessString is TRUE iff it read some id without error and without write
access. -/
theorem only_writable_settings_are_set (vars : BootVariables) (calls : List MenuCall)
    (call : MenuCall) :
    let st := (bootMenu H defaults).run (.atLoad vars) calls
    (∀ id value, (id, value) ∈ ((bootMenu H defaults).step st call).2.sets →
      ∃ get, lastGrayout calls = some get ∧ efiError (get id.id).status = false ∧
        (get id.id).flags.writeAccess = true) ∧
    ∀ get, lastGrayout calls = some get →
      (st.restrictedAccessString = 1 ↔ ∃ id : MenuSetting,
        efiError (get id.id).status = false ∧ (get id.id).flags.writeAccess = false) := by
  intro st
  have hguards : Guards st (lastGrayout calls) :=
    run_guards H defaults calls (guards_atLoad vars)
  constructor
  · intro id value hmem
    cases call with
    | extract call => cases hmem
    | route call =>
        have hset : st.grayout id ≠ 0 := grayout_of_mem_sets H defaults hmem
        rw [hguards.grayout] at hset
        cases hlast : lastGrayout calls with
        | none =>
            rw [hlast] at hset
            exact absurd rfl hset
        | some get =>
            rw [hlast, Option.any_some] at hset
            refine ⟨get, rfl, ?_⟩
            unfold Got.writable at hset
            cases herr : efiError (get id.id).status <;>
              cases hw : (get id.id).flags.writeAccess <;> simp [herr, hw] at hset ⊢
  · intro get hlast
    rw [hguards.restricted, hlast, Option.any_some]
    have hany : (menuSettings.any fun id => (get id.id).restricted) = true ↔ ∃ id : MenuSetting,
        efiError (get id.id).status = false ∧ (get id.id).flags.writeAccess = false := by
      rw [List.any_eq_true]
      simp only [mem_menuSettings, true_and, Got.restricted, Bool.and_eq_true,
        Bool.not_eq_eq_eq_not, Bool.not_true]
    rw [← hany]
    split_ifs with h
    · exact iff_of_true rfl h
    · exact iff_of_false (by decide) h

end OemPkg.BootMenu
