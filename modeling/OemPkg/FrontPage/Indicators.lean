/-
# OemPkg.FrontPage.Indicators — how the front page says why it was entered

The last leg of the way from a failed boot to the user. `Boot.RebootReason` models what the boot
manager writes: the slot RebootReason and the volatile SecureBootAlert. Here are their readers in
the front page, NotifyUserOfAlerts with its dialog and RenderTitlebar with its icon
(`FrontPage/FrontPage.c`), the rest of `MsNVBootReasonLib.c`, and DeviceBootManagerPriorityBoot
(`DeviceBootManagerLib.c`) with the buttons it asks (`MsBootPolicyLib.c`).

Everything that touches the four variables is an event of one machine, `bootIndicators`. `Board` is
what the variables are for: a notice board with four notices on it. `indicators_refine` says that
the firmware keeps such a board, over every order of events, and two results follow on the board:
every failed boot is reported by its own reason and no other (`failures_shown`), and no violation is
reported twice (`alerts_le_violations`).
-/
import OemPkg.Boot.OsIndications
import OemPkg.Lib.Machine

namespace OemPkg.FrontPage

open OemPkg.Lib OemPkg.Uefi OemPkg.Boot

/-! ## Reading and clearing the reason -/

/-- What GetRebootReason hands back: its status, `*BufferSize`, and what it has read. -/
structure ReasonRead where
  status : EfiStatus
  bufferSize : Option Nat
  data : Bytes

/-- GetRebootReason. A NULL BufferSize is `none`. -/
def getRebootReason (bufferNull : Bool) (bufferSize : Option Nat) (st : BootVars) : ReasonRead :=
  match bufferSize with
  | none => ⟨efiInvalidParameter, none, []⟩
  | some size =>
      if size ≠ 0 ∧ bufferNull = true then ⟨efiInvalidParameter, some size, []⟩
      else if size < mspRebootReasonLength then
        ⟨efiBufferTooSmall, some mspRebootReasonLength, []⟩
      else
        let read := st.getVariable .rebootReason mspRebootReasonLength
        ⟨read.status, some read.dataSize, read.data⟩

/-- ClearRebootReason -/
def clearRebootReason (st : BootVars) : EfiStatus × BootVars :=
  st.setVariable .rebootReason rebootReasonAttrs []

/-! ## The front page -/

/-- The icons of the title bar, by the PCD each comes from. -/
inductive IndicatorFile where
  /-- PcdVolumeUpIndicatorFile -/
  | volumeUp
  /-- PcdBootFailIndicatorFile -/
  | bootFail
  /-- PcdFirmwareSettingsIndicatorFile -/
  | firmwareSettings
  deriving DecidableEq

/-- A character of a CHAR8 string. -/
def char8 (c : Char) : UInt8 := UInt8.ofNat c.toNat

/-- The switch of RenderTitlebar. -/
def indicatorFile (parameter : UInt8) : Option IndicatorFile :=
  if parameter = char8 'V' then some .volumeUp
  else if parameter = char8 'B' then some .bootFail
  else if parameter = char8 'O' then some .firmwareSettings
  else none

/-- The Parameter of RenderTitlebar, and the variables afterwards. -/
def titlebarParameter (loadOptions : Bytes) (allocated : Bool) (st : BootVars) :
    UInt8 × BootVars :=
  match loadOptions with
  | parameter :: _ => (parameter, st)
  | [] =>
      let size := getRebootReason true (some 0) st
      if size.status ≠ efiBufferTooSmall then (0, st)
      else
        let read := getRebootReason (!allocated) size.bufferSize st
        if efiError read.status then (char8 'B', st)
        else (read.data.headD 0, (clearRebootReason st).2)

/-- NotifyUserOfAlerts: whether the dialog is shown, and the variables afterwards. `dialog` is the
status of the dialog. -/
def notifyUserOfAlerts (dialog : EfiStatus) (st : BootVars) : Bool × BootVars :=
  let read := st.getVariable .secureBootAlert 1
  let secViolation := read.data.headD 0 != 0
  let status := if secViolation then dialog else efiSuccess
  if !efiError status && !efiError read.status then
    (secViolation, (st.setVariable .secureBootAlert 0#32 []).2)
  else (secViolation, st)

/-- What a start of the front page meets. -/
structure FrontPageStart where
  /-- the LoadOptions of the image, empty for none -/
  loadOptions : Bytes
  /-- the status of the alert's dialog -/
  dialog : EfiStatus
  /-- CreateTopMenu returns a menu -/
  menuCreated : Bool
  /-- AllocatePool returns a buffer for the reason -/
  allocated : Bool

/-- What the user sees of a start: the alert, and the icon. -/
structure Indicators where
  alertShown : Bool
  icon : Option IndicatorFile
  deriving DecidableEq

/-- InitializeFrontPageUI, as far as it touches the variables. -/
def initializeFrontPageUI (p : FrontPageStart) (st : BootVars) : Indicators × BootVars :=
  let (alertShown, st) := notifyUserOfAlerts p.dialog st
  if !p.menuCreated then (⟨alertShown, none⟩, st)
  else
    let (parameter, st) := titlebarParameter p.loadOptions p.allocated st
    (⟨alertShown, indicatorFile parameter⟩, st)

/-! ## The buttons -/

/-- MS_BUTTON_SERVICES_PROTOCOL: the status of each check, and what it leaves in the BOOLEAN. -/
structure ButtonServices where
  volumeUp : EfiStatus × Option Bool
  volumeDown : EfiStatus × Option Bool

/-- What DeviceBootManagerPriorityBoot asks. A protocol that is not there is `none`. -/
structure BootRequests where
  gButtonService : Option ButtonServices
  /-- LocateProtocol for the setting access protocol -/
  locateSettingAccess : EfiStatus
  /-- Get for ALT_BOOT -/
  getAltBoot : EfiStatus × Option Bool

/-- MsBootPolicyLibIsSettingsBoot -/
def msBootPolicyLibIsSettingsBoot (r : BootRequests) : Bool :=
  match r.gButtonService with
  | none => false
  | some services =>
      if efiError services.volumeUp.1 then false else services.volumeUp.2.getD false

/-- MsBootPolicyLibIsAltBoot -/
def msBootPolicyLibIsAltBoot (r : BootRequests) : Bool :=
  let (status, enableAltBoot) :=
    if efiError r.locateSettingAccess then (r.locateSettingAccess, true)
    else (r.getAltBoot.1, r.getAltBoot.2.getD true)
  if !efiError status && !enableAltBoot then false
  else
    match r.gButtonService with
    | none => false
    -- a check that fails is only logged
    | some services => services.volumeDown.2.getD false

/-- The application DeviceBootManagerPriorityBoot asks MsBootOptionsLib for. -/
inductive PriorityBoot where
  /-- the default boot application with parameter "NS" -/
  | networkUnlock
  /-- the default boot application with parameter "MA" -/
  | alternateBoot
  /-- the boot manager menu with parameter "VOL+" -/
  | frontPage
  /-- none: EFI_NOT_FOUND -/
  | notFound
  deriving DecidableEq

/-- DeviceBootManagerPriorityBoot: what is to be booted, and the variables. -/
def deviceBootManagerPriorityBoot (oem : OemStatuses) (r : BootRequests) (st : BootVars) :
    PriorityBoot × BootVars :=
  if msBootPolicyLibIsAltBoot r then
    (if msBootPolicyLibIsSettingsBoot r then .networkUnlock else .alternateBoot, st)
  else if msBootPolicyLibIsSettingsBoot r then
    (.frontPage, (setRebootReason oem oem.rebootToSetupKey st).2)
  else (.notFound, st)

/-! ## The machine -/

/-- What happens to the four variables. -/
inductive IndicatorEvent where
  /-- any reset of the system -/
  | reset
  /-- DeviceBootManagerBdsEntry -/
  | bdsEntry
  /-- the operating system or BdsDxe writes OsIndications, or deletes it -/
  | writeOsIndications (v : Option (BitVec 64))
  /-- the front page's reboot action -/
  | handleRebootToFrontPage (uninitialized : BitVec 64)
  /-- the boot menu boots an option -/
  | setMsBootNext
  | priorityBoot (r : BootRequests)
  /-- DeviceBootManagerProcessBootCompletion -/
  | processBootCompletion (optionStatus : EfiStatus)
  /-- DeviceBootManagerUnableToBoot -/
  | unableToBoot
  | frontPage (p : FrontPageStart)

/-- The variables after a call that may end in a reset. -/
def varsAfter : Flow → BootVars
  | .returns st => st
  | .resets st => st.reset

/-- The firmware around the four variables. A start of the front page answers with what it shows. -/
def bootIndicators (oem : OemStatuses) :
    Machine BootVars IndicatorEvent (Option Indicators) where
  step st
    | .reset => (st.reset, none)
    | .bdsEntry => (Boot.bdsEntry oem st, none)
    | .writeOsIndications none => ((st.setVariable .osIndications 0#32 []).2, none)
    | .writeOsIndications (some v) =>
        ((st.setVariable .osIndications osIndicationsAttrs (leBytes 8 v.toNat)).2, none)
    | .handleRebootToFrontPage uninitialized =>
        ((Boot.handleRebootToFrontPage uninitialized st).vars, none)
    | .setMsBootNext =>
        ((st.setVariable .msBootNext efiVariableBootserviceAccess [1]).2, none)
    | .priorityBoot r => ((deviceBootManagerPriorityBoot oem r st).2, none)
    | .processBootCompletion optionStatus =>
        (varsAfter (Boot.processBootCompletion oem optionStatus st), none)
    | .unableToBoot => (varsAfter (Boot.unableToBoot st), none)
    | .frontPage p =>
        let (indicators, st) := initializeFrontPageUI p st
        (st, some indicators)

/-! ## The notice board -/

/-- The four notices. -/
structure Board where
  /-- why the front page will have been entered -/
  reason : Option MspRebootReason
  /-- a security violation the user is to be told of -/
  alert : Bool
  /-- the requests to the next boot -/
  requests : Option (BitVec 64)
  /-- one boot option is being tried -/
  bootNext : Bool

namespace Board

variable (oem : OemStatuses)

/-- Nothing is on the board. -/
def blank : Board := ⟨none, false, none, false⟩

/-- A status is noted. -/
def note (status : EfiStatus) (b : Board) : Board :=
  { b with
    reason := some (rebootReasonOf oem status)
    alert := b.alert || status == efiSecurityViolation }

/-- A reset takes down what does not outlive the boot. -/
def reset (b : Board) : Board := { b with alert := false, bootNext := false }

/-- The firmware UI is requested. -/
def wantsFirmwareUi (b : Board) : Bool :=
  match b.requests with
  | none => false
  | some v => v.toNat &&& efiOsIndicationsBootToFwUi != 0

/-- A reason of a failed boot stays what it is. -/
def isFailure : MspRebootReason → Bool
  | .setupBootfail | .setupSecFail => true
  | .setupKey | .setupOs | .setupNone => false

/-- A new boot: a noted violation raises the alert again, and without a failed boot the request for
the firmware UI is the reason. -/
def startBoot (b : Board) : Board :=
  let b := { b with alert := b.alert || b.reason == some .setupSecFail }
  if !b.reason.any isFailure && b.wantsFirmwareUi then b.note oem oem.rebootToSetupOs else b

/-- The status of a boot attempt: while one option is tried, a violation seen before counts. -/
def attemptStatus (bootNext : Bool) (optionStatus : EfiStatus) : EfiStatus :=
  if bootNext && optionStatus == oem.previousSecurityViolation then efiSecurityViolation
  else optionStatus

/-- The system resets to the firmware UI. -/
def toFrontPage (b : Board) : Board := reset { b with requests := some 1#64 }

/-- A boot attempt ends. -/
def attempt (optionStatus : EfiStatus) (b : Board) : Board :=
  let noted := note oem (attemptStatus oem b.bootNext optionStatus) { b with bootNext := false }
  if b.bootNext then noted.toFrontPage else noted

/-- The letter of the icon. -/
def letter (allocated : Bool) (b : Board) : UInt8 :=
  if allocated then
    match b.reason with
    | none => char8 'B'
    | some reason => (ascii reason.text).headD 0
  else char8 'B'

/-- The user reads the board. Who sees the icon takes the reason down. -/
def present (p : FrontPageStart) (b : Board) : Indicators × Board :=
  let read := { b with alert := b.alert && efiError p.dialog }
  if !p.menuCreated then (⟨b.alert, none⟩, read)
  else
    match p.loadOptions with
    | parameter :: _ => (⟨b.alert, indicatorFile parameter⟩, read)
    | [] =>
        (⟨b.alert, indicatorFile (b.letter p.allocated)⟩,
          { read with reason := if p.allocated then none else b.reason })

end Board

/-- **The notice board as a machine**, with the events of the firmware. -/
def board (oem : OemStatuses) : Machine Board IndicatorEvent (Option Indicators) where
  step b
    | .reset => (b.reset, none)
    | .bdsEntry => (b.startBoot oem, none)
    | .writeOsIndications v => ({ b with requests := v }, none)
    | .handleRebootToFrontPage _ =>
        ({ b with requests := some (b.requests.getD 0#64 ||| 1#64) }, none)
    | .setMsBootNext => ({ b with bootNext := true }, none)
    | .priorityBoot r =>
        (if msBootPolicyLibIsSettingsBoot r && !msBootPolicyLibIsAltBoot r then
          b.note oem oem.rebootToSetupKey else b, none)
    | .processBootCompletion optionStatus => (b.attempt oem optionStatus, none)
    | .unableToBoot => (b.toFrontPage, none)
    | .frontPage p =>
        let (indicators, b) := b.present p
        (b, some indicators)

/-! ## How the board is kept -/

/-- The variable that holds a reason. -/
def reasonVariable (reason : MspRebootReason) : Variable := ⟨rebootReasonAttrs, ascii reason.text⟩

/-- A BOOLEAN in a volatile variable: it is there when it is TRUE. -/
def flagVariable (flag : Bool) : Option Variable :=
  if flag then some ⟨efiVariableBootserviceAccess, [1]⟩ else none

/-- **The variables that hold a board.** -/
def Board.vars (b : Board) : BootVars
  | .rebootReason => b.reason.map reasonVariable
  | .secureBootAlert => flagVariable b.alert
  | .osIndications => b.requests.map osIndicationsHolding
  | .msBootNext => flagVariable b.bootNext

/-- A write, where what it does to the one variable is known. -/
theorem setVariable_of_write {st : BootVars} {name : BootVar} {a : Attributes} {data : Bytes}
    {status : EfiStatus} {v : Option Variable}
    (h : writeVariable (st name) a data = (status, v)) :
    st.setVariable name a data = (status, Function.update st name v) := by
  unfold VarStore.setVariable
  rw [h]

/-! A notice is changed by changing its variable. -/

section Update

variable (b : Board)

theorem update_reason (reason : Option MspRebootReason) :
    Function.update b.vars .rebootReason (reason.map reasonVariable) =
      ({ b with reason } : Board).vars := by
  funext name
  cases name <;> rfl

theorem update_alert (alert : Bool) :
    Function.update b.vars .secureBootAlert (flagVariable alert) =
      ({ b with alert } : Board).vars := by
  funext name
  cases name <;> rfl

theorem update_requests (requests : Option (BitVec 64)) :
    Function.update b.vars .osIndications (requests.map osIndicationsHolding) =
      ({ b with requests } : Board).vars := by
  funext name
  cases name <;> rfl

theorem update_bootNext (bootNext : Bool) :
    Function.update b.vars .msBootNext (flagVariable bootNext) =
      ({ b with bootNext } : Board).vars := by
  funext name
  cases name <;> rfl

end Update

/-! ### The writes -/

/-- A write over a variable with the same attributes, or none. -/
theorem writeVariable_same {old : Option Variable} {a : Attributes} {data : Bytes}
    (hold : ∀ v, old = some v → v.attributes = a) (hvalid : validAttributes a = true)
    (haccess : hasAccess a = true) (hdata : data ≠ []) :
    writeVariable old a data = (efiSuccess, some ⟨a, data⟩) := by
  cases old with
  | none => exact writeVariable_create hvalid haccess hdata
  | some v => exact writeVariable_rewrite hvalid haccess hdata (hold v rfl)

theorem text_ne_nil (reason : MspRebootReason) : ascii reason.text ≠ [] := by
  cases reason <;> decide

theorem flagVariable_attributes {flag : Bool} {v : Variable} (h : flagVariable flag = some v) :
    v.attributes = efiVariableBootserviceAccess := by
  cases flag with
  | false => cases h
  | true => cases h; rfl

theorem setReason_vars (b : Board) (reason : MspRebootReason) :
    b.vars.setVariable .rebootReason rebootReasonAttrs (ascii reason.text) =
      (efiSuccess, ({ b with reason := some reason } : Board).vars) := by
  have hwrite : writeVariable (b.vars .rebootReason) rebootReasonAttrs (ascii reason.text) =
      (efiSuccess, (some reason).map reasonVariable) := by
    apply writeVariable_same
    · intro v hv
      obtain ⟨old, -, rfl⟩ := Option.map_eq_some_iff.mp hv
      rfl
    · decide
    · decide
    · exact text_ne_nil reason
  rw [setVariable_of_write hwrite, update_reason]

theorem clearReason_vars (b : Board) :
    (clearRebootReason b.vars).2 = ({ b with reason := none } : Board).vars := by
  have hwrite : (writeVariable (b.vars .rebootReason) rebootReasonAttrs []).2 =
      (none : Option MspRebootReason).map reasonVariable := by
    cases hreason : b.vars .rebootReason <;> rfl
  unfold clearRebootReason VarStore.setVariable
  rw [hwrite, update_reason]

theorem raiseAlert_vars (b : Board) :
    b.vars.setVariable .secureBootAlert efiVariableBootserviceAccess [1] =
      (efiSuccess, ({ b with alert := true } : Board).vars) := by
  have hwrite : writeVariable (b.vars .secureBootAlert) efiVariableBootserviceAccess [1] =
      (efiSuccess, flagVariable true) :=
    writeVariable_same (fun _ => flagVariable_attributes) rfl rfl (List.cons_ne_nil _ _)
  rw [setVariable_of_write hwrite, update_alert]

theorem setMsBootNext_vars (b : Board) :
    b.vars.setVariable .msBootNext efiVariableBootserviceAccess [1] =
      (efiSuccess, ({ b with bootNext := true } : Board).vars) := by
  have hwrite : writeVariable (b.vars .msBootNext) efiVariableBootserviceAccess [1] =
      (efiSuccess, flagVariable true) :=
    writeVariable_same (fun _ => flagVariable_attributes) rfl rfl (List.cons_ne_nil _ _)
  rw [setVariable_of_write hwrite, update_bootNext]

theorem request_vars (b : Board) (v : BitVec 64) :
    b.vars.setVariable .osIndications osIndicationsAttrs (leBytes 8 v.toNat) =
      (efiSuccess, ({ b with requests := some v } : Board).vars) := by
  have hwrite : writeVariable (b.vars .osIndications) osIndicationsAttrs (leBytes 8 v.toNat) =
      (efiSuccess, (some v).map osIndicationsHolding) := by
    apply writeVariable_same
    · intro w hw
      obtain ⟨old, -, rfl⟩ := Option.map_eq_some_iff.mp hw
      rfl
    · decide
    · decide
    · exact leBytes_ne_nil 7 _
  rw [setVariable_of_write hwrite, update_requests]

/-- SetRebootReason notes the status. -/
theorem setRebootReason_vars (oem : OemStatuses) (status : EfiStatus) (b : Board) :
    (setRebootReason oem status b.vars).2 = (b.note oem status).vars := by
  unfold setRebootReason updateSecureBootViolation Board.note
  by_cases h : status = efiSecurityViolation
  · rw [if_pos h, if_pos h, raiseAlert_vars, setReason_vars, h, beq_self_eq_true, Bool.or_true]
  · rw [if_neg h, setReason_vars, beq_false_of_ne h, Bool.or_false]

/-! ### The events -/

theorem reset_vars (b : Board) : b.vars.reset = b.reset.vars := by
  have hvolatile : ∀ flag, (flagVariable flag).filter
      (fun v => v.attributes &&& efiVariableNonVolatile != 0#32) = none := by decide
  funext name
  cases name with
  | rebootReason =>
      apply VarStore.reset_nonVolatile
      intro v hv
      obtain ⟨reason, -, rfl⟩ := Option.map_eq_some_iff.mp hv
      show (rebootReasonAttrs &&& efiVariableNonVolatile != 0#32) = true
      decide
  | secureBootAlert => exact hvolatile b.alert
  | osIndications =>
      apply VarStore.reset_nonVolatile
      intro v hv
      obtain ⟨old, -, rfl⟩ := Option.map_eq_some_iff.mp hv
      show (osIndicationsAttrs &&& efiVariableNonVolatile != 0#32) = true
      decide
  | msBootNext => exact hvolatile b.bootNext

theorem rebootToFrontPage_vars (b : Board) :
    varsAfter (rebootToFrontPage b.vars) = b.toFrontPage.vars := by
  have hwrite := request_vars b 1#64
  have hvalue : leBytes 8 efiOsIndicationsBootToFwUi = leBytes 8 (1#64).toNat := rfl
  unfold rebootToFrontPage Board.toFrontPage
  rw [hvalue, hwrite]
  exact reset_vars _

/-- The read of a reason into a buffer of its size. -/
theorem getReason_vars (b : Board) : b.vars.getVariable .rebootReason mspRebootReasonLength =
    match b.reason with
    | none => ⟨efiNotFound, mspRebootReasonLength, none, []⟩
    | some reason =>
        ⟨efiSuccess, mspRebootReasonLength, some rebootReasonAttrs, ascii reason.text⟩ := by
  unfold VarStore.getVariable Board.vars
  cases b.reason with
  | none => rfl
  | some reason =>
      have hlength : (reasonVariable reason).data.length = mspRebootReasonLength :=
        length_reason reason
      have hread := readVariable_fits hlength.le
      rw [hlength] at hread
      exact hread

/-- The OS indications, when nothing else is the reason. -/
theorem checkOsIndications_vars (oem : OemStatuses) (b : Board) :
    (checkOsIndications oem b.vars).2 =
      (if b.wantsFirmwareUi then b.note oem oem.rebootToSetupOs else b).vars := by
  unfold checkOsIndications Board.wantsFirmwareUi VarStore.getVariable
  have hvar : b.vars .osIndications = b.requests.map osIndicationsHolding := rfl
  rw [hvar]
  cases b.requests with
  | none => rfl
  | some v =>
      have hlength : (osIndicationsHolding v).data.length = 8 := length_leBytes 8 v.toNat
      have hvalue : leNat ((osIndicationsHolding v).data ++ (List.replicate 8 0).drop 8) =
          v.toNat := by
        rw [List.drop_of_length_le (by decide), List.append_nil]
        exact leNat_leBytes 8 v.isLt
      have hread := readVariable_fits (n := 8) hlength.le
      simp only [Option.map_some, hread, hlength, hvalue, true_and]
      by_cases hbit : v.toNat &&& efiOsIndicationsBootToFwUi ≠ 0
      · rw [if_pos hbit, setRebootReason_vars, if_pos (bne_iff_ne.mpr hbit)]
      · rw [if_neg hbit, if_neg (fun h => hbit (bne_iff_ne.mp h))]

/-- What UpdateRebootReason sees of a reason. -/
theorem beginsWith_reason (reason : MspRebootReason) :
    beginsWith (rebootReasonBuffer (ascii reason.text)) "BS" = (reason == .setupSecFail) ∧
      beginsWith (rebootReasonBuffer (ascii reason.text)) "B" = Board.isFailure reason := by
  cases reason <;> decide

theorem bdsEntry_vars (oem : OemStatuses) (b : Board) :
    Boot.bdsEntry oem b.vars = (b.startBoot oem).vars := by
  obtain ⟨reason, alert, requests, bootNext⟩ := b
  -- a reason that is no failure, or none
  have hcheck : (checkOsIndications oem (Board.vars ⟨reason, alert, requests, bootNext⟩)).2 =
      (if Board.wantsFirmwareUi ⟨reason, alert || false, requests, bootNext⟩ then
        Board.note oem oem.rebootToSetupOs ⟨reason, alert || false, requests, bootNext⟩
      else ⟨reason, alert || false, requests, bootNext⟩).vars := by
    rw [Bool.or_false]
    exact checkOsIndications_vars oem _
  unfold Boot.bdsEntry updateRebootReason
  rw [getReason_vars]
  cases reason with
  | none =>
      have hblank : beginsWith (rebootReasonBuffer []) "BS" = false ∧
          beginsWith (rebootReasonBuffer []) "B" = false := by decide
      simp only [hblank]
      exact hcheck
  | some reason =>
      obtain ⟨hviolation, hfailure⟩ := beginsWith_reason reason
      simp only [hviolation, hfailure, efiError_success, Bool.false_eq_true, false_and, if_false]
      cases reason with
      | setupKey => exact hcheck
      | setupOs => exact hcheck
      | setupNone => exact hcheck
      | setupBootfail =>
          show Board.vars ⟨some .setupBootfail, alert, requests, bootNext⟩ =
            Board.vars ⟨some .setupBootfail, alert || false, requests, bootNext⟩
          rw [Bool.or_false]
      | setupSecFail =>
          show (VarStore.setVariable _ BootVar.secureBootAlert _ [1]).2 =
            Board.vars ⟨some .setupSecFail, alert || true, requests, bootNext⟩
          rw [raiseAlert_vars, Bool.or_true]

/-- The read of a flag. -/
theorem readVariable_flag (flag : Bool) : readVariable (flagVariable flag) 1 =
    if flag then ⟨efiSuccess, 1, some efiVariableBootserviceAccess, [1]⟩
    else ⟨efiNotFound, 1, none, []⟩ := by
  cases flag <;> rfl

/-- MsBootNext is deleted if it is there. -/
theorem clearMsBootNext_vars (b : Board) :
    (if efiError (b.vars.getVariable .msBootNext 1).status then b.vars
      else (b.vars.setVariable .msBootNext efiVariableBootserviceAccess []).2) =
      ({ b with bootNext := false } : Board).vars := by
  obtain ⟨reason, alert, requests, bootNext⟩ := b
  have hvar : Board.vars ⟨reason, alert, requests, bootNext⟩ .msBootNext = flagVariable bootNext :=
    rfl
  unfold VarStore.getVariable
  rw [hvar, readVariable_flag]
  cases bootNext with
  | false => simp only [Bool.false_eq_true, if_false, efiError_notFound, if_true]
  | true =>
      simp only [if_true, efiError_success, Bool.false_eq_true, if_false]
      exact update_bootNext ⟨reason, alert, requests, true⟩ false

theorem processBootCompletion_vars (oem : OemStatuses) (optionStatus : EfiStatus) (b : Board) :
    varsAfter (Boot.processBootCompletion oem optionStatus b.vars) =
      (b.attempt oem optionStatus).vars := by
  have hnext : msBootNextRead b.vars = b.bootNext := by
    unfold msBootNextRead VarStore.getVariable
    have hread : readVariable (b.vars .msBootNext) 1 = _ := readVariable_flag b.bootNext
    rw [hread]
    cases b.bootNext <;> rfl
  unfold Boot.processBootCompletion Board.attempt Board.attemptStatus
  dsimp only
  rw [clearMsBootNext_vars, hnext]
  cases b.bootNext with
  | false =>
      show (setRebootReason oem optionStatus _).2 = _
      rw [setRebootReason_vars]
      rfl
  | true =>
      simp only [Bool.true_and, if_true, beq_iff_eq]
      rw [setRebootReason_vars, rebootToFrontPage_vars]

theorem handleRebootToFrontPage_vars (uninitialized : BitVec 64) (b : Board) :
    (Boot.handleRebootToFrontPage uninitialized b.vars).vars =
      ({ b with requests := some (b.requests.getD 0#64 ||| 1#64) } : Board).vars := by
  obtain ⟨reason, alert, requests, bootNext⟩ := b
  cases requests with
  | none =>
      have hread : (Board.vars ⟨reason, alert, none, bootNext⟩).getVariable .osIndications 8 =
          ⟨efiNotFound, 8, none, []⟩ := rfl
      have hwrite := request_vars ⟨reason, alert, none, bootNext⟩ 1#64
      have hwhole : (leBytes 8 (1#64).toNat).take 8 = leBytes 8 (1#64).toNat :=
        List.take_of_length_le (length_leBytes 8 _).le
      unfold Boot.handleRebootToFrontPage
      simp only [hread, decide_true, Bool.or_true, if_true]
      exact (congrArg (VarStore.setVariable _ _ _ · |>.2) hwhole).trans (congrArg Prod.snd hwrite)
  | some old =>
      have hold : Board.vars ⟨reason, alert, some old, bootNext⟩ .osIndications =
          some (osIndicationsHolding old) := rfl
      rw [handleRebootToFrontPage_existing uninitialized hold]
      exact update_requests ⟨reason, alert, some old, bootNext⟩ (some (old ||| 1#64))

theorem notifyUserOfAlerts_vars (dialog : EfiStatus) (b : Board) :
    notifyUserOfAlerts dialog b.vars =
      (b.alert, ({ b with alert := b.alert && efiError dialog } : Board).vars) := by
  obtain ⟨reason, alert, requests, bootNext⟩ := b
  have hvar : Board.vars ⟨reason, alert, requests, bootNext⟩ .secureBootAlert =
      flagVariable alert := rfl
  unfold notifyUserOfAlerts VarStore.getVariable VarStore.setVariable
  rw [hvar, readVariable_flag, writeVariable_delete]
  cases alert with
  | false =>
      simp only [Bool.false_eq_true, if_false, efiError_notFound, Bool.not_true, Bool.and_false,
        Bool.false_and]
      rfl
  | true =>
      -- the alert is deleted unless the dialog has failed
      have hdelete := update_alert ⟨reason, true, requests, bootNext⟩ false
      have hraised : ((1 : UInt8) != 0) = true := rfl
      simp only [if_true, List.headD_cons, hraised, efiError_success, Bool.not_false, Bool.and_true,
        Bool.true_and]
      cases efiError dialog with
      | false => exact congrArg (Prod.mk true) hdelete
      | true => rfl

/-- GetRebootReason asked for the size: it never looks at the variable. -/
theorem getRebootReason_size (st : BootVars) : getRebootReason true (some 0) st =
    ⟨efiBufferTooSmall, some mspRebootReasonLength, []⟩ := rfl

theorem titlebarParameter_vars (loadOptions : Bytes) (allocated : Bool) (b : Board) :
    titlebarParameter loadOptions allocated b.vars =
      match loadOptions with
      | parameter :: _ => (parameter, b.vars)
      | [] => (b.letter allocated,
          ({ b with reason := if allocated then none else b.reason } : Board).vars) := by
  cases loadOptions with
  | cons parameter rest => rfl
  | nil =>
      unfold titlebarParameter
      dsimp only
      rw [getRebootReason_size, if_neg (not_not.mpr rfl)]
      cases allocated with
      | false =>
          -- a NULL buffer: the call fails, and the icon is that of a failed boot
          have hread : getRebootReason true (some mspRebootReasonLength) b.vars =
              ⟨efiInvalidParameter, some mspRebootReasonLength, []⟩ := rfl
          rw [Bool.not_false, hread, if_pos efiError_invalidParameter]
          rfl
      | true =>
          have hread : getRebootReason false (some mspRebootReasonLength) b.vars =
              (let read := b.vars.getVariable .rebootReason mspRebootReasonLength
              ⟨read.status, some read.dataSize, read.data⟩) := rfl
          rw [Bool.not_true, hread, getReason_vars, clearReason_vars]
          unfold Board.letter
          cases hreason : b.reason with
          | none =>
              dsimp only
              -- no reason is there, which is an error too
              rw [if_pos efiError_notFound, ← hreason]
              rfl
          | some reason =>
              dsimp only
              rw [efiError_success, if_neg Bool.false_ne_true]
              rfl

theorem initializeFrontPageUI_vars (p : FrontPageStart) (b : Board) :
    initializeFrontPageUI p b.vars = ((b.present p).1, (b.present p).2.vars) := by
  unfold initializeFrontPageUI Board.present
  rw [notifyUserOfAlerts_vars]
  cases p.menuCreated with
  | false => rfl
  | true =>
      dsimp only [Bool.not_true, Bool.false_eq_true, if_false]
      rw [titlebarParameter_vars]
      cases p.loadOptions <;> rfl

theorem priorityBoot_vars (oem : OemStatuses) (r : BootRequests) (b : Board) :
    (deviceBootManagerPriorityBoot oem r b.vars).2 =
      (if msBootPolicyLibIsSettingsBoot r && !msBootPolicyLibIsAltBoot r then
        b.note oem oem.rebootToSetupKey else b).vars := by
  unfold deviceBootManagerPriorityBoot
  cases msBootPolicyLibIsAltBoot r <;> cases msBootPolicyLibIsSettingsBoot r
  · rfl
  · exact setRebootReason_vars oem oem.rebootToSetupKey b
  · rfl
  · rfl

/-! ### The refinement -/

/-- **The variables keep the board**, event by event. -/
theorem bootIndicators_simulates (oem : OemStatuses) :
    (bootIndicators oem).Simulates (board oem) id id fun st b => st = b.vars where
  step := by
    rintro _ b e rfl
    cases e with
    | reset => exact reset_vars b
    | bdsEntry => exact bdsEntry_vars oem b
    | writeOsIndications v =>
        cases v with
        | none =>
            have hdelete : (writeVariable (b.vars .osIndications) 0#32 []).2 = none :=
              writeVariable_delete _
            show Function.update b.vars .osIndications (writeVariable _ 0#32 []).2 = _
            rw [hdelete]
            exact update_requests b none
        | some v => exact congrArg Prod.snd (request_vars b v)
    | handleRebootToFrontPage uninitialized => exact handleRebootToFrontPage_vars uninitialized b
    | setMsBootNext => exact congrArg Prod.snd (setMsBootNext_vars b)
    | priorityBoot r => exact priorityBoot_vars oem r b
    | processBootCompletion optionStatus => exact processBootCompletion_vars oem optionStatus b
    | unableToBoot => exact rebootToFrontPage_vars b
    | frontPage p => exact congrArg Prod.snd (initializeFrontPageUI_vars p b)
  answer := by
    rintro _ b e rfl
    cases e with
    | frontPage p => exact congrArg (some ·.1) (initializeFrontPageUI_vars p b)
    | writeOsIndications v => cases v <;> rfl
    | _ => rfl

/-- No variable holds an empty board. -/
theorem blank_vars : noVariables = Board.blank.vars := by
  funext name
  cases name <;> rfl

/-- **The firmware keeps a notice board.** Whatever happens in whatever order, from the first boot
on: the front page shows what is on the board, and the variables hold the board afterwards. -/
theorem indicators_refine (oem : OemStatuses) (events : List IndicatorEvent) :
    (bootIndicators oem).answers noVariables events = (board oem).answers .blank events ∧
      (bootIndicators oem).run noVariables events = ((board oem).run .blank events).vars := by
  have hrun := (bootIndicators_simulates oem).run events blank_vars
  have hanswers := (bootIndicators_simulates oem).answers events blank_vars
  rw [List.map_id] at hrun
  rw [List.map_id, List.map_id] at hanswers
  exact ⟨hanswers, hrun⟩

/-! ## Failed boots, one after the other -/

/-- A failed boot and the start of the front page after it. -/
structure FailedBoot where
  /-- the boot menu has chosen one option to try -/
  bootNext : Bool
  /-- how the options end, of which there is at least one -/
  first : EfiStatus
  rest : List EfiStatus
  /-- what BdsDxe and others write to OsIndications before the front page starts -/
  requests : List (Option (BitVec 64))
  start : FrontPageStart

namespace FailedBoot

variable (oem : OemStatuses) (f : FailedBoot)

/-- Up to the reset. One option that is tried resets the system when it ends. -/
def failure : List IndicatorEvent :=
  if f.bootNext then [.setMsBootNext, .processBootCompletion f.first]
  else (f.first :: f.rest).map .processBootCompletion ++ [.unableToBoot]

/-- After the reset. -/
def entry : List IndicatorEvent := .bdsEntry :: f.requests.map .writeOsIndications

def events : List IndicatorEvent := f.failure ++ f.entry ++ [.frontPage f.start]

/-- The status that counts is the last one. -/
def status : EfiStatus :=
  if f.bootNext then Board.attemptStatus oem true f.first else (f.rest.getLast?).getD f.first

/-- The reason the front page finds. -/
def reason : MspRebootReason :=
  if Board.isFailure (rebootReasonOf oem (f.status oem)) then rebootReasonOf oem (f.status oem)
  else rebootReasonOf oem oem.rebootToSetupOs

/-- What the front page shows of it. -/
def shown : Indicators where
  alertShown := f.status oem == efiSecurityViolation
  icon :=
    if f.start.menuCreated then
      match f.start.loadOptions with
      | parameter :: _ => indicatorFile parameter
      | [] => indicatorFile
          (if f.start.allocated then (ascii (f.reason oem).text).headD 0 else char8 'B')
    else none

end FailedBoot

section FailedBoots

variable (oem : OemStatuses)

/-- The options of a boot, by induction on their list: the last status is noted. -/
theorem attempts_board (rest : List EfiStatus) : ∀ (first : EfiStatus) {b : Board},
    b.bootNext = false →
      ((board oem).run b ((first :: rest).map .processBootCompletion)).reason =
          some (rebootReasonOf oem (rest.getLast?.getD first)) ∧
        ((board oem).run b ((first :: rest).map .processBootCompletion)).bootNext = false := by
  have hattempt : ∀ (status : EfiStatus) {b : Board}, b.bootNext = false →
      b.attempt oem status = (({ b with bootNext := false } : Board)).note oem status := by
    intro status b hb
    unfold Board.attempt Board.attemptStatus
    simp only [hb, Bool.false_and, Bool.false_eq_true, if_false]
  induction rest with
  | nil =>
      intro first b hb
      have hrun : (board oem).run b ([first].map .processBootCompletion) =
          b.attempt oem first := rfl
      rw [hrun, hattempt first hb]
      exact ⟨rfl, rfl⟩
  | cons next rest ih =>
      intro first b hb
      have hb' : (b.attempt oem first).bootNext = false := by
        rw [hattempt first hb]
        rfl
      have hlast : (next :: rest).getLast?.getD first = rest.getLast?.getD next := by
        rw [List.getLast?_cons]
        rfl
      rw [hlast]
      exact ih next hb'

/-- **A failed boot leaves the status that counts**, and nothing of what was on the board. -/
theorem failure_board (f : FailedBoot) {b : Board} (hb : b.bootNext = false) :
    (board oem).run b f.failure =
      ⟨some (rebootReasonOf oem (f.status oem)), false, some 1#64, false⟩ := by
  unfold FailedBoot.failure FailedBoot.status
  cases f.bootNext with
  | true => rfl
  | false =>
      obtain ⟨hreason, -⟩ := attempts_board oem f.rest f.first hb
      rw [if_neg Bool.false_ne_true, if_neg Bool.false_ne_true, Machine.run_append, ← hreason]
      rfl

theorem rebootReasonOf_eq_secFail (status : EfiStatus) :
    (rebootReasonOf oem status == .setupSecFail) = (status == efiSecurityViolation) := by
  unfold rebootReasonOf
  by_cases h : status = efiSecurityViolation
  · rw [if_pos h, h, beq_self_eq_true]
    rfl
  · rw [if_neg h, beq_false_of_ne h]
    split_ifs <;> rfl

/-- The next boot up to the front page. -/
theorem entry_board (f : FailedBoot) : ∃ requests,
    (board oem).run ⟨some (rebootReasonOf oem (f.status oem)), false, some 1#64, false⟩ f.entry =
      ⟨some (f.reason oem), f.status oem == efiSecurityViolation, requests, false⟩ := by
  have hwrites : ∀ (writes : List (Option (BitVec 64))) (b : Board), ∃ requests,
      (board oem).run b (writes.map .writeOsIndications) = { b with requests } := by
    intro writes
    induction writes with
    | nil => intro b; exact ⟨b.requests, rfl⟩
    | cons v writes ih => intro b; exact ih { b with requests := v }
  have hstart : Board.startBoot oem
      ⟨some (rebootReasonOf oem (f.status oem)), false, some 1#64, false⟩ =
      ⟨some (f.reason oem), f.status oem == efiSecurityViolation, some 1#64, false⟩ := by
    -- a reason that is no failure gives way to the request for the firmware UI
    have hos : (oem.rebootToSetupOs == efiSecurityViolation) = false :=
      beq_false_of_ne oem.os_ne_violation
    have hnote : ∀ reason, Board.note oem oem.rebootToSetupOs ⟨reason, false, some 1#64, false⟩ =
        ⟨some (rebootReasonOf oem oem.rebootToSetupOs), false, some 1#64, false⟩ := by
      intro reason
      unfold Board.note
      rw [hos]
      rfl
    unfold FailedBoot.reason
    rw [← rebootReasonOf_eq_secFail oem]
    cases rebootReasonOf oem (f.status oem) with
    | setupSecFail => rfl
    | setupBootfail => rfl
    | setupKey => exact hnote _
    | setupOs => exact hnote _
    | setupNone => exact hnote _
  obtain ⟨requests, hrun⟩ := hwrites f.requests
    ⟨some (f.reason oem), f.status oem == efiSecurityViolation, some 1#64, false⟩
  refine ⟨requests, ?_⟩
  have hfirst : (board oem).run
      ⟨some (rebootReasonOf oem (f.status oem)), false, some 1#64, false⟩ f.entry =
      (board oem).run (Board.startBoot oem _) (f.requests.map .writeOsIndications) := rfl
  rw [hfirst, hstart]
  exact hrun

/-- An event at which the user sees nothing. -/
def IndicatorEvent.Silent : IndicatorEvent → Prop
  | .frontPage _ => False
  | _ => True

theorem answers_silent {events : List IndicatorEvent} (h : ∀ e ∈ events, e.Silent) :
    ∀ b : Board, ((board oem).answers b events).filterMap id = [] := by
  induction events with
  | nil => intro b; rfl
  | cons e events ih =>
      intro b
      obtain ⟨he, hevents⟩ := List.forall_mem_cons.mp h
      have hanswer : ((board oem).step b e).2 = none := by
        cases e <;> first | rfl | exact he.elim
      rw [Machine.answers, hanswer, List.filterMap_cons_none rfl]
      exact ih hevents _

theorem FailedBoot.silent (f : FailedBoot) : ∀ e ∈ f.failure ++ f.entry, e.Silent := by
  intro e he
  rcases List.mem_append.mp he with he | he
  · unfold FailedBoot.failure at he
    split at he
    · rcases List.mem_pair.mp he with rfl | rfl
      · trivial
      · trivial
    · rcases List.mem_append.mp he with he | he
      · obtain ⟨status, -, rfl⟩ := List.mem_map.mp he
        trivial
      · rw [List.mem_singleton.mp he]
        trivial
  · rcases List.mem_cons.mp he with rfl | he
    · trivial
    · obtain ⟨v, -, rfl⟩ := List.mem_map.mp he
      trivial

/-- **One failed boot**, whatever was on the board before it. -/
theorem failedBoot_board (f : FailedBoot) {b : Board} (hb : b.bootNext = false) :
    ((board oem).answers b f.events).filterMap id = [f.shown oem] ∧
      ((board oem).run b f.events).bootNext = false := by
  obtain ⟨requests, hentry⟩ := entry_board oem f
  have hrun : (board oem).run b (f.failure ++ f.entry) =
      ⟨some (f.reason oem), f.status oem == efiSecurityViolation, requests, false⟩ := by
    rw [Machine.run_append, failure_board oem f hb, hentry]
  have hpresent : let b : Board :=
        ⟨some (f.reason oem), f.status oem == efiSecurityViolation, requests, false⟩
      (b.present f.start).1 = f.shown oem ∧ (b.present f.start).2.bootNext = false := by
    unfold Board.present FailedBoot.shown
    cases f.start.menuCreated with
    | false => exact ⟨rfl, rfl⟩
    | true => cases f.start.loadOptions <;> exact ⟨rfl, rfl⟩
  unfold FailedBoot.events
  rw [Machine.answers_append _ (f.failure ++ f.entry), Machine.run_append _ (f.failure ++ f.entry),
    List.filterMap_append, answers_silent oem f.silent, hrun]
  exact ⟨congrArg (fun shown => [shown]) hpresent.1, hpresent.2⟩

/-- **Every failed boot is reported, and reported as itself.** After any history and a reset, let
boots fail one after the other, the user being shown the front page in between: each front page
shows the alert exactly if the status that counts in the boot before it was EFI_SECURITY_VIOLATION,
and the icon of that status; nothing is left over from an earlier boot. -/
theorem failures_shown (history : List IndicatorEvent)
    (boots : List FailedBoot) :
    ((bootIndicators oem).answers ((bootIndicators oem).run noVariables (history ++ [.reset]))
        (boots.flatMap FailedBoot.events)).filterMap id = boots.map (FailedBoot.shown oem) := by
  have hboots : ∀ (boots : List FailedBoot) {b : Board}, b.bootNext = false →
      ((board oem).answers b (boots.flatMap FailedBoot.events)).filterMap id =
        boots.map (FailedBoot.shown oem) := by
    intro boots
    induction boots with
    | nil => intro b _; rfl
    | cons f boots ih =>
        intro b hb
        obtain ⟨hshown, hnext⟩ := failedBoot_board oem f hb
        rw [List.flatMap_cons, Machine.answers_append, List.filterMap_append, hshown, ih hnext]
        rfl
  have hreset : ((board oem).run .blank (history ++ [.reset])).bootNext = false := by
    rw [Machine.run_append]
    rfl
  obtain ⟨-, hvars⟩ := indicators_refine oem (history ++ [.reset])
  have hanswers := (bootIndicators_simulates oem).answers (boots.flatMap FailedBoot.events) hvars
  rw [List.map_id, List.map_id] at hanswers
  rw [hanswers]
  exact hboots boots hreset

end FailedBoots

/-! ## No violation is reported twice -/

/-- The user has seen everything: the dialog has been shown, and RebootReason has been read and
cleared. -/
def FrontPageStart.settles (p : FrontPageStart) : Bool :=
  p.loadOptions.isEmpty && p.allocated && p.menuCreated && !efiError p.dialog

/-- A start of the front page that shows the alert and settles it. -/
def settlesAlert : IndicatorEvent × Option Indicators → Bool
  | (.frontPage p, some shown) => p.settles && shown.alertShown
  | _ => false

/-- A boot option ends in a security violation, or is skipped for one. -/
def reportsViolation (oem : OemStatuses) : IndicatorEvent → Bool
  | .processBootCompletion optionStatus =>
      optionStatus == efiSecurityViolation || optionStatus == oem.previousSecurityViolation
  | _ => false

/-- The board still has a violation for the user. -/
def Board.pending (b : Board) : Bool := b.alert || b.reason == some .setupSecFail

section Counting

variable (oem : OemStatuses)

theorem Board.pending_note (status : EfiStatus) (b : Board) :
    (b.note oem status).pending = (b.alert || status == efiSecurityViolation) := by
  have hreason : (some (rebootReasonOf oem status) == some MspRebootReason.setupSecFail) =
      (status == efiSecurityViolation) := by
    rw [← rebootReasonOf_eq_secFail oem]
    rfl
  unfold Board.pending Board.note
  rw [hreason, Bool.or_assoc, Bool.or_self]

/-- A status that is no violation raises nothing. -/
theorem Board.pending_note_le {status : EfiStatus} (h : (status == efiSecurityViolation) = false)
    (b : Board) : (b.note oem status).pending ≤ b.pending := by
  rw [Board.pending_note, h, Bool.or_false]
  unfold Board.pending
  cases b.alert <;> simp

theorem Board.pending_reset_le (b : Board) : b.reset.pending ≤ b.pending := by
  unfold Board.pending Board.reset
  cases b.alert <;> simp

theorem Board.pending_startBoot_le (b : Board) : (b.startBoot oem).pending ≤ b.pending := by
  let raised : Board := { b with alert := b.alert || b.reason == some .setupSecFail }
  have hraised : raised.pending = b.pending := by
    show (b.alert || b.reason == some .setupSecFail || b.reason == some .setupSecFail) = _
    rw [Bool.or_assoc, Bool.or_self]
    rfl
  have hos : (oem.rebootToSetupOs == efiSecurityViolation) = false :=
    beq_false_of_ne oem.os_ne_violation
  rw [← hraised]
  unfold Board.startBoot
  dsimp only
  split_ifs
  · exact Board.pending_note_le oem hos raised
  · exact le_refl _

theorem Board.pending_attempt_le (optionStatus : EfiStatus) (b : Board) :
    (b.attempt oem optionStatus).pending ≤
      (reportsViolation oem (.processBootCompletion optionStatus) || b.pending) := by
  let status := Board.attemptStatus oem b.bootNext optionStatus
  let noted := Board.note oem status { b with bootNext := false }
  have hreports : (status == efiSecurityViolation) ≤
      reportsViolation oem (.processBootCompletion optionStatus) := by
    simp only [status, Board.attemptStatus, reportsViolation]
    -- an option that was skipped for a violation reports one
    split_ifs with hskipped
    · rw [Bool.and_eq_true] at hskipped
      rw [hskipped.2, Bool.or_true]
      exact Bool.le_true _
    · exact Bool.left_le_or _ _
  have hnoted : noted.pending ≤
      (reportsViolation oem (.processBootCompletion optionStatus) || b.pending) := by
    rw [Board.pending_note, Bool.or_comm]
    exact sup_le_sup hreports (Bool.left_le_or _ _)
  unfold Board.attempt
  dsimp only
  split_ifs
  · exact (Board.pending_reset_le _).trans hnoted
  · exact hnoted

/-- Reading the board keeps what is pending, unless the alert is shown and settled. -/
theorem Board.present_saves (b : Board) (p : FrontPageStart) :
    (p.settles && (b.present p).1.alertShown).toNat + (b.present p).2.pending.toNat ≤
      b.pending.toNat := by
  have hkept : ∀ alert failed reason : Bool,
      false.toNat + (alert && failed || reason).toNat ≤ (alert || reason).toNat := by decide
  have hcleared : ∀ alert failed reason : Bool,
      (!failed && alert).toNat + (alert && failed || false).toNat ≤ (alert || reason).toNat := by
    decide
  unfold Board.present FrontPageStart.settles
  cases p.menuCreated with
  | false =>
      rw [Bool.and_false, Bool.false_and, Bool.false_and]
      exact hkept _ _ _
  | true =>
      cases p.loadOptions with
      | cons parameter rest => exact hkept _ _ _
      | nil =>
          cases p.allocated with
          | false => exact hkept _ _ _
          | true => exact hcleared _ _ _

/-- **The board saves a violation until it is settled.** -/
theorem board_saves (b : Board) (e : IndicatorEvent) :
    (settlesAlert (e, ((board oem).step b e).2)).toNat + ((board oem).step b e).1.pending.toNat ≤
      (reportsViolation oem e).toNat + b.pending.toNat := by
  -- an event at which nothing is seen or reported
  have hsilent : ∀ b' : Board, b'.pending ≤ b.pending →
      false.toNat + b'.pending.toNat ≤ false.toNat + b.pending.toNat := by
    intro b' h
    rw [Nat.add_le_add_iff_left]
    exact Bool.toNat_le_toNat h
  cases e with
  | reset => exact hsilent _ b.pending_reset_le
  | bdsEntry => exact hsilent _ (b.pending_startBoot_le oem)
  | writeOsIndications v => exact hsilent _ (le_refl b.pending)
  | handleRebootToFrontPage uninitialized => exact hsilent _ (le_refl b.pending)
  | setMsBootNext => exact hsilent _ (le_refl b.pending)
  | priorityBoot r =>
      apply hsilent
      dsimp only [board]
      split_ifs
      · exact Board.pending_note_le oem (beq_false_of_ne oem.key_ne_violation) b
      · exact le_refl _
  | processBootCompletion optionStatus =>
      have hattempt := Bool.toNat_le_toNat (b.pending_attempt_le oem optionStatus)
      have hor : ∀ x y : Bool, (x || y).toNat ≤ x.toNat + y.toNat := by decide
      show false.toNat + (b.attempt oem optionStatus).pending.toNat ≤ _
      rw [Bool.toNat_false, Nat.zero_add]
      exact hattempt.trans (hor _ _)
  | unableToBoot => exact hsilent _ (Board.pending_reset_le _)
  | frontPage p =>
      show (p.settles && (b.present p).1.alertShown).toNat + (b.present p).2.pending.toNat ≤ _
      exact (b.present_saves p).trans (Nat.le_add_left _ _)

end Counting

/-- **No violation is reported twice.** In every run from the first boot on: the starts of the front
page that show the alert and settle it are no more than the boot options that have ended in a
security violation, or were skipped for one. -/
theorem alerts_le_violations (oem : OemStatuses) (events : List IndicatorEvent) :
    ((bootIndicators oem).trace noVariables events).countP settlesAlert ≤
      events.countP (reportsViolation oem) := by
  have hcount := (board oem).countP_trace_le (fun b => b.pending.toNat) (board_saves oem)
    events .blank
  have htrace : (bootIndicators oem).trace noVariables events = (board oem).trace .blank events := by
    unfold Machine.trace
    rw [(indicators_refine oem events).1]
  rw [htrace]
  exact (Nat.le_add_right _ _).trans hcount

end OemPkg.FrontPage
