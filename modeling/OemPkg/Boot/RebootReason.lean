/-
# OemPkg.Boot.RebootReason — why the last boot failed, across the reset

The model of `MsNVBootReasonLib.c` and of the parts of `DeviceBootManagerLib.c` that drive it. Two
variables tell the front page about a failed boot: RebootReason, a single non-volatile slot that
every boot attempt overwrites, and SecureBootAlert, which is volatile and only ever set. When
nothing boots the system resets into the front page, and the next boot restores the alert from what
the slot then says.

`secureBootAlert_iff` is the law this gives: the alert comes back exactly when the *last* attempt
ended in EFI_SECURITY_VIOLATION. `violation_remembered_iff` compares it with what the alert is for.
-/
import OemPkg.Uefi.Variable

namespace OemPkg.Boot

open OemPkg.Lib OemPkg.Uefi

/-! ## Names and constants -/

/-- The variables involved. -/
inductive BootVar where
  /-- L"RebootReason" -/
  | rebootReason
  /-- L"SecureBootAlert" -/
  | secureBootAlert
  /-- L"OsIndications" -/
  | osIndications
  /-- L"MsBootNext" -/
  | msBootNext
  deriving DecidableEq

/-- The status codes PcBdsPkg adds, with what is known of them: the previous security violation is
an error, and none of them is another status the code names. -/
structure OemStatuses where
  /-- OEM_PREVIOUS_SECURITY_VIOLATION -/
  previousSecurityViolation : EfiStatus
  /-- OEM_REBOOT_TO_SETUP_KEY -/
  rebootToSetupKey : EfiStatus
  /-- OEM_REBOOT_TO_SETUP_OS -/
  rebootToSetupOs : EfiStatus
  previous_error : efiError previousSecurityViolation = true
  previous_ne_violation : previousSecurityViolation ≠ efiSecurityViolation
  previous_ne_key : previousSecurityViolation ≠ rebootToSetupKey
  previous_ne_os : previousSecurityViolation ≠ rebootToSetupOs
  key_ne_violation : rebootToSetupKey ≠ efiSecurityViolation
  os_ne_violation : rebootToSetupOs ≠ efiSecurityViolation

/-- The texts RebootReason may hold, MSP_REBOOT_REASON_LENGTH characters each. -/
inductive MspRebootReason where
  | setupKey | setupBootfail | setupSecFail | setupOs | setupNone
  deriving DecidableEq, Repr

/-- The characters of a text as bytes. -/
def ascii (s : String) : Bytes := s.toList.map fun c => UInt8.ofNat c.toNat

def MspRebootReason.text : MspRebootReason → String
  | setupKey => "VOL+    "
  | setupBootfail => "BOOTFAIL"
  | setupSecFail => "BSecFail"
  | setupOs => "OS      "
  | setupNone => "        "

/-- MSP_REBOOT_REASON_LENGTH -/
def mspRebootReasonLength : Nat := 8

def rebootReasonAttrs : Attributes := efiVariableBootserviceAccess ||| efiVariableNonVolatile

def osIndicationsAttrs : Attributes :=
  efiVariableBootserviceAccess ||| efiVariableRuntimeAccess ||| efiVariableNonVolatile

/-- EFI_OS_INDICATIONS_BOOT_TO_FW_UI -/
def efiOsIndicationsBootToFwUi : Nat := 1

abbrev BootVars := VarStore BootVar

section Functions

variable (oem : OemStatuses)

/-! ## MsNVBootReasonLib -/

/-- UpdateSecureBootViolation -/
def updateSecureBootViolation (rebootStatus : EfiStatus) (st : BootVars) : EfiStatus × BootVars :=
  if rebootStatus = efiSecurityViolation then
    -- This variable is volatile.
    st.setVariable .secureBootAlert efiVariableBootserviceAccess [1]
  else (efiSuccess, st)

/-- The text SetRebootReason chooses. -/
def rebootReasonOf (rebootStatus : EfiStatus) : MspRebootReason :=
  if rebootStatus = efiSecurityViolation then .setupSecFail
  else if rebootStatus = oem.rebootToSetupKey then .setupKey
  else if rebootStatus = oem.rebootToSetupOs then .setupOs
  else if efiError rebootStatus then .setupBootfail
  else .setupNone

/-- SetRebootReason -/
def setRebootReason (rebootStatus : EfiStatus) (st : BootVars) : EfiStatus × BootVars :=
  let st :=
    if rebootStatus = efiSecurityViolation then (updateSecureBootViolation rebootStatus st).2
    else st
  st.setVariable .rebootReason rebootReasonAttrs (ascii (rebootReasonOf oem rebootStatus).text)

/-- The local RebootReason of UpdateRebootReason after a read that returned `data`: it starts as
eight blanks and a terminator. -/
def rebootReasonBuffer (data : Bytes) : Bytes :=
  data ++ (ascii MspRebootReason.setupNone.text ++ [0]).drop data.length

/-- Does the buffer begin with these characters? -/
def beginsWith (buffer : Bytes) (chars : String) : Bool :=
  buffer.take chars.toList.length == ascii chars

/-- The last part of UpdateRebootReason: OS indications set the front page icon. -/
def checkOsIndications (st : BootVars) : EfiStatus × BootVars :=
  let read := st.getVariable .osIndications 8
  let osIndication := leNat (read.data ++ (List.replicate 8 0).drop read.data.length)
  if read.dataSize = 8 ∧ osIndication &&& efiOsIndicationsBootToFwUi ≠ 0 then
    setRebootReason oem oem.rebootToSetupOs st
  else (read.status, st)

/-- UpdateRebootReason -/
def updateRebootReason (st : BootVars) : EfiStatus × BootVars :=
  let read := st.getVariable .rebootReason mspRebootReasonLength
  if efiError read.status ∧ read.status ≠ efiNotFound then (read.status, st)
  else
    let rebootReason := rebootReasonBuffer read.data
    let (status, st) :=
      if beginsWith rebootReason "BS" then updateSecureBootViolation efiSecurityViolation st
      else (read.status, st)
    -- if there is no other reboot reason
    if !beginsWith rebootReason "B" then checkOsIndications oem st else (status, st)

/-! ## DeviceBootManagerLib -/

/-- A call that returns to its caller, or ends the boot in ResetSystem. -/
inductive Flow where
  | returns (st : BootVars)
  | resets (st : BootVars)

/-- RebootToFrontPage never returns. -/
def rebootToFrontPage (st : BootVars) : Flow :=
  .resets (st.setVariable .osIndications osIndicationsAttrs
    (leBytes 8 efiOsIndicationsBootToFwUi)).2

/-- The BOOLEAN MsBootNext as DeviceBootManagerProcessBootCompletion reads it: FALSE unless the
variable is one byte other than zero. -/
def msBootNextRead (st : BootVars) : Bool :=
  let read := st.getVariable .msBootNext 1
  match read.data with
  | [] => false
  | b :: _ => b != 0

/-- DeviceBootManagerProcessBootCompletion, for a boot option that ended with `optionStatus`. -/
def processBootCompletion (optionStatus : EfiStatus) (st : BootVars) : Flow :=
  let msBootNext := msBootNextRead st
  let read := st.getVariable .msBootNext 1
  let st :=
    if efiError read.status then st
    else (st.setVariable .msBootNext efiVariableBootserviceAccess []).2
  let restartStatus :=
    if optionStatus = oem.previousSecurityViolation then efiSecurityViolation else optionStatus
  if msBootNext then rebootToFrontPage (setRebootReason oem restartStatus st).2
  else .returns (setRebootReason oem optionStatus st).2

/-- DeviceBootManagerUnableToBoot -/
def unableToBoot (st : BootVars) : Flow := rebootToFrontPage st

/-- DeviceBootManagerBdsEntry -/
def bdsEntry (st : BootVars) : BootVars := (updateRebootReason oem st).2

/-- The boot attempts of one boot, in order. -/
def attempts : List EfiStatus → BootVars → Flow
  | [], st => .returns st
  | optionStatus :: rest, st =>
      match processBootCompletion oem optionStatus st with
      | .returns st => attempts rest st
      | .resets st => .resets st

/-- A boot in which every option fails, up to and including the reset. -/
def failedBoot (statuses : List EfiStatus) (st : BootVars) : BootVars :=
  match attempts oem statuses st with
  | .returns st =>
      match unableToBoot st with
      | .returns st => st.reset
      | .resets st => st.reset
  | .resets st => st.reset

end Functions

/-! ## What the variables hold between calls -/

/-- The variables these functions write have, where they exist, the attributes they are written
with. -/
structure Conforms (st : BootVars) : Prop where
  rebootReason : ∀ v, st .rebootReason = some v → v.attributes = rebootReasonAttrs
  secureBootAlert : ∀ v, st .secureBootAlert = some v → v.attributes = efiVariableBootserviceAccess
  osIndications : ∀ v, st .osIndications = some v → v.attributes = osIndicationsAttrs

/-- The contents of RebootReason announce a violation: they fit the buffer and begin with BS. -/
def Announces (v : Option Variable) : Prop :=
  ∃ w, v = some w ∧ w.data.length ≤ mspRebootReasonLength ∧
    beginsWith (rebootReasonBuffer w.data) "BS" = true

variable {oem : OemStatuses}

/-- A write with the attributes a variable has always succeeds. -/
theorem setVariable_conforming {st : BootVars} {name : BootVar} {a : Attributes} {data : Bytes}
    (ha : ∀ v, st name = some v → v.attributes = a) (hvalid : validAttributes a = true)
    (haccess : hasAccess a = true) (hdata : data ≠ []) :
    (st.setVariable name a data).2 = Function.update st name (some ⟨a, data⟩) := by
  unfold VarStore.setVariable
  cases h : st name with
  | none => rw [writeVariable_create hvalid haccess hdata]
  | some v => rw [writeVariable_rewrite hvalid haccess hdata (ha v h)]

theorem updateSecureBootViolation_of_conforms {st : BootVars} (h : Conforms st)
    (status : EfiStatus) :
    (updateSecureBootViolation status st).2 =
      if status = efiSecurityViolation then
        Function.update st .secureBootAlert (some ⟨efiVariableBootserviceAccess, [1]⟩)
      else st := by
  unfold updateSecureBootViolation
  split_ifs with hs
  · exact setVariable_conforming h.secureBootAlert (by decide) (by decide) (by decide)
  · rfl

theorem conforms_alert {st : BootVars} (h : Conforms st) :
    Conforms (Function.update st .secureBootAlert (some ⟨efiVariableBootserviceAccess, [1]⟩)) where
  rebootReason := h.rebootReason
  secureBootAlert := by
    intro v hv
    rw [Function.update_self, Option.some.injEq] at hv
    rw [← hv]
  osIndications := h.osIndications

/-- Every text fills the variable. -/
theorem length_reason (r : MspRebootReason) : (ascii r.text).length = mspRebootReasonLength := by
  cases r <;> decide

variable (oem) in
/-- **What SetRebootReason does**: the slot holds the reason, a violation also sets the alert, and
nothing else changes. -/
theorem setRebootReason_of_conforms {st : BootVars} (h : Conforms st) (status : EfiStatus) :
    Conforms (setRebootReason oem status st).2 ∧
      (setRebootReason oem status st).2 .rebootReason =
        some ⟨rebootReasonAttrs, ascii (rebootReasonOf oem status).text⟩ ∧
      (setRebootReason oem status st).2 .secureBootAlert =
        (if status = efiSecurityViolation then some ⟨efiVariableBootserviceAccess, [1]⟩
         else st .secureBootAlert) ∧
      (setRebootReason oem status st).2 .msBootNext = st .msBootNext := by
  have hdata : ascii (rebootReasonOf oem status).text ≠ [] := by
    intro hnil
    have hlen := length_reason (rebootReasonOf oem status)
    rw [hnil] at hlen
    exact absurd hlen (by decide)
  have hset : ∀ st : BootVars, Conforms st →
      (st.setVariable .rebootReason rebootReasonAttrs
        (ascii (rebootReasonOf oem status).text)).2 =
      Function.update st .rebootReason
        (some ⟨rebootReasonAttrs, ascii (rebootReasonOf oem status).text⟩) := fun st h =>
    setVariable_conforming h.rebootReason (by decide) (by decide) hdata
  have hconf : ∀ st : BootVars, Conforms st → Conforms (Function.update st .rebootReason
      (some ⟨rebootReasonAttrs, ascii (rebootReasonOf oem status).text⟩)) := fun st h =>
    { rebootReason := by
        intro v hv
        rw [Function.update_self, Option.some.injEq] at hv
        rw [← hv]
      secureBootAlert := h.secureBootAlert
      osIndications := h.osIndications }
  unfold setRebootReason
  by_cases hs : status = efiSecurityViolation
  · have halert := updateSecureBootViolation_of_conforms h status
    rw [if_pos hs] at halert
    simp only [if_pos hs, halert]
    rw [hset _ (conforms_alert h)]
    exact ⟨hconf _ (conforms_alert h), rfl, rfl, rfl⟩
  · simp only [if_neg hs]
    rw [hset _ h]
    exact ⟨hconf _ h, rfl, rfl, rfl⟩

/-- Only EFI_SECURITY_VIOLATION leaves a reason that announces a violation. -/
theorem announces_reason_iff (status : EfiStatus) (a : Attributes) :
    Announces (some ⟨a, ascii (rebootReasonOf oem status).text⟩) ↔
      status = efiSecurityViolation := by
  have hannounce : Announces (some ⟨a, ascii (rebootReasonOf oem status).text⟩) ↔
      beginsWith (rebootReasonBuffer (ascii (rebootReasonOf oem status).text)) "BS" = true := by
    constructor
    · rintro ⟨w, hw, _, hbs⟩
      cases hw
      exact hbs
    · intro hbs
      exact ⟨_, rfl, (length_reason _).le, hbs⟩
  rw [hannounce]
  by_cases hs : status = efiSecurityViolation
  · subst hs
    simp only [rebootReasonOf, if_true, iff_true]
    decide
  · simp only [hs, iff_false, Bool.not_eq_true]
    unfold rebootReasonOf
    split_ifs <;> decide

/-! ## One boot -/

variable (oem) in
/-- A boot attempt while MsBootNext is not set: it returns, and only the last status counts. -/
theorem processBootCompletion_of_conforms {st : BootVars} (h : Conforms st)
    (hnext : msBootNextRead st = false) (status : EfiStatus) :
    ∃ st', processBootCompletion oem status st = .returns st' ∧ Conforms st' ∧
      msBootNextRead st' = false ∧
      st' .rebootReason = some ⟨rebootReasonAttrs, ascii (rebootReasonOf oem status).text⟩ := by
  let st₁ : BootVars :=
    if efiError (st.getVariable .msBootNext 1).status then st
    else (st.setVariable .msBootNext efiVariableBootserviceAccess []).2
  have hconf : Conforms st₁ ∧ msBootNextRead st₁ = false := by
    simp only [st₁]
    split_ifs
    · exact ⟨h, hnext⟩
    · have hdelete : (st.setVariable .msBootNext efiVariableBootserviceAccess []).2 =
          Function.update st .msBootNext none := by
        unfold VarStore.setVariable
        cases st .msBootNext <;> rfl
      rw [hdelete]
      exact ⟨⟨h.rebootReason, h.secureBootAlert, h.osIndications⟩, rfl⟩
  obtain ⟨hconf', hreason, -, hmsnext⟩ := setRebootReason_of_conforms oem hconf.1 status
  refine ⟨(setRebootReason oem status st₁).2, ?_, hconf', ?_, hreason⟩
  · show processBootCompletion oem status st = .returns (setRebootReason oem status st₁).2
    simp only [processBootCompletion, hnext, Bool.false_eq_true, if_false]
    rfl
  · show msBootNextRead (setRebootReason oem status st₁).2 = false
    rw [← hconf.2, msBootNextRead, msBootNextRead, VarStore.getVariable, VarStore.getVariable,
      hmsnext]

/-- What RebootReason holds after a list of attempts, starting from `v`. -/
def reasonAfter (oem : OemStatuses) (v : Option Variable) (statuses : List EfiStatus) :
    Option Variable :=
  match statuses.getLast? with
  | none => v
  | some status => some ⟨rebootReasonAttrs, ascii (rebootReasonOf oem status).text⟩

variable (oem) in
/-- **The attempts of a boot, by induction on their list.** -/
theorem attempts_of_conforms (statuses : List EfiStatus) :
    ∀ {st : BootVars}, Conforms st → msBootNextRead st = false →
      ∃ st', attempts oem statuses st = .returns st' ∧ Conforms st' ∧
        st' .rebootReason = reasonAfter oem (st .rebootReason) statuses := by
  induction statuses with
  | nil => intro st h _; exact ⟨st, rfl, h, rfl⟩
  | cons status statuses ih =>
      intro st h hnext
      obtain ⟨st₁, hstep, hconf, hnext₁, hreason⟩ :=
        processBootCompletion_of_conforms oem h hnext status
      obtain ⟨st', hrest, hconf', hreason'⟩ := ih hconf hnext₁
      refine ⟨st', ?_, hconf', ?_⟩
      · show attempts oem (status :: statuses) st = .returns st'
        simp only [attempts, hstep, hrest]
      · show st' .rebootReason = reasonAfter oem (st .rebootReason) (status :: statuses)
        rw [hreason', hreason]
        cases statuses with
        | nil => rfl
        | cons next rest => rw [reasonAfter, reasonAfter, List.getLast?_cons_cons]; rfl

/-- A reset makes no new variables. -/
theorem Conforms.reset {st : BootVars} (h : Conforms st) : Conforms st.reset where
  rebootReason v hv := h.rebootReason v (VarStore.of_reset hv)
  secureBootAlert v hv := h.secureBootAlert v (VarStore.of_reset hv)
  osIndications v hv := h.osIndications v (VarStore.of_reset hv)

variable (oem) in
/-- **A failed boot up to the reset**: the slot says what the last attempt said, and the alert is
gone. -/
theorem failedBoot_of_conforms {st : BootVars} (h : Conforms st) (hnext : msBootNextRead st = false)
    (statuses : List EfiStatus) :
    Conforms (failedBoot oem statuses st) ∧ failedBoot oem statuses st .secureBootAlert = none ∧
      failedBoot oem statuses st .rebootReason = reasonAfter oem (st .rebootReason) statuses := by
  obtain ⟨st', hrun, hconf, hreason⟩ := attempts_of_conforms oem statuses h hnext
  have hdata : leBytes 8 efiOsIndicationsBootToFwUi ≠ [] := by decide
  have hos := setVariable_conforming hconf.osIndications (by decide) (by decide) hdata
  have hreset : failedBoot oem statuses st = VarStore.reset (Function.update st' .osIndications
      (some ⟨osIndicationsAttrs, leBytes 8 efiOsIndicationsBootToFwUi⟩)) := by
    simp only [failedBoot, hrun, unableToBoot, rebootToFrontPage, hos]
  have hconf' : Conforms (Function.update st' .osIndications
      (some ⟨osIndicationsAttrs, leBytes 8 efiOsIndicationsBootToFwUi⟩)) :=
    { rebootReason := hconf.rebootReason
      secureBootAlert := hconf.secureBootAlert
      osIndications := by
        intro v hv
        rw [Function.update_self, Option.some.injEq] at hv
        rw [← hv] }
  rw [hreset]
  refine ⟨hconf'.reset, ?_, ?_⟩
  · show VarStore.reset _ BootVar.secureBootAlert = none
    apply VarStore.reset_volatile
    intro v hv
    rw [hconf'.secureBootAlert v hv]
    decide
  · rw [← hreason]
    apply VarStore.reset_nonVolatile
    intro v hv
    rw [hconf'.rebootReason v hv]
    decide

/-! ## The next boot -/

/-- The OS indications never touch the alert. -/
theorem checkOsIndications_alert {st : BootVars} (h : Conforms st) :
    (checkOsIndications oem st).2 .secureBootAlert = st .secureBootAlert := by
  have hset := (setRebootReason_of_conforms oem h oem.rebootToSetupOs).2.2.1
  rw [if_neg oem.os_ne_violation] at hset
  unfold checkOsIndications
  dsimp only
  split_ifs
  · exact hset
  · rfl

/-- The alert after UpdateRebootReason has read `data` from the slot. -/
theorem updateRebootReason_of_read {st : BootVars} (h : Conforms st)
    (hclear : st .secureBootAlert = none) {read : ReadOutcome}
    (hread : st.getVariable .rebootReason mspRebootReasonLength = read)
    (hok : ¬ (efiError read.status = true ∧ read.status ≠ efiNotFound)) :
    (updateRebootReason oem st).2 .secureBootAlert ≠ none ↔
      beginsWith (rebootReasonBuffer read.data) "BS" = true := by
  have hset := updateSecureBootViolation_of_conforms h efiSecurityViolation
  rw [if_pos rfl] at hset
  have hconf := conforms_alert h
  unfold updateRebootReason
  simp only [hread, if_neg hok]
  cases hbs : beginsWith (rebootReasonBuffer read.data) "BS" with
  | true =>
      simp only [if_true, hset, iff_true]
      split_ifs
      · rw [checkOsIndications_alert hconf]
        simp
      · simp
  | false =>
      simp only [Bool.false_eq_true, if_false, iff_false, not_not]
      split_ifs
      · rw [checkOsIndications_alert h, hclear]
      · exact hclear

/-- **What UpdateRebootReason does to the alert**: it sets it exactly when the slot announces a
violation. -/
theorem updateRebootReason_alert {st : BootVars} (h : Conforms st)
    (hclear : st .secureBootAlert = none) :
    (updateRebootReason oem st).2 .secureBootAlert ≠ none ↔ Announces (st .rebootReason) := by
  cases hslot : st .rebootReason with
  | none =>
      have hread : st.getVariable .rebootReason mspRebootReasonLength =
          ⟨efiNotFound, mspRebootReasonLength, none, []⟩ := by
        rw [VarStore.getVariable, hslot, readVariable_none]
      rw [updateRebootReason_of_read h hclear hread (by simp)]
      exact ⟨fun hbs => absurd hbs (by decide), fun ⟨_, hv, _⟩ => nomatch hv⟩
  | some v =>
      by_cases hfit : v.data.length ≤ mspRebootReasonLength
      · have hread : st.getVariable .rebootReason mspRebootReasonLength =
            ⟨efiSuccess, v.data.length, some v.attributes, v.data⟩ := by
          rw [VarStore.getVariable, hslot, readVariable_fits hfit]
        rw [updateRebootReason_of_read h hclear hread (by simp)]
        constructor
        · intro hbs
          exact ⟨v, rfl, hfit, hbs⟩
        · rintro ⟨w, hw, _, hbs⟩
          cases hw
          exact hbs
      · have hread : st.getVariable .rebootReason mspRebootReasonLength =
            ⟨efiBufferTooSmall, v.data.length, some v.attributes, []⟩ := by
          rw [VarStore.getVariable, hslot, readVariable_large hfit]
        have hsame : (updateRebootReason oem st).2 = st := by
          simp [updateRebootReason, hread]
        rw [hsame, hclear]
        constructor
        · intro hn
          exact absurd rfl hn
        · rintro ⟨w, hw, hle, _⟩
          cases hw
          exact absurd hle hfit

/-- The alert on the boot after `statuses`. -/
def alertNextBoot (oem : OemStatuses) (statuses : List EfiStatus) (st : BootVars) : Bool :=
  (bdsEntry oem (failedBoot oem statuses st) .secureBootAlert).isSome

/-- **The alert comes back exactly when the last attempt ended in a security violation**, or, with
no attempt at all, when the slot already announced one. -/
theorem secureBootAlert_iff {st : BootVars} (h : Conforms st) (hnext : msBootNextRead st = false)
    (statuses : List EfiStatus) :
    alertNextBoot oem statuses st = true ↔
      Announces (reasonAfter oem (st .rebootReason) statuses) := by
  obtain ⟨hconf, hclear, hreason⟩ := failedBoot_of_conforms oem h hnext statuses
  rw [alertNextBoot, Option.isSome_iff_ne_none, bdsEntry, updateRebootReason_alert hconf hclear,
    hreason]

/-! ## What the alert is for -/

/-- The boot attempt ended in a security violation, or skipped an option that had caused one. -/
def IsViolation (oem : OemStatuses) (status : EfiStatus) : Prop :=
  status = efiSecurityViolation ∨ status = oem.previousSecurityViolation

/-- The last attempt decides alone: it is EFI_SECURITY_VIOLATION, or no attempt was a violation.
With no attempt, the slot does not announce one. -/
def LastDecides (oem : OemStatuses) (statuses : List EfiStatus) (st : BootVars) : Prop :=
  match statuses.getLast? with
  | none => ¬ Announces (st .rebootReason)
  | some last => last = efiSecurityViolation ∨ ∀ status ∈ statuses, ¬ IsViolation oem status

/-- **When a violation is remembered until the user is told.** For every sequence of attempts: the
alert of the next boot stands for a violation among them exactly when the last attempt decides. -/
theorem violation_remembered_iff (oem : OemStatuses) {st : BootVars} (h : Conforms st)
    (hnext : msBootNextRead st = false) (statuses : List EfiStatus) :
    (alertNextBoot oem statuses st = true ↔ ∃ status ∈ statuses, IsViolation oem status) ↔
      LastDecides oem statuses st := by
  rw [secureBootAlert_iff h hnext, reasonAfter, LastDecides]
  cases hlast : statuses.getLast? with
  | none =>
      have hnil : statuses = [] := List.getLast?_eq_none_iff.mp hlast
      subst hnil
      simp
  | some last =>
      have hmem : last ∈ statuses := List.mem_of_getLast? hlast
      simp only [announces_reason_iff]
      constructor
      · intro hiff
        by_cases hsv : last = efiSecurityViolation
        · exact Or.inl hsv
        · right
          intro status hstatus hviol
          apply hsv
          exact hiff.mpr ⟨status, hstatus, hviol⟩
      · rintro (hsv | hnone)
        · exact ⟨fun _ => ⟨last, hmem, Or.inl hsv⟩, fun _ => hsv⟩
        · constructor
          · intro hsv
            exact absurd (Or.inl hsv) (hnone last hmem)
          · rintro ⟨status, hstatus, hviol⟩
            exact absurd hviol (hnone status hstatus)

/-- Status codes as a platform might define them. -/
def someOemStatuses : OemStatuses where
  previousSecurityViolation := encodeError (2 ^ 62 + 1)
  rebootToSetupKey := encodeError (2 ^ 62 + 2)
  rebootToSetupOs := encodeError (2 ^ 62 + 3)
  previous_error := by decide
  previous_ne_violation := by decide
  previous_ne_key := by decide
  previous_ne_os := by decide
  key_ne_violation := by decide
  os_ne_violation := by decide

/-- No variables yet. -/
def noVariables : BootVars := fun _ => none

theorem conforms_noVariables : Conforms noVariables where
  rebootReason _ h := nomatch h
  secureBootAlert _ h := nomatch h
  osIndications _ h := nomatch h

theorem violation_remembered_iff_last :
    alertNextBoot someOemStatuses [efiNotFound, efiSecurityViolation] noVariables = true := by
  refine ((violation_remembered_iff someOemStatuses conforms_noVariables rfl
    [efiNotFound, efiSecurityViolation]).mpr (Or.inl rfl)).mpr ?_
  exact ⟨efiSecurityViolation, by simp, Or.inl rfl⟩

/-- A violation followed by an option that is simply not there is forgotten. -/
theorem violation_forgotten :
    ¬ ∀ (oem : OemStatuses) (st : BootVars) (statuses : List EfiStatus),
      Conforms st → msBootNextRead st = false →
      (alertNextBoot oem statuses st = true ↔ ∃ status ∈ statuses, IsViolation oem status) := by
  intro hremembered
  have hiff := hremembered someOemStatuses noVariables [efiSecurityViolation, efiNotFound]
    conforms_noVariables rfl
  have halert := hiff.mpr ⟨efiSecurityViolation, by simp, Or.inl rfl⟩
  exact absurd halert (by decide +kernel)

end OemPkg.Boot
