/-
# OemPkg.Boot.OsIndications — asking for the firmware UI at the next boot

OsIndications is one 64-bit field in which the operating system and the firmware leave requests for
the next boot, one bit each. Three paths of the firmware ask for its own UI: the reboot action of
the front page (`handleRebootToFrontPage`), the end of a failed boot (`rebootToFrontPage`) and
BootNext (`processBootNext`). The first sets its bit in the field, the other two write the whole
field. `keeps_requests_iff` is what that means for the requests that were pending.
-/
import OemPkg.Boot.RebootReason

namespace OemPkg.Boot

open OemPkg.Lib OemPkg.Uefi

/-! ## The three paths -/

/-- What the callback for the reboot action leaves: its status, whether the browser is asked to
exit, mResetRequired, and the variables. -/
structure RebootAction where
  status : EfiStatus
  exitRequested : Bool
  resetRequired : Bool
  vars : BootVars

/-- HandleRebootToFrontPage. `uninitialized` is what the local OsIndications holds before the
read. -/
def handleRebootToFrontPage (uninitialized : BitVec 64) (st : BootVars) : RebootAction :=
  let read := st.getVariable .osIndications 8
  -- the read fills the first bytes of the local
  let buffer := read.data ++ (leBytes 8 uninitialized.toNat).drop read.data.length
  if !efiError read.status || read.status = efiNotFound then
    let osIndications : BitVec 64 :=
      if read.status = efiNotFound then BitVec.ofNat 64 efiOsIndicationsBootToFwUi
      else BitVec.ofNat 64 (leNat buffer) ||| BitVec.ofNat 64 efiOsIndicationsBootToFwUi
    let attributes :=
      if read.status = efiNotFound then osIndicationsAttrs
      else read.attributes.getD osIndicationsAttrs
    let write := st.setVariable .osIndications attributes
      ((leBytes 8 osIndications.toNat).take read.dataSize)
    ⟨write.1, !efiError write.1, !efiError write.1, write.2⟩
  else ⟨read.status, false, false, st⟩

/-- The load options: what booting option `n` does to the variables before it comes back, if
EfiBootManagerVariableToLoadOption finds the option. -/
abbrev LoadOptions := Nat → Option (BootVars → BootVars)

/-- EfiBootManagerVariableToLoadOption and EfiBootManagerBoot. -/
def LoadOptions.boot (options : LoadOptions) (n : Nat) (st : BootVars) : BootVars :=
  match options n with
  | none => st
  | some attempt => attempt st

/-- ProcessBootNext: the variable BootNext afterwards, and how the function ends. -/
def processBootNext (options : LoadOptions) (bootNext : Option Variable) (st : BootVars) :
    Option Variable × Flow :=
  let fetched := (VarService.reliable bootNext).getVariable2.1
  let value := if fetched.size ≠ 2 then none else fetched.value
  let bootNext := (writeVariable bootNext 0#32 []).2
  match value with
  | none => (bootNext, .returns st)
  | some data =>
      let st := options.boot (leNat data) st
      -- Reboot to front page
      (bootNext, .resets (st.setVariable .osIndications osIndicationsAttrs
        (leBytes 8 efiOsIndicationsBootToFwUi)).2)

/-- The variables when a path ends. -/
def Flow.vars : Flow → BootVars
  | .returns st => st
  | .resets st => st

/-- A request for the firmware UI, by one of the three paths. -/
inductive FirmwareUiRequest where
  | handleRebootToFrontPage (uninitialized : BitVec 64)
  | rebootToFrontPage
  /-- with a BootNext variable that is acted on -/
  | processBootNext (options : LoadOptions) (bootNext : Variable) (h : bootNext.data.length = 2)

namespace FirmwareUiRequest

/-- The variables when the request is made: for BootNext the boot attempt comes first. -/
def pending : FirmwareUiRequest → BootVars → BootVars
  | .handleRebootToFrontPage _, st => st
  | .rebootToFrontPage, st => st
  | .processBootNext options bootNext _, st => options.boot (leNat bootNext.data) st

/-- The variables when the path ends. -/
def after : FirmwareUiRequest → BootVars → BootVars
  | .handleRebootToFrontPage uninitialized, st =>
      (Boot.handleRebootToFrontPage uninitialized st).vars
  | .rebootToFrontPage, st => (Boot.rebootToFrontPage st).vars
  | .processBootNext options bootNext _, st =>
      (Boot.processBootNext options (some bootNext) st).2.vars

/-- The request is made by the one path that reads the field first. -/
def ReadsFirst : FirmwareUiRequest → Prop
  | .handleRebootToFrontPage _ => True
  | .rebootToFrontPage => False
  | .processBootNext _ _ _ => False

end FirmwareUiRequest

/-- OsIndications with the value `v`, as the specification defines it. -/
def osIndicationsHolding (v : BitVec 64) : Variable := ⟨osIndicationsAttrs, leBytes 8 v.toNat⟩

/-! ## What each of them writes -/

theorem leBytes_ne_nil (w n : Nat) : leBytes (w + 1) n ≠ [] := by
  intro h
  have hlength := length_leBytes (w + 1) n
  rw [h] at hlength
  cases hlength

/-- Two values of the field are the same value. -/
theorem osIndicationsHolding_inj {v w : BitVec 64} :
    osIndicationsHolding v = osIndicationsHolding w ↔ v = w := by
  refine ⟨fun h => ?_, fun h => by rw [h]⟩
  have hdata : leBytes 8 v.toNat = leBytes 8 w.toNat := congrArg Variable.data h
  have hnat := congrArg leNat hdata
  rw [leNat_leBytes 8 v.isLt, leNat_leBytes 8 w.isLt] at hnat
  exact BitVec.eq_of_toNat_eq hnat

variable {st : BootVars} {old : BitVec 64}

/-- A write to the field as it is. -/
theorem setVariable_osIndications (hold : st .osIndications = some (osIndicationsHolding old))
    {data : Bytes} (hdata : data ≠ []) :
    st.setVariable .osIndications osIndicationsAttrs data =
      (efiSuccess, Function.update st .osIndications (some ⟨osIndicationsAttrs, data⟩)) := by
  unfold VarStore.setVariable
  rw [hold, writeVariable_rewrite (by decide) (by decide) hdata (by rfl)]

/-- **The front page's action sets its bit.** -/
theorem handleRebootToFrontPage_existing (uninitialized : BitVec 64)
    (hold : st .osIndications = some (osIndicationsHolding old)) :
    handleRebootToFrontPage uninitialized st = ⟨efiSuccess, true, true,
      Function.update st .osIndications (some (osIndicationsHolding (old ||| 1#64)))⟩ := by
  have hlength : (leBytes 8 old.toNat).length = 8 := length_leBytes 8 old.toNat
  have hread : st.getVariable .osIndications 8 =
      ⟨efiSuccess, 8, some osIndicationsAttrs, leBytes 8 old.toNat⟩ := by
    unfold VarStore.getVariable
    rw [hold, readVariable_fits (show (osIndicationsHolding old).data.length ≤ 8 from hlength.le)]
    exact congrArg (fun n => ReadOutcome.mk efiSuccess n _ _) hlength
  have hvalue : BitVec.ofNat 64 (leNat (leBytes 8 old.toNat)) = old := by
    rw [leNat_leBytes 8 old.isLt, BitVec.ofNat_toNat, BitVec.setWidth_eq]
  have hlocal : leBytes 8 old.toNat ++ (leBytes 8 uninitialized.toNat).drop 8 =
      leBytes 8 old.toNat := by
    rw [List.drop_of_length_le (length_leBytes 8 _).le, List.append_nil]
  have hwhole : ∀ v : BitVec 64, (leBytes 8 v.toNat).take 8 = leBytes 8 v.toNat := fun v =>
    List.take_of_length_le (length_leBytes 8 _).le
  unfold handleRebootToFrontPage
  simp only [hread, hlength, hlocal, hvalue, hwhole, if_neg success_ne_notFound, efiError_success,
    Bool.not_false, Bool.true_or, if_true, Option.getD_some, efiOsIndicationsBootToFwUi]
  rw [setVariable_osIndications hold (leBytes_ne_nil 7 _)]
  simp only [efiError_success, Bool.not_false]
  rfl

/-- The other two write the whole field. -/
theorem rebootToFrontPage_existing (hold : st .osIndications = some (osIndicationsHolding old)) :
    (rebootToFrontPage st).vars =
      Function.update st .osIndications (some (osIndicationsHolding 1#64)) := by
  show (st.setVariable .osIndications osIndicationsAttrs (leBytes 8 1)).2 = _
  rw [setVariable_osIndications hold (leBytes_ne_nil 7 _)]
  rfl

/-- ProcessBootNext is such a write too, once the option has been tried. -/
theorem processBootNext_eq (options : LoadOptions) (bootNext : Variable)
    (h : bootNext.data.length = 2) (st : BootVars) :
    processBootNext options (some bootNext) st =
      (none, rebootToFrontPage (options.boot (leNat bootNext.data) st)) := by
  have hdata : bootNext.data ≠ [] := fun hnil => by
    rw [hnil] at h
    cases h
  have hfetch := VarService.getVariable3_fetches hdata
    (show VarService.SizingAnswers ⟨some bootNext, [], []⟩ from fun e he => nomatch he) rfl
  unfold processBootNext
  simp only [VarService.getVariable2, VarService.reliable, hfetch, h, ne_eq, not_true_eq_false,
    if_false, writeVariable_delete]
  rfl

/-! ## What is left of the other requests -/

/-- A field that is a flag is the field it was with the flag set, if there was nothing else. -/
theorem flag_eq_or_flag_iff (old flag : BitVec 64) :
    flag = old ||| flag ↔ old &&& ~~~flag = 0#64 := by
  rw [BitVec.eq_of_getLsbD_eq_iff, BitVec.eq_of_getLsbD_eq_iff]
  apply forall_congr'
  intro i
  apply imp_congr_right
  intro hi
  rw [BitVec.getLsbD_or, BitVec.getLsbD_and, BitVec.getLsbD_not, decide_eq_true hi,
    BitVec.getLsbD_zero]
  cases old.getLsbD i <;> cases flag.getLsbD i <;> simp

/-- **When the pending requests are kept.** A request for the firmware UI leaves OsIndications with
its bit set and every other bit as it was exactly if it is the front page's action, or if no other
bit was set. -/
theorem keeps_requests_iff (r : FirmwareUiRequest) (st : BootVars) (old : BitVec 64)
    (hold : r.pending st .osIndications = some (osIndicationsHolding old)) :
    r.after st .osIndications = some (osIndicationsHolding (old ||| 1#64)) ↔
      r.ReadsFirst ∨ old &&& ~~~1#64 = 0#64 := by
  have hwhole : ∀ st' : BootVars, st' .osIndications = some (osIndicationsHolding old) →
      ((rebootToFrontPage st').vars .osIndications = some (osIndicationsHolding (old ||| 1#64)) ↔
        old &&& ~~~1#64 = 0#64) := by
    intro st' hold'
    rw [rebootToFrontPage_existing hold', Function.update_self, Option.some.injEq,
      osIndicationsHolding_inj]
    exact flag_eq_or_flag_iff old 1#64
  cases r with
  | handleRebootToFrontPage uninitialized =>
      refine ⟨fun _ => Or.inl trivial, fun _ => ?_⟩
      have hold' : st .osIndications = some (osIndicationsHolding old) := hold
      show (handleRebootToFrontPage uninitialized st).vars .osIndications = _
      simp only [handleRebootToFrontPage_existing uninitialized hold', Function.update_self]
  | rebootToFrontPage =>
      rw [FirmwareUiRequest.ReadsFirst, false_or]
      exact hwhole st hold
  | processBootNext options bootNext h =>
      rw [FirmwareUiRequest.ReadsFirst, false_or, FirmwareUiRequest.after,
        processBootNext_eq options bootNext h]
      exact hwhole _ hold

/-- EFI_OS_INDICATIONS_FILE_CAPSULE_DELIVERY_SUPPORTED, a capsule on disk that waits to be
processed. -/
def capsuleDelivery : BitVec 64 := 4#64

/-- Variables in which the operating system has announced a capsule. -/
def capsulePending : BootVars :=
  Function.update (fun _ => none) .osIndications (some (osIndicationsHolding capsuleDelivery))

/-- The front page's action keeps a pending capsule. -/
theorem keeps_requests_capsule :
    (FirmwareUiRequest.handleRebootToFrontPage 7#64).after capsulePending .osIndications =
      some (osIndicationsHolding 5#64) :=
  (keeps_requests_iff (.handleRebootToFrontPage 7#64) capsulePending capsuleDelivery (by rfl)).mpr
    (Or.inl trivial)

/-- A boot that fails while a capsule is pending loses it. -/
theorem loses_capsule :
    ¬ ∀ (r : FirmwareUiRequest) (st : BootVars) (old : BitVec 64),
      r.pending st .osIndications = some (osIndicationsHolding old) →
      r.after st .osIndications = some (osIndicationsHolding (old ||| 1#64)) := by
  intro hkeeps
  have h := hkeeps .rebootToFrontPage capsulePending capsuleDelivery (by rfl)
  exact absurd h (by decide)

end OemPkg.Boot
