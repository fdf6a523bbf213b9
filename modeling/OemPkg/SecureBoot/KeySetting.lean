/-
# OemPkg.SecureBoot.KeySetting — the key setting, as its users see it

The provider of the Secure Boot setting (`MsSecureBootModeSettingLib/SecureBootModeSetting.c`) has
four functions. ModeSetting.lean has SecureBootModeSet and the dialog of the front page that leads to
it; here are the other three, and runs of all of them, with libraries that may fail.

The setting is a register, but not one that every successful call writes: a call that fails may have
deleted the keys. `get_reads_last` says what SecureBootModeGet returns after any run.
-/
import OemPkg.Lib.Machine
import OemPkg.SecureBoot.ModeSetting

namespace OemPkg.SecureBoot

open OemPkg.Lib OemPkg.Uefi OemPkg.Settings

/-! ## The other functions -/

/-- What the caller passes to SecureBootModeGet: the provider with its id, `*ValueSize`, and whether
Value is NULL. -/
structure GetRequest where
  this : Option (Option (List UInt8))
  valueSize : Option Nat
  valueNull : Bool

/-- What it gets: the status, `*ValueSize` and `*Value` if they are written. -/
structure GetAnswer where
  status : EfiStatus
  valueSize : Option Nat
  value : Option UInt8

/-- The libraries, and what their successes mean to GetCurrentSecureBootConfig. -/
structure KeyLibs (σ : Type*) extends SecureBootLibs σ where
  deletes : ∀ s, efiError (deleteSecureBootVariables s).1 = false →
    getCurrentSecureBootConfig (deleteSecureBootVariables s).2 = muSbConfigNone.toNat
  sets : ∀ i s, efiError (setSecureBootConfig i s).1 = false →
    getCurrentSecureBootConfig (setSecureBootConfig i s).2 = i.toNat

section KeySetting

variable {σ : Type*} (H : DfciSettingsH) (L : KeyLibs σ)

/-- The tests of SecureBootModeGet and SecureBootModeGetDefault, before `value` is returned. -/
def getChecked (request : GetRequest) (value : UInt8) : GetAnswer :=
  match request.this, request.valueSize with
  | some (some id), some valueSize =>
      if request.valueNull then ⟨efiInvalidParameter, none, none⟩
      else if valueSize < 1 then ⟨efiBufferTooSmall, some 1, none⟩
      else if !asciiStrnCmpEq id H.secureBootKeysEnum H.maxIdLen then ⟨efiUnsupported, none, none⟩
      else ⟨efiSuccess, some 1, some value⟩
  | _, _ => ⟨efiInvalidParameter, none, none⟩

/-- SecureBootModeGetDefault -/
def secureBootModeGetDefault (request : GetRequest) : GetAnswer :=
  getChecked H request L.muSbConfigNone

/-- SecureBootModeGet, which casts the configuration to a UINT8. -/
def secureBootModeGet (request : GetRequest) (s : σ) : GetAnswer :=
  getChecked H request (UInt8.ofNat (L.getCurrentSecureBootConfig s))

/-- SecureBootModeSetDefault. Its flags are a local variable. -/
def secureBootModeSetDefault (this : Option (Option (List UInt8))) (s : σ) : EfiStatus × σ :=
  match this with
  | some (some id) =>
      if !asciiStrnCmpEq id H.secureBootKeysEnum H.maxIdLen then (efiUnsupported, s)
      else
        let default := secureBootModeGetDefault H L ⟨this, some 1, false⟩
        if efiError default.status then (default.status, s)
        else
          let ((status, _), s) :=
            secureBootModeSet H L.toSecureBootLibs ⟨this, 1, some (default.value.getD 0)⟩ s
          (status, s)
  | _ => (efiInvalidParameter, s)

/-- The calls that may change the setting, and those that read it. -/
inductive KeyCall where
  | set (request : SetRequest)
  | setDefault (this : Option (Option (List UInt8)))
  | get (request : GetRequest)
  | getDefault (request : GetRequest)
  | dialog (refused : Option { e : EfiStatus // efiError e = true }) (keysCount : UInt8)
      (ui : SecureBootDialog)

/-- What they answer. -/
inductive KeyAnswer where
  | status (status : EfiStatus) (flags : DfciSettingFlags)
  | value (answer : GetAnswer)
  | outcome (outcome : SecureBootOutcome)

/-- The setting. -/
def keySetting : Machine σ KeyCall KeyAnswer where
  step s
    | .set request =>
        let ((status, flags), s) := secureBootModeSet H L.toSecureBootLibs request s
        (s, .status status flags)
    | .setDefault this =>
        let (status, s) := secureBootModeSetDefault H L this s
        (s, .status status {})
    | .get request => (s, .value (secureBootModeGet H L request s))
    | .getDefault request => (s, .value (secureBootModeGetDefault H L request))
    | .dialog refused keysCount ui =>
        let (outcome, s) :=
          handleSecureBootChange H L.toSecureBootLibs (settingAccess refused) keysCount ui s
        (s, .outcome outcome)

/-! ## What a call puts in force -/

instance decidableExists (value : UInt8) : Decidable (Exists L.toSecureBootLibs value) :=
  inferInstanceAs (Decidable (_ ∨ _))

/-- The configuration a Set asks for, if it is well formed and meant for this provider. -/
def SetRequest.asks (request : SetRequest) : Option UInt8 :=
  match request.this, request.value with
  | some (some id), some value =>
      if request.valueSize = 1 ∧ asciiStrnCmpEq id H.secureBootKeysEnum H.maxIdLen = true then
        some value
      else none
  | _, _ => none

/-- The configuration a call asks for, if it gets through to the setting. -/
def KeyCall.asks : KeyCall → Option UInt8
  | .set request => request.asks H
  | .setDefault this => SetRequest.asks H ⟨this, 1, some L.muSbConfigNone⟩
  | .get _ | .getDefault _ => none
  | .dialog refused keysCount ui =>
      if refused.isNone && submitted ui then some (requestedValue L.toSecureBootLibs keysCount ui)
      else none

/-- A change to `value` begins: it exists, it is not in force yet, and the keys can be deleted. -/
def Begins (value : UInt8) (s : σ) : Prop :=
  efiError L.getPlatformKeyStore.1 = false ∧ Exists L.toSecureBootLibs value ∧
    L.getCurrentSecureBootConfig s ≠ value.toNat ∧ efiError (L.deleteSecureBootVariables s).1 = false

instance decidableBegins (value : UInt8) (s : σ) : Decidable (Begins L value s) :=
  inferInstanceAs (Decidable (_ ∧ _ ∧ _ ∧ _))

/-- The keys of `value` cannot be written where the others have been deleted. -/
def Breaks (value : UInt8) (s : σ) : Prop :=
  value < L.getPlatformKeyStore.2 ∧
    efiError (L.setSecureBootConfig value (L.deleteSecureBootVariables s).2).1 = true

instance decidableBreaks (value : UInt8) (s : σ) : Decidable (Breaks L value s) :=
  inferInstanceAs (Decidable (_ ∧ _))

/-- The configuration that a request for `value` puts in force: itself, or none if the change breaks
off. -/
def putsInForce (value : UInt8) (s : σ) : Option UInt8 :=
  if Begins L value s then some (if Breaks L value s then L.muSbConfigNone else value) else none

/-- What the call puts in force. -/
def KeyCall.putsInForce (s : σ) (call : KeyCall) : Option UInt8 :=
  (call.asks H L).bind fun value => SecureBoot.putsInForce L value s

variable {H L}

theorem putsInForce_of_not {value : UInt8} {s : σ} (h : ¬ Begins L value s) :
    putsInForce L value s = none := if_neg h

theorem applyKeys_inForce {value : UInt8} {s : σ} (hstore : efiError L.getPlatformKeyStore.1 = false)
    (hchanges : L.getCurrentSecureBootConfig s ≠ value.toNat) :
    L.getCurrentSecureBootConfig (applyKeys L.toSecureBootLibs value s).2 =
      ((putsInForce L value s).map UInt8.toNat).getD (L.getCurrentSecureBootConfig s) := by
  cases hdelete : efiError (L.deleteSecureBootVariables s).1 with
  | true =>
      -- nothing was deleted, and nothing is written after that
      have hsame : (L.deleteSecureBootVariables s).2 = s := L.deleteFails s hdelete
      have hstate : (applyKeys L.toSecureBootLibs value s).2 = s := by
        unfold applyKeys
        split_ifs
        · simp only [hdelete, if_true]
          exact hsame
        · exact hsame
        · rfl
      have hnot : ¬ Begins L value s :=
        fun h => Bool.false_ne_true (h.2.2.2.symm.trans hdelete)
      rw [hstate, putsInForce_of_not hnot]
      rfl
  | false =>
      have hnone := L.deletes s hdelete
      by_cases hindex : value < L.getPlatformKeyStore.2
      · have hbegins : Begins L value s := ⟨hstore, .inl hindex, hchanges, hdelete⟩
        have happly : applyKeys L.toSecureBootLibs value s =
            L.setSecureBootConfig value (L.deleteSecureBootVariables s).2 := by
          rw [applyKeys, if_pos hindex]
          exact if_neg (Bool.eq_false_iff.mp hdelete)
        rw [putsInForce, if_pos hbegins, happly]
        by_cases hbreaks : Breaks L value s
        · -- the keys are gone: what is in force is no configuration
          rw [if_pos hbreaks, L.setFails value _ hbreaks.2]
          exact hnone
        · rw [if_neg hbreaks]
          exact L.sets value _ (Bool.eq_false_of_not_eq_true fun herror => hbreaks ⟨hindex, herror⟩)
      · have hwhole : ¬ Breaks L value s := fun h => hindex h.1
        rw [applyKeys, if_neg hindex, putsInForce, if_neg hwhole]
        by_cases hvalue : value = L.muSbConfigNone
        · have hbegins : Begins L value s := ⟨hstore, .inr hvalue, hchanges, hdelete⟩
          rw [if_pos hvalue, if_pos hbegins, hvalue]
          exact hnone
        · have hnot : ¬ Begins L value s := fun h => h.2.1.elim hindex hvalue
          rw [if_neg hvalue, if_neg hnot]
          rfl

/-- **SecureBootModeSet**, for every request. -/
theorem secureBootModeSet_inForce (request : SetRequest) (s : σ) :
    L.getCurrentSecureBootConfig (secureBootModeSet H L.toSecureBootLibs request s).2 =
      (((request.asks H).bind fun value => putsInForce L value s).map UInt8.toNat).getD
        (L.getCurrentSecureBootConfig s) := by
  obtain ⟨this, valueSize, value⟩ := request
  unfold secureBootModeSet SetRequest.asks
  rcases this with _ | _ | id
  · rfl
  · rfl
  rcases value with _ | value
  · rfl
  dsimp only
  by_cases hsize : valueSize = 1
  case neg => rw [if_pos hsize, if_neg fun h => hsize h.1]; rfl
  rw [if_neg (not_not.mpr hsize)]
  cases hstore : efiError L.getPlatformKeyStore.1 with
  | true =>
      have hnot : ∀ value, putsInForce L value s = none :=
        fun value => putsInForce_of_not fun h => Bool.false_ne_true (h.1.symm.trans hstore)
      simp only [hnot, Option.bind_fun_none]
      rfl
  | false =>
      rw [if_neg Bool.false_ne_true]
      cases hid : asciiStrnCmpEq id H.secureBootKeysEnum H.maxIdLen with
      | false =>
          rw [if_pos (show (!false) = true from rfl), if_neg fun h => Bool.noConfusion h.2]
          rfl
      | true =>
          rw [if_neg (show ¬ (!true) = true from Bool.false_ne_true),
            if_pos (show valueSize = 1 ∧ true = true from ⟨hsize, rfl⟩), Option.bind_some]
          -- beyond the last index, and not the value for no keys
          by_cases hreject : L.getPlatformKeyStore.2 < value ∧ value ≠ L.muSbConfigNone
          · have hnot : ¬ Begins L value s := fun h => h.2.1.elim
              (fun hlt => UInt8.lt_irrefl _ (UInt8.lt_trans hlt hreject.1)) hreject.2
            rw [if_pos hreject, putsInForce_of_not hnot]
            rfl
          rw [if_neg hreject]
          by_cases hcurrent : L.getCurrentSecureBootConfig s = value.toNat
          · have hnot : ¬ Begins L value s := fun h => h.2.2.1 hcurrent
            rw [if_pos hcurrent, putsInForce_of_not hnot]
            rfl
          · rw [if_neg hcurrent]
            exact applyKeys_inForce hstore hcurrent

theorem secureBootModeSetDefault_inForce (this : Option (Option (List UInt8))) (s : σ) :
    L.getCurrentSecureBootConfig (secureBootModeSetDefault H L this s).2 =
      (((KeyCall.setDefault this).putsInForce H L s).map UInt8.toNat).getD
        (L.getCurrentSecureBootConfig s) := by
  rcases this with _ | _ | id
  · rfl
  · rfl
  cases hid : asciiStrnCmpEq id H.secureBootKeysEnum H.maxIdLen with
  | false =>
      have hasks : KeyCall.asks H L (.setDefault (some (some id))) = none :=
        if_neg fun h => Bool.false_ne_true (hid.symm.trans h.2)
      simp only [secureBootModeSetDefault, hid, Bool.not_false, if_true, KeyCall.putsInForce, hasks]
      rfl
  | true =>
      have hdefault : secureBootModeGetDefault H L ⟨some (some id), some 1, false⟩ =
          ⟨efiSuccess, some 1, some L.muSbConfigNone⟩ := by
        simp [secureBootModeGetDefault, getChecked, hid]
      have hset := secureBootModeSet_inForce (H := H) (L := L)
        ⟨some (some id), 1, some L.muSbConfigNone⟩ s
      simp only [secureBootModeSetDefault, hid, hdefault, Bool.not_true, Bool.false_eq_true,
        if_false, efiError_success, Option.getD_some]
      exact hset

/-- What the front page asks for is well formed. -/
theorem asks_ownId (value : UInt8) :
    SetRequest.asks H ⟨some (some H.secureBootKeysEnum), 1, some value⟩ = some value :=
  if_pos ⟨rfl, beq_self_eq_true _⟩

theorem handleSecureBootChange_inForce (refused : Option { e : EfiStatus // efiError e = true })
    (keysCount : UInt8) (ui : SecureBootDialog) (s : σ) :
    L.getCurrentSecureBootConfig
        (handleSecureBootChange H L.toSecureBootLibs (settingAccess refused) keysCount ui s).2 =
      (((KeyCall.dialog refused keysCount ui).putsInForce H L s).map UInt8.toNat).getD
        (L.getCurrentSecureBootConfig s) := by
  have hset := secureBootModeSet_inForce (H := H) (L := L)
    ⟨some (some H.secureBootKeysEnum), 1, some (requestedValue L.toSecureBootLibs keysCount ui)⟩ s
  rw [asks_ownId] at hset
  unfold handleSecureBootChange KeyCall.putsInForce KeyCall.asks
  by_cases halloc : ui.allocated = true
  · cases hsub : submitted ui with
    | true =>
        cases refused with
        | none =>
            simp only [halloc, hsub, Bool.not_true, Bool.false_eq_true, if_false, if_true,
              settingAccess, Option.isNone_none, Bool.and_self]
            exact hset
        | some e =>
            simp only [halloc, Bool.not_true, Bool.false_eq_true, if_false, if_true,
              settingAccess, Option.isNone_some, Bool.false_and]
            rfl
    | false =>
        simp only [halloc, hsub, Bool.not_true, Bool.false_eq_true, if_false, Bool.and_false]
        rfl
  · have hsub : submitted ui = false := by simp [submitted, halloc]
    simp only [halloc, hsub, Bool.not_false, if_true, Bool.and_false, Bool.false_eq_true, if_false]
    rfl

/-- **One call.** -/
theorem step_inForce (s : σ) (call : KeyCall) :
    L.getCurrentSecureBootConfig ((keySetting H L).step s call).1 =
      ((call.putsInForce H L s).map UInt8.toNat).getD (L.getCurrentSecureBootConfig s) := by
  cases call with
  | set request => exact secureBootModeSet_inForce request s
  | get request => rfl
  | getDefault request => rfl
  | setDefault this =>
      exact secureBootModeSetDefault_inForce this s
  | dialog refused keysCount ui =>
      exact handleSecureBootChange_inForce refused keysCount ui s

/-! ## Every run -/

variable (H L) in
/-- **The setting reads what was put in force last.** After every run of calls and dialogs,
whichever of them are refused, malformed or fail, SecureBootModeGet returns the value of the last
call that put one in force, be it none because a write failed after the keys were deleted; if no
call did, the configuration from before. -/
theorem get_reads_last (calls : List KeyCall) (s : σ) :
    secureBootModeGet H L ⟨some (some H.secureBootKeysEnum), some 1, false⟩
        ((keySetting H L).run s calls) =
      ⟨efiSuccess, some 1, some (((keySetting H L).lastAlong (fun s call => call.putsInForce H L s) s
        calls).getD (UInt8.ofNat (L.getCurrentSecureBootConfig s)))⟩ := by
  have hrun := (keySetting H L).run_last (I := fun _ => True)
    (fun s => some (UInt8.ofNat (L.getCurrentSecureBootConfig s)))
    (fun s call => call.putsInForce H L s) (fun _ _ _ => trivial)
    (fun s call _ => by
      rw [step_inForce]
      cases call.putsInForce H L s with
      | none => rfl
      | some value => exact congrArg some (UInt8.ofNat_toNat)) calls (s := s) trivial
  have hid : asciiStrnCmpEq H.secureBootKeysEnum H.secureBootKeysEnum H.maxIdLen = true :=
    beq_self_eq_true _
  have hget : secureBootModeGet H L ⟨some (some H.secureBootKeysEnum), some 1, false⟩
      ((keySetting H L).run s calls) =
        ⟨efiSuccess, some 1,
          some (UInt8.ofNat (L.getCurrentSecureBootConfig ((keySetting H L).run s calls)))⟩ := by
    simp [secureBootModeGet, getChecked, hid]
  rw [hget, hrun]
  cases (keySetting H L).lastAlong (fun s call => call.putsInForce H L s) s calls <;> rfl

end KeySetting

/-- The platform with two key sets. -/
def twoKeyLibs (full : Bool) : KeyLibs (Option UInt8) where
  toSecureBootLibs := twoKeySets full
  deletes _ _ := rfl
  sets i s h := by
    cases full with
    | true => exact absurd (show efiError efiOutOfResources = false from h) (by decide)
    | false => rfl

/-- Key set 0 is in force and the flash is full. The user picks key set 1, which cannot be written;
then SecureBootModeGet says that there are no keys. -/
theorem get_reads_last_full :
    (secureBootModeGet ⟨[1], 96⟩ (twoKeyLibs true) ⟨some (some [1]), some 1, false⟩
      ((keySetting ⟨[1], 96⟩ (twoKeyLibs true)).run (some 0) [.dialog none 2 pickSecond])).value =
        some 255 := by
  rw [get_reads_last ⟨[1], 96⟩ (twoKeyLibs true) [.dialog none 2 pickSecond] (some 0)]
  decide

end OemPkg.SecureBoot
