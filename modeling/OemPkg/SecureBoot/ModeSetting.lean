/-
# OemPkg.SecureBoot.ModeSetting — changing the Secure Boot keys

The model of SecureBootModeSet (`MsSecureBootModeSettingLib/SecureBootModeSetting.c`) and of its
caller in the front page, HandleSecureBootChange (`FrontPage/FrontPageUi.c`). The Secure Boot
variables are a state `σ` about which nothing is assumed; the libraries that act on it are the
fields of `SecureBootLibs`, each of which changes nothing when it fails.

A change to one of the platform's key sets is a deletion followed by a write, with nothing to undo
the deletion: `handleSecureBootChange_allOrNothing_iff` says when a failure is harmless. Which
values can be asked for is tested twice, with two comparisons that disagree about the number of key
sets: `secureBootModeSet_accepts_iff`.
-/
import OemPkg.Lib.Fallible
import OemPkg.Settings.BootManagerSettings

namespace OemPkg.SecureBoot

open OemPkg.Lib OemPkg.Uefi OemPkg.Settings

/-! ## SecureBootModeSet -/

/-- The libraries behind the setting. -/
structure SecureBootLibs (σ : Type*) where
  /-- GetPlatformKeyStore: the status, and the number of payloads -/
  getPlatformKeyStore : EfiStatus × UInt8
  /-- GetCurrentSecureBootConfig, a `UINTN` -/
  getCurrentSecureBootConfig : σ → Nat
  deleteSecureBootVariables : σ → EfiStatus × σ
  setSecureBootConfig : UInt8 → σ → EfiStatus × σ
  /-- MU_SB_CONFIG_NONE -/
  muSbConfigNone : UInt8
  deleteFails : ∀ s, AllOrNothingAt efiError deleteSecureBootVariables s
  setFails : ∀ i s, AllOrNothingAt efiError (setSecureBootConfig i) s

/-- The header constants SecureBootModeSet compares the provider's id with. -/
structure DfciSettingsH where
  /-- DFCI_SETTING_ID__SECURE_BOOT_KEYS_ENUM -/
  secureBootKeysEnum : List UInt8
  /-- DFCI_MAX_ID_LEN -/
  maxIdLen : Nat

/-- AsciiStrnCmp (a, b, n) == 0, for NUL-terminated strings given by their characters. -/
def asciiStrnCmpEq (a b : List UInt8) (n : Nat) : Bool := a.take n == b.take n

/-- What the caller passes to SecureBootModeSet besides Flags, NULL pointers being `none`: the
provider with its id, the size of the value, and the value. -/
structure SetRequest where
  this : Option (Option (List UInt8))
  valueSize : Nat
  value : Option UInt8

section ModeSet

variable {σ : Type*} (H : DfciSettingsH) (L : SecureBootLibs σ)

/-- The two-step part of SecureBootModeSet, from the deletion on. -/
def applyKeys (value : UInt8) (s : σ) : EfiStatus × σ :=
  if value < L.getPlatformKeyStore.2 then
    -- clear out any variables that may already be set; if still good to go, do the do
    let (status, s) := L.deleteSecureBootVariables s
    if efiError status then (status, s) else L.setSecureBootConfig value s
  else if value = L.muSbConfigNone then L.deleteSecureBootVariables s
  else (efiAborted, s)

/-- SecureBootModeSet: the status, the flags it reports, and the variables afterwards. -/
def secureBootModeSet (request : SetRequest) (s : σ) : (EfiStatus × DfciSettingFlags) × σ :=
  match request.this, request.value with
  | some (some id), some value =>
      if request.valueSize ≠ 1 then ((efiBadBufferSize, {}), s)
      else if efiError L.getPlatformKeyStore.1 then ((L.getPlatformKeyStore.1, {}), s)
      else if !asciiStrnCmpEq id H.secureBootKeysEnum H.maxIdLen then ((efiUnsupported, {}), s)
      else if L.getPlatformKeyStore.2 < value ∧ value ≠ L.muSbConfigNone then
        ((efiInvalidParameter, {}), s)
      else if L.getCurrentSecureBootConfig s = value.toNat then
        ((efiSuccess, { alreadySet := true }), s)
      else
        let (status, s) := applyKeys L value s
        ((status, { rebootRequired := true }), s)
  | _, _ => ((efiInvalidParameter, {}), s)

/-! ## HandleSecureBootChange -/

/-- What the dialog and the services of HandleSecureBootChange answer. -/
structure SecureBootDialog where
  /-- AllocatePool for the option strings succeeds -/
  allocated : Bool
  /-- SwmDialogsSelectPrompt: the status, whether the result is SWM_MB_IDOK, and the index -/
  status : EfiStatus
  idOk : Bool
  selectedIndex : Nat

/-- What HandleSecureBootChange does besides its call to the setting. -/
structure SecureBootOutcome where
  status : EfiStatus
  /-- `*ActionRequest` is set to FORM_APPLY -/
  formApply : Bool
  /-- the message box of a failed update is shown -/
  failureShown : Bool
  /-- mResetRequired is set -/
  resetRequired : Bool
  deriving DecidableEq

/-- SafeUintnToUint8 succeeds on the selected index of a submitted form. -/
def submitted (ui : SecureBootDialog) : Bool :=
  ui.allocated && !efiError ui.status && ui.idOk && decide (ui.selectedIndex < 256)

/-- The value a submitted form asks for: the entry after the last key set is "none". -/
def requestedValue (keysCount : UInt8) (ui : SecureBootDialog) : UInt8 :=
  let value := UInt8.ofNat ui.selectedIndex
  if value = keysCount then L.muSbConfigNone else value

/-- HandleSecureBootChange, for `mSecureBootKeysCount` key sets. The settings access protocol is
`access`: it is given the provider's Set and hands back what it answers. -/
def handleSecureBootChange (access : (σ → EfiStatus × σ) → σ → EfiStatus × σ) (keysCount : UInt8)
    (ui : SecureBootDialog) (s : σ) : SecureBootOutcome × σ :=
  if !ui.allocated then (⟨efiOutOfResources, false, false, false⟩, s)
  else if submitted ui then
    let value := requestedValue L keysCount ui
    let provider := fun s =>
      let ((status, _), s) :=
        secureBootModeSet H L ⟨some (some H.secureBootKeysEnum), 1, some value⟩ s
      (status, s)
    let (status, s) := access provider s
    (⟨status, !efiError status, efiError status, true⟩, s)
  else (⟨ui.status, false, false, true⟩, s)

/-- The settings manager behind the setting access protocol: it hands the call to the provider, or
refuses it. -/
def settingAccess (refused : Option { e : EfiStatus // efiError e = true })
    (provider : σ → EfiStatus × σ) (s : σ) : EfiStatus × σ :=
  match refused with
  | none => provider s
  | some e => (e.1, s)

/-! ## When a failure is harmless -/

/-- The change fails halfway: the keys have been deleted, the new ones could not be written. -/
structure FailsHalfway (value : UInt8) (s : σ) : Prop where
  store : efiError L.getPlatformKeyStore.1 = false
  names : value < L.getPlatformKeyStore.2
  changes : L.getCurrentSecureBootConfig s ≠ value.toNat
  deleted : efiError (L.deleteSecureBootVariables s).1 = false
  unwritten : efiError (L.setSecureBootConfig value (L.deleteSecureBootVariables s).2).1 = true
  lost : (L.deleteSecureBootVariables s).2 ≠ s

variable {H L}

/-- A change to a key set is a deletion and then a write. -/
theorem applyKeys_allOrNothing_iff (value : UInt8) (s : σ) :
    AllOrNothingAt efiError (applyKeys L value) s ↔
      ¬ (value < L.getPlatformKeyStore.2 ∧ efiError (L.deleteSecureBootVariables s).1 = false ∧
        efiError (L.setSecureBootConfig value (L.deleteSecureBootVariables s).2).1 = true ∧
        (L.deleteSecureBootVariables s).2 ≠ s) := by
  by_cases hindex : value < L.getPlatformKeyStore.2
  · have hseq : applyKeys L value =
        andThen efiError L.deleteSecureBootVariables (L.setSecureBootConfig value) := by
      funext s
      simp only [applyKeys, hindex, if_true, andThen]
    rw [hseq, andThen_allOrNothing_iff (L.deleteFails s) (L.setFails value _)]
    simp only [hindex, true_and]
  · simp only [hindex, false_and, not_false_eq_true, iff_true]
    by_cases hnone : value = L.muSbConfigNone
    · have hdelete : applyKeys L value = L.deleteSecureBootVariables := by
        funext s
        rw [applyKeys, if_neg hindex, if_pos hnone]
      rw [hdelete]
      exact L.deleteFails s
    · exact allOrNothingAt_of_unchanged (by simp only [applyKeys, hindex, if_false, hnone])

/-- SecureBootModeSet behind its tests of pointers, sizes and the id. -/
theorem secureBootModeSet_request (hstore : efiError L.getPlatformKeyStore.1 = false)
    (value : UInt8) (s : σ) :
    secureBootModeSet H L ⟨some (some H.secureBootKeysEnum), 1, some value⟩ s =
      if L.getPlatformKeyStore.2 < value ∧ value ≠ L.muSbConfigNone then
        ((efiInvalidParameter, {}), s)
      else if L.getCurrentSecureBootConfig s = value.toNat then
        ((efiSuccess, { alreadySet := true }), s)
      else (((applyKeys L value s).1, { rebootRequired := true }), (applyKeys L value s).2) := by
  have hid : asciiStrnCmpEq H.secureBootKeysEnum H.secureBootKeysEnum H.maxIdLen = true :=
    beq_self_eq_true _
  simp only [secureBootModeSet, ne_eq, not_true_eq_false, if_false, hstore, Bool.false_eq_true, hid,
    Bool.not_true]

/-- **SecureBootModeSet is all-or-nothing unless it fails halfway.** -/
theorem secureBootModeSet_allOrNothing_iff (value : UInt8) (s : σ) :
    AllOrNothingAt efiError
        (fun s => let r := secureBootModeSet H L ⟨some (some H.secureBootKeysEnum), 1, some value⟩ s
          (r.1.1, r.2)) s ↔
      ¬ FailsHalfway L value s := by
  by_cases hstore : efiError L.getPlatformKeyStore.1 = true
  · refine ⟨fun _ h => Bool.false_ne_true (h.store.symm.trans hstore), fun _ => ?_⟩
    exact allOrNothingAt_of_unchanged (by simp only [secureBootModeSet, ne_eq, not_true_eq_false,
      if_false, hstore, if_true])
  · have hstore : efiError L.getPlatformKeyStore.1 = false := Bool.eq_false_of_not_eq_true hstore
    unfold AllOrNothingAt
    simp only [secureBootModeSet_request hstore]
    by_cases hreject : L.getPlatformKeyStore.2 < value ∧ value ≠ L.muSbConfigNone
    · simp only [if_pos hreject, implies_true, true_iff]
      exact fun h => UInt8.lt_irrefl _ (UInt8.lt_trans h.names hreject.1)
    by_cases hset : L.getCurrentSecureBootConfig s = value.toNat
    · simp only [if_neg hreject, if_pos hset, implies_true, true_iff]
      exact fun h => h.changes hset
    · have happly := applyKeys_allOrNothing_iff (L := L) value s
      unfold AllOrNothingAt at happly
      simp only [if_neg hreject, if_neg hset, happly]
      refine not_congr ⟨fun ⟨hn, hd, hu, hl⟩ => ⟨hstore, hn, hset, hd, hu, hl⟩, fun h => ?_⟩
      exact ⟨h.names, h.deleted, h.unwritten, h.lost⟩

/-- **When a failed Secure Boot change leaves the variables as they were.** Over every dialog and
every key store: exactly when no submitted form asks for a change that fails halfway. -/
theorem handleSecureBootChange_allOrNothing_iff
    {access : (σ → EfiStatus × σ) → σ → EfiStatus × σ}
    (haccess : ∀ provider s, access provider s = provider s) (keysCount : UInt8)
    (ui : SecureBootDialog) (s : σ) :
    (efiError (handleSecureBootChange H L access keysCount ui s).1.status = true →
        (handleSecureBootChange H L access keysCount ui s).2 = s) ↔
      ¬ (submitted ui = true ∧ FailsHalfway L (requestedValue L keysCount ui) s) := by
  by_cases halloc : ui.allocated = true
  · by_cases hsub : submitted ui = true
    · have hset := secureBootModeSet_allOrNothing_iff (H := H) (L := L)
        (requestedValue L keysCount ui) s
      unfold AllOrNothingAt at hset
      simp only [handleSecureBootChange, halloc, Bool.not_true, Bool.false_eq_true, if_false, hsub,
        if_true, haccess, true_and]
      exact hset
    · simp only [handleSecureBootChange, halloc, Bool.not_true, Bool.false_eq_true, if_false, hsub,
        implies_true, false_and, not_false_eq_true]
  · have hsub : submitted ui = false := by simp [submitted, halloc]
    simp only [handleSecureBootChange, halloc, Bool.not_false, if_true, implies_true, hsub,
      Bool.false_eq_true, false_and, not_false_eq_true]

end ModeSet

/-- A platform with two key sets, whose variables are the key set installed; the write of a new one
fails when the flash is full. -/
def twoKeySets (full : Bool) : SecureBootLibs (Option UInt8) where
  getPlatformKeyStore := (efiSuccess, 2)
  getCurrentSecureBootConfig s := (s.getD 255).toNat
  deleteSecureBootVariables _ := (efiSuccess, none)
  setSecureBootConfig i s := if full then (efiOutOfResources, s) else (efiSuccess, some i)
  muSbConfigNone := 255
  deleteFails _ h := by simp at h
  setFails i s h := by
    cases full with
    | true => rfl
    | false => simp at h

/-- The user picks the second entry and presses OK. -/
def pickSecond : SecureBootDialog := ⟨true, efiSuccess, true, 1⟩

theorem handleSecureBootChange_allOrNothing_iff_full :
    let r := handleSecureBootChange ⟨[1], 96⟩ (twoKeySets true) (fun provider s => provider s) 2
      pickSecond none
    efiError r.1.status = true ∧ r.2 = none := by
  intro r
  have hfail : efiError r.1.status = true := by decide
  refine ⟨hfail, (handleSecureBootChange_allOrNothing_iff (fun _ _ => rfl) 2 pickSecond none).mpr
    ?_ hfail⟩
  exact fun h => h.2.lost rfl

/-- With key set 0 installed and the flash full, picking key set 1 fails and leaves none. -/
theorem handleSecureBootChange_loses_keys :
    ¬ ∀ (L : SecureBootLibs (Option UInt8)) (keysCount : UInt8) (ui : SecureBootDialog)
      (s : Option UInt8),
      efiError (handleSecureBootChange ⟨[1], 96⟩ L (fun provider s => provider s) keysCount ui
        s).1.status = true →
      (handleSecureBootChange ⟨[1], 96⟩ L (fun provider s => provider s) keysCount ui s).2 = s := by
  intro hsafe
  exact absurd (hsafe (twoKeySets true) 2 pickSecond (some 0) (by decide)) (by decide)

/-! ## Which configurations are accepted -/

section Accepted

variable {σ : Type*} {H : DfciSettingsH} {L : SecureBootLibs σ}

/-- Services that succeed, and do what they are for. -/
structure SecureBootLibs.Working (L : SecureBootLibs σ) : Prop where
  store : efiError L.getPlatformKeyStore.1 = false
  deletes : ∀ s, (L.deleteSecureBootVariables s).1 = efiSuccess ∧
    L.getCurrentSecureBootConfig (L.deleteSecureBootVariables s).2 = L.muSbConfigNone.toNat
  sets : ∀ i s, i < L.getPlatformKeyStore.2 → (L.setSecureBootConfig i s).1 = efiSuccess ∧
    L.getCurrentSecureBootConfig (L.setSecureBootConfig i s).2 = i.toNat

/-- The configurations that exist: the key sets of the store, and none. -/
def Exists (L : SecureBootLibs σ) (value : UInt8) : Prop :=
  value < L.getPlatformKeyStore.2 ∨ value = L.muSbConfigNone

/-- **The request for `value` is answered as it should be**: a configuration that exists is in force
afterwards; for any other, unless it is in force already, the parameter is invalid, no variable
changes and no flag is reported. -/
structure AnsweredByExistence (L : SecureBootLibs σ) (value : UInt8) (s : σ)
    (answer : (EfiStatus × DfciSettingFlags) × σ) : Prop where
  exists_set : Exists L value →
    answer.1.1 = efiSuccess ∧ L.getCurrentSecureBootConfig answer.2 = value.toNat
  other_refused : ¬ Exists L value → L.getCurrentSecureBootConfig s ≠ value.toNat →
    answer = ((efiInvalidParameter, {}), s)

/-- The number of payloads itself: no index of one, and not more than there are. -/
structure PastTheLast (L : SecureBootLibs σ) (value : UInt8) (s : σ) : Prop where
  count : value = L.getPlatformKeyStore.2
  ne_none : value ≠ L.muSbConfigNone
  changes : L.getCurrentSecureBootConfig s ≠ value.toNat

/-- The variables a change to an existing configuration leaves. -/
theorem applyKeys_exists (hL : L.Working) {value : UInt8} (hexists : Exists L value) (s : σ) :
    (applyKeys L value s).1 = efiSuccess ∧
      L.getCurrentSecureBootConfig (applyKeys L value s).2 = value.toNat := by
  obtain ⟨hdeleted, hnone⟩ := hL.deletes s
  by_cases hindex : value < L.getPlatformKeyStore.2
  · simp only [applyKeys, hindex, if_true, hdeleted, efiError_success, Bool.false_eq_true, if_false]
    exact hL.sets value _ hindex
  · have hvalue : value = L.muSbConfigNone := hexists.resolve_left hindex
    rw [applyKeys, if_neg hindex, if_pos hvalue]
    exact ⟨hdeleted, hvalue ▸ hnone⟩

/-- **SecureBootModeSet accepts exactly the configurations that exist**, but for the number of
payloads. -/
theorem secureBootModeSet_accepts_iff (hL : L.Working) (value : UInt8) (s : σ) :
    AnsweredByExistence L value s
        (secureBootModeSet H L ⟨some (some H.secureBootKeysEnum), 1, some value⟩ s) ↔
      ¬ PastTheLast L value s := by
  rw [secureBootModeSet_request hL.store]
  by_cases hexists : Exists L value
  · -- the two comparisons agree on what exists
    have hallowed : ¬ (L.getPlatformKeyStore.2 < value ∧ value ≠ L.muSbConfigNone) :=
      fun h => hexists.elim (fun hlt => UInt8.lt_irrefl _ (UInt8.lt_trans hlt h.1)) h.2
    have hindexed : ¬ PastTheLast L value s :=
      fun h => hexists.elim (fun hlt => UInt8.lt_irrefl _ (h.count ▸ hlt)) h.ne_none
    simp only [if_neg hallowed, hindexed, not_false_eq_true, iff_true]
    refine ⟨fun _ => ?_, fun h => absurd hexists h⟩
    by_cases hcurrent : L.getCurrentSecureBootConfig s = value.toNat
    · rw [if_pos hcurrent]
      exact ⟨rfl, hcurrent⟩
    · rw [if_neg hcurrent]
      exact applyKeys_exists hL hexists s
  have hindex : ¬ value < L.getPlatformKeyStore.2 := fun h => hexists (Or.inl h)
  have hnone : value ≠ L.muSbConfigNone := fun h => hexists (Or.inr h)
  have hiff : ∀ answer, AnsweredByExistence L value s answer ↔
      (L.getCurrentSecureBootConfig s ≠ value.toNat →
        answer = ((efiInvalidParameter, {}), s)) := by
    intro answer
    exact ⟨fun h => h.other_refused hexists, fun h => ⟨fun he => absurd he hexists, fun _ => h⟩⟩
  rw [hiff]
  by_cases hcount : value = L.getPlatformKeyStore.2
  · -- the first test lets the number of payloads through
    have hallowed : ¬ (L.getPlatformKeyStore.2 < value ∧ value ≠ L.muSbConfigNone) :=
      fun h => UInt8.lt_irrefl _ (hcount ▸ h.1)
    rw [if_neg hallowed]
    by_cases hcurrent : L.getCurrentSecureBootConfig s = value.toNat
    · exact ⟨fun _ h => h.changes hcurrent, fun _ h => absurd hcurrent h⟩
    · rw [if_neg hcurrent, applyKeys, if_neg hindex, if_neg hnone]
      constructor
      · intro h
        have hstatus : efiAborted = efiInvalidParameter :=
          congrArg (fun answer => answer.1.1) (h hcurrent)
        exact absurd hstatus (by decide)
      · intro h
        exact absurd ⟨hcount, hnone, hcurrent⟩ h
  · have hrefused : L.getPlatformKeyStore.2 < value :=
      UInt8.lt_of_le_of_ne (UInt8.not_lt.mp hindex) (Ne.symm hcount)
    rw [if_pos ⟨hrefused, hnone⟩]
    exact ⟨fun _ h => hcount h.count, fun _ _ => rfl⟩

end Accepted

theorem twoKeySets_working : (twoKeySets false).Working where
  store := efiError_success
  deletes _ := ⟨rfl, rfl⟩
  sets _ _ _ := ⟨rfl, rfl⟩

theorem secureBootModeSet_accepts_iff_none :
    ((secureBootModeSet ⟨[1], 96⟩ (twoKeySets false) ⟨some (some [1]), 1, some 255⟩
      (some 0)).1.1 = efiSuccess) :=
  (((secureBootModeSet_accepts_iff (H := ⟨[1], 96⟩) twoKeySets_working 255 (some 0)).mpr
    fun h => h.ne_none rfl).exists_set (Or.inr rfl)).1

/-- With two key sets, 2 is not refused as an invalid parameter. -/
theorem secureBootModeSet_lets_count_through :
    ¬ ∀ (L : SecureBootLibs (Option UInt8)) (value : UInt8) (s : Option UInt8), L.Working →
      AnsweredByExistence L value s
        (secureBootModeSet ⟨[1], 96⟩ L ⟨some (some [1]), 1, some value⟩ s) := by
  intro h
  have hrefused := (h (twoKeySets false) 2 (some 0) twoKeySets_working).other_refused
    (by unfold Exists; decide) (by decide)
  exact absurd (congrArg (fun answer => answer.1.1) hrefused) (by decide)

end OemPkg.SecureBoot
