/-
# OemPkg.SecureBoot.StatusText — what the security form says

The form shows the state of Secure Boot and the configuration in force as a string in the HII
database. UpdateSecureBootStatusStrings (`FrontPage/FrontPageUi.c`) puts it together;
InitializeFrontPage (`FrontPage/FrontPage.c`) calls it at each start of the front page, and
HandleSecureBootChange when the setting has been changed. It has the form refreshed by a number of
empty opcodes, which RefreshSecurityForm makes differ from the last one.

`Tells` says what the string should be, by the state of the variables. `status_text_current_iff` says
when it is, over a whole history of starts and dialogs: unless HiiSetString has failed where it
mattered, or a change has failed halfway, for then the keys are gone and nobody updates the string.
`refreshes_alternate` is what the empty opcodes are for.
-/
import OemPkg.Lib.Machine
import OemPkg.SecureBoot.ModeSetting
import Mathlib.Data.List.Chain

namespace OemPkg.SecureBoot

open OemPkg.Lib OemPkg.Uefi OemPkg.Settings

/-! ## The strings -/

/-- The strings of the form as HiiGetString returns them, and the key sets. -/
structure SecurityFormStrings where
  /-- STR_SEC_SB_STATE_TEXT, a placeholder in the string package -/
  stateText : List UInt16
  /-- STR_SEC_SB_STATE_PREAMBLE -/
  preamble : List UInt16
  /-- STR_SEC_SB_STATE_ENABLED -/
  enabled : List UInt16
  /-- STR_SEC_SB_STATE_DISABLED -/
  disabled : List UInt16
  /-- STR_SEC_SB_KEY_CONFIG_TEXT -/
  keyConfigText : List UInt16
  /-- STR_GENERIC_TEXT_NONE -/
  genericNone : List UInt16
  /-- STR_SEC_SB_CUSTOM_CONFIG_TEXT -/
  customConfig : List UInt16
  /-- the names in mSecureBootKeys, of which there are mSecureBootKeysCount -/
  secureBootKeys : List (List UInt16)
  keys_count : secureBootKeys.length < 256

/-- mSecureBootKeysCount -/
def SecurityFormStrings.secureBootKeysCount (T : SecurityFormStrings) : UInt8 :=
  UInt8.ofNat T.secureBootKeys.length

theorem SecurityFormStrings.secureBootKeysCount_toNat (T : SecurityFormStrings) :
    T.secureBootKeysCount.toNat = T.secureBootKeys.length := by
  show (UInt8.ofNat T.secureBootKeys.length).toNat = _
  rw [UInt8.toNat_ofNat', Nat.mod_eq_of_lt T.keys_count]

/-- UnicodeSPrint to StateString, which has 256 characters, of strings with blanks between them. -/
def printStateString (substrings : List (List UInt16)) : List UInt16 :=
  ((substrings.intersperse [32]).flatten).take (256 - 1)

/-! ## The form -/

/-- The security form of a front page that is running. -/
structure SecurityForm where
  /-- STR_SEC_SB_STATE_TEXT in the HII database -/
  stateText : List UInt16
  /-- NullOpCount of RefreshSecurityForm, a static -/
  nullOpCount : Nat
  /-- the numbers of empty opcodes the form has been refreshed with, oldest first -/
  refreshes : List Nat

/-- RefreshSecurityForm -/
def refreshSecurityForm (form : SecurityForm) : SecurityForm :=
  let nullOpCount := if form.nullOpCount ≠ 1 then 1 else 2
  { form with
    nullOpCount := nullOpCount
    refreshes := form.refreshes ++ [if nullOpCount > 1 then 2 else 1] }

/-- What a start of the front page meets. -/
structure FrontPageStart (σ : Type*) where
  /-- the Secure Boot variables by then -/
  secureBoot : σ
  /-- UefiMain comes as far as InitializeFrontPage -/
  reached : Bool
  /-- LocateProtocol for the form browser -/
  locateFormBrowser2 : EfiStatus
  /-- LocateProtocol for the config routing protocol -/
  locateHiiConfigRouting : EfiStatus
  /-- LocateProtocol for the variable policy protocol -/
  locateVariablePolicy : EfiStatus
  /-- HiiAddPackages returns a handle -/
  packagesAdded : Bool
  /-- HiiSetString for the state text succeeds -/
  stringSet : Bool

/-- The user asks for another configuration. -/
structure SecurityChange where
  ui : SecureBootDialog
  /-- the settings manager refuses the Set -/
  refused : Option { e : EfiStatus // efiError e = true }
  /-- HiiSetString for the state text succeeds -/
  stringSet : Bool

/-- What happens to the form. -/
inductive SecurityFormEvent (σ : Type*) where
  | start (meets : FrontPageStart σ)
  | secureBootChange (change : SecurityChange)

/-- The application is loaded, with its statics. -/
def SecurityFormEvent.starts {σ : Type*} : SecurityFormEvent σ → Bool
  | .start _ => true
  | .secureBootChange _ => false

section Form

variable {σ : Type*} (H : DfciSettingsH) (L : SecureBootLibs σ) (isSecureBootEnabled : σ → Bool)
  (T : SecurityFormStrings)

/-- The local ConfigSubstring for a configuration. -/
def SecurityFormStrings.configSubstring (currentConfig : Nat) : List UInt16 :=
  if currentConfig = L.muSbConfigNone.toNat then T.genericNone
  else if h : T.secureBootKeysCount.toNat ≤ currentConfig then T.customConfig
  else
    T.secureBootKeys.get
      ⟨currentConfig, Nat.lt_of_not_le (T.secureBootKeysCount_toNat ▸ h)⟩

/-- The local StateString for a state of the variables. -/
def SecurityFormStrings.stateString (s : σ) : List UInt16 :=
  if isSecureBootEnabled s then
    printStateString [T.preamble, T.enabled,
      T.configSubstring L (L.getCurrentSecureBootConfig s), T.keyConfigText]
  else printStateString [T.preamble, T.disabled]

/-- UpdateSecureBootStatusStrings, which does not look at the status of HiiSetString. -/
def updateSecureBootStatusStrings (stringSet refreshScreen : Bool) (s : σ) (form : SecurityForm) :
    SecurityForm :=
  let form :=
    if stringSet then { form with stateText := T.stateString L isSecureBootEnabled s } else form
  if refreshScreen then refreshSecurityForm form else form

/-- InitializeFrontPage, as far as the security form goes. There is none before the string package
has been added; UefiMain looks at no status of it. -/
def initializeFrontPage (meets : FrontPageStart σ) : Option SecurityForm :=
  if efiError meets.locateFormBrowser2 then none
  else if efiError meets.locateHiiConfigRouting then none
  else if efiError meets.locateVariablePolicy then none
  else if !meets.packagesAdded then none
  else
    some (updateSecureBootStatusStrings L isSecureBootEnabled T meets.stringSet false
      meets.secureBoot ⟨T.stateText, 1, []⟩)

/-- The front page, as far as the security form goes, with the Secure Boot variables. The string is
updated where FORM_APPLY is asked for. Without the form there is nothing to choose from. -/
def securityForm :
    Machine (σ × Option SecurityForm) (SecurityFormEvent σ) (Option SecureBootOutcome) where
  step := fun (s, form) event =>
    match event, form with
    | .start meets, _ =>
        ((meets.secureBoot,
          if meets.reached then initializeFrontPage L isSecureBootEnabled T meets else none), none)
    | .secureBootChange _, none => ((s, none), none)
    | .secureBootChange change, some form =>
        let (outcome, s) := handleSecureBootChange H L (settingAccess change.refused)
          T.secureBootKeysCount change.ui s
        let form :=
          if outcome.formApply then
            updateSecureBootStatusStrings L isSecureBootEnabled T change.stringSet true s form
          else form
        ((s, some form), some outcome)

/-! ## What the string should be -/

/-- **The name of a configuration**: that of its key set, if it is one; a configuration that is none
of the platform's is a custom one. -/
inductive Names : Nat → List UInt16 → Prop
  | none : Names L.muSbConfigNone.toNat T.genericNone
  | keySet {i : Nat} {name : List UInt16} (hsome : i ≠ L.muSbConfigNone.toNat)
      (hkeys : T.secureBootKeys[i]? = some name) : Names i name
  | custom {i : Nat} (hsome : i ≠ L.muSbConfigNone.toNat)
      (hkeys : T.secureBootKeys[i]? = .none) : Names i T.customConfig

/-- **The text tells the state of the variables**, in as many characters as there is room for. -/
inductive Tells (s : σ) : List UInt16 → Prop
  | enabled {name : List UInt16} (hon : isSecureBootEnabled s = true)
      (hname : Names L T (L.getCurrentSecureBootConfig s) name) :
      Tells s ((T.preamble ++ [32] ++ T.enabled ++ [32] ++ name ++ [32] ++ T.keyConfigText).take 255)
  | disabled (hoff : isSecureBootEnabled s = false) :
      Tells s ((T.preamble ++ [32] ++ T.disabled).take 255)

/-- The form, if there is one, tells the variables as they are. -/
def Current (p : σ × Option SecurityForm) : Prop :=
  ∀ form ∈ p.2, Tells L isSecureBootEnabled T p.1 form.stateText

/-- A text for the one state does not tell the other. -/
def ReadsDifferently (s s' : σ) : Prop :=
  ∃ text, Tells L isSecureBootEnabled T s text ∧ ¬ Tells L isSecureBootEnabled T s' text

/-! ## What goes unseen -/

/-- The form is there after the start. -/
structure FrontPageStart.Shows (meets : FrontPageStart σ) : Prop where
  reached : meets.reached = true
  formBrowser2 : efiError meets.locateFormBrowser2 = false
  hiiConfigRouting : efiError meets.locateHiiConfigRouting = false
  variablePolicy : efiError meets.locateVariablePolicy = false
  packages : meets.packagesAdded = true

/-- The provider is asked for a change. -/
def SecurityChange.asked (change : SecurityChange) : Bool :=
  submitted change.ui && change.refused.isNone

/-- What the provider does then. -/
def SecurityChange.provided (change : SecurityChange) (s : σ) : (EfiStatus × DfciSettingFlags) × σ :=
  secureBootModeSet H L ⟨some (some H.secureBootKeysEnum), 1,
    some (requestedValue L T.secureBootKeysCount change.ui)⟩ s

/-- **The event goes unseen**: there is a form, and its string is not brought up to date, though it
reads differently. -/
inductive SecurityFormEvent.GoesUnseen (p : σ × Option SecurityForm) : SecurityFormEvent σ → Prop
  /-- the placeholder stays -/
  | placeholder {meets : FrontPageStart σ} (hshows : meets.Shows) (hset : meets.stringSet = false)
      (hreads : ¬ Tells L isSecureBootEnabled T meets.secureBoot T.stateText) :
      GoesUnseen p (.start meets)
  /-- the keys are gone -/
  | halfway {change : SecurityChange} (hform : p.2.isSome = true) (hasked : change.asked = true)
      (hfails : FailsHalfway L (requestedValue L T.secureBootKeysCount change.ui) p.1)
      (hreads : ReadsDifferently L isSecureBootEnabled T p.1 (L.deleteSecureBootVariables p.1).2) :
      GoesUnseen p (.secureBootChange change)
  /-- the setting has been changed, and the string stays -/
  | unset {change : SecurityChange} (hform : p.2.isSome = true) (hasked : change.asked = true)
      (happlied : efiError (change.provided H L T p.1).1.1 = false) (hset : change.stringSet = false)
      (hreads : ReadsDifferently L isSecureBootEnabled T p.1 (change.provided H L T p.1).2) :
      GoesUnseen p (.secureBootChange change)

variable {H L isSecureBootEnabled T}

/-! ## The string is right -/

theorem names_iff {currentConfig : Nat} {name : List UInt16} :
    Names L T currentConfig name ↔ name = T.configSubstring L currentConfig := by
  unfold SecurityFormStrings.configSubstring
  have hcount := T.secureBootKeysCount_toNat
  constructor
  · rintro (_ | ⟨hsome, hkeys⟩ | ⟨hsome, hkeys⟩)
    · rw [if_pos rfl]
    · obtain ⟨hlt, hget⟩ := List.getElem?_eq_some_iff.mp hkeys
      rw [if_neg hsome, dif_neg (by omega)]
      exact hget.symm
    · have hge := List.getElem?_eq_none_iff.mp hkeys
      rw [if_neg hsome, dif_pos (by omega)]
  · rintro rfl
    split_ifs with hnone hge
    · exact hnone ▸ .none
    · exact .custom hnone (List.getElem?_eq_none_iff.mpr (by omega))
    · exact .keySet hnone (List.getElem?_eq_getElem (by omega))

/-- **UpdateSecureBootStatusStrings puts the right string together.** -/
theorem tells_iff {s : σ} {text : List UInt16} :
    Tells L isSecureBootEnabled T s text ↔ text = T.stateString L isSecureBootEnabled s := by
  unfold SecurityFormStrings.stateString printStateString
  constructor
  · rintro (⟨hon, hname⟩ | hoff)
    · rw [if_pos hon, names_iff.mp hname]
      simp
    · rw [if_neg (Bool.eq_false_iff.mp hoff)]
      simp
  · rintro rfl
    cases hstate : isSecureBootEnabled s with
    | true =>
        have htells := Tells.enabled (L := L) (T := T) hstate (names_iff.mpr rfl)
        simpa using htells
    | false =>
        have htells := Tells.disabled (L := L) (T := T) hstate
        simpa using htells

theorem tells_stateString (s : σ) :
    Tells L isSecureBootEnabled T s (T.stateString L isSecureBootEnabled s) := tells_iff.mpr rfl

/-- A form that is right for the one state is right for the other unless they read differently. -/
theorem tells_iff_not_readsDifferently {s s' : σ} {text : List UInt16}
    (h : Tells L isSecureBootEnabled T s text) :
    Tells L isSecureBootEnabled T s' text ↔ ¬ ReadsDifferently L isSecureBootEnabled T s s' := by
  constructor
  · rintro hsame ⟨other, hother, hnot⟩
    rw [tells_iff.mp hother, ← tells_iff.mp h] at hnot
    exact hnot hsame
  · intro hsame
    by_contra hnot
    exact hsame ⟨text, h, hnot⟩

theorem updated_tells (refreshScreen : Bool) (s : σ) (form : SecurityForm) :
    Tells L isSecureBootEnabled T s
      (updateSecureBootStatusStrings L isSecureBootEnabled T true refreshScreen s form).stateText := by
  have htext : (updateSecureBootStatusStrings L isSecureBootEnabled T true refreshScreen s
      form).stateText = T.stateString L isSecureBootEnabled s := by
    cases refreshScreen <;> rfl
  exact htext ▸ tells_stateString s

/-- What is left when a change fails halfway. -/
theorem secureBootModeSet_halfway (value : UInt8) {s : σ} (h : FailsHalfway L value s) :
    efiError (secureBootModeSet H L ⟨some (some H.secureBootKeysEnum), 1, some value⟩ s).1.1 =
        true ∧
      (secureBootModeSet H L ⟨some (some H.secureBootKeysEnum), 1, some value⟩ s).2 =
        (L.deleteSecureBootVariables s).2 := by
  have hallowed : ¬ (L.getPlatformKeyStore.2 < value ∧ value ≠ L.muSbConfigNone) :=
    fun hreject => UInt8.lt_irrefl _ (UInt8.lt_trans h.names hreject.1)
  have happly : applyKeys L value s =
      L.setSecureBootConfig value (L.deleteSecureBootVariables s).2 := by
    rw [applyKeys, if_pos h.names]
    exact if_neg (Bool.eq_false_iff.mp h.deleted)
  rw [secureBootModeSet_request h.store, if_neg hallowed, if_neg h.changes, happly]
  exact ⟨h.unwritten, L.setFails value _ h.unwritten⟩

/-! ### One event -/

variable (H L isSecureBootEnabled T) in
/-- A start that does not come so far has no form. -/
theorem start_form (meets : FrontPageStart σ) (p : σ × Option SecurityForm) :
    ((securityForm H L isSecureBootEnabled T).step p (.start meets)).1.2 = none ∧ ¬ meets.Shows ∨
      meets.Shows ∧ ((securityForm H L isSecureBootEnabled T).step p (.start meets)).1.2 =
        some (updateSecureBootStatusStrings L isSecureBootEnabled T meets.stringSet false
          meets.secureBoot ⟨T.stateText, 1, []⟩) := by
  obtain ⟨s, form⟩ := p
  dsimp only [securityForm]
  unfold initializeFrontPage
  cases hreached : meets.reached with
  | false => exact .inl ⟨rfl, fun h => Bool.false_ne_true (hreached.symm.trans h.reached)⟩
  | true =>
      rw [if_pos rfl]
      split_ifs with hbrowser hrouting hpolicy hpackages
      · exact .inl ⟨rfl, fun h => Bool.false_ne_true (h.formBrowser2.symm.trans hbrowser)⟩
      · exact .inl ⟨rfl, fun h => Bool.false_ne_true (h.hiiConfigRouting.symm.trans hrouting)⟩
      · exact .inl ⟨rfl, fun h => Bool.false_ne_true (h.variablePolicy.symm.trans hpolicy)⟩
      · rw [Bool.not_eq_true'] at hpackages
        exact .inl ⟨rfl, fun h => Bool.false_ne_true (hpackages.symm.trans h.packages)⟩
      · rw [Bool.not_eq_true] at hbrowser hrouting hpolicy
        rw [Bool.not_eq_true', Bool.not_eq_false] at hpackages
        exact .inr ⟨⟨hreached, hbrowser, hrouting, hpolicy, hpackages⟩, rfl⟩

/-- HandleSecureBootChange, by whether the provider is asked. -/
theorem handleSecureBootChange_eq (change : SecurityChange) (s : σ) :
    ∃ status resetRequired, handleSecureBootChange H L (settingAccess change.refused)
        T.secureBootKeysCount change.ui s =
      if change.asked then
        (⟨(change.provided H L T s).1.1, !efiError (change.provided H L T s).1.1,
          efiError (change.provided H L T s).1.1, true⟩, (change.provided H L T s).2)
      else (⟨status, false, change.refused.isSome && submitted change.ui, resetRequired⟩, s) := by
  obtain ⟨ui, refused, stringSet⟩ := change
  unfold handleSecureBootChange SecurityChange.asked
  by_cases halloc : ui.allocated = true
  · by_cases hsub : submitted ui = true
    · simp only [halloc, hsub, Bool.not_true, Bool.false_eq_true, if_false, if_true, Bool.true_and]
      cases refused with
      | none =>
          refine ⟨efiSuccess, true, ?_⟩
          rw [Option.isNone_none, if_pos rfl]
          rfl
      | some e =>
          refine ⟨e.1, true, ?_⟩
          simp only [settingAccess, e.2, Option.isNone_some, Bool.false_eq_true, if_false,
            Bool.not_true, Option.isSome_some, Bool.and_true]
    · refine ⟨ui.status, true, ?_⟩
      simp only [halloc, hsub, Bool.not_true, Bool.false_eq_true, if_false, Bool.false_and,
        Bool.and_false]
  · have hsub : submitted ui = false := by simp [submitted, halloc]
    refine ⟨efiOutOfResources, false, ?_⟩
    simp only [halloc, hsub, Bool.not_false, if_true, Bool.false_eq_true, if_false, Bool.false_and,
      Bool.and_false]

/-- A dialog that leads to no call of the provider changes nothing. -/
theorem change_not_asked {change : SecurityChange} (h : change.asked = false) (s : σ)
    (form : SecurityForm) :
    ((securityForm H L isSecureBootEnabled T).step (s, some form) (.secureBootChange change)).1 =
      (s, some form) := by
  obtain ⟨status, resetRequired, heq⟩ := handleSecureBootChange_eq (H := H) (L := L) (T := T)
    change s
  rw [if_neg (Bool.eq_false_iff.mp h)] at heq
  dsimp only [securityForm]
  rw [heq]
  rfl

/-- A dialog that leads to one. -/
theorem change_asked {change : SecurityChange} (h : change.asked = true) (s : σ)
    (form : SecurityForm) :
    ((securityForm H L isSecureBootEnabled T).step (s, some form) (.secureBootChange change)).1 =
      ((change.provided H L T s).2,
        some (if efiError (change.provided H L T s).1.1 then form
          else updateSecureBootStatusStrings L isSecureBootEnabled T change.stringSet true
            (change.provided H L T s).2 form)) := by
  obtain ⟨status, resetRequired, heq⟩ := handleSecureBootChange_eq (H := H) (L := L) (T := T)
    change s
  rw [if_pos h] at heq
  dsimp only [securityForm]
  rw [heq]
  cases efiError (change.provided H L T s).1.1 <;> rfl

theorem current_some {s : σ} {form : SecurityForm} :
    Current L isSecureBootEnabled T (s, some form) ↔
      Tells L isSecureBootEnabled T s form.stateText :=
  ⟨fun h => h form rfl, fun h _ hmem => Option.some.inj hmem ▸ h⟩

theorem current_none (s : σ) : Current L isSecureBootEnabled T (s, none) :=
  fun form hmem => absurd hmem (Option.not_mem_none form)

/-- A start. -/
theorem current_start_iff (p : σ × Option SecurityForm) (meets : FrontPageStart σ) :
    Current L isSecureBootEnabled T
        ((securityForm H L isSecureBootEnabled T).step p (.start meets)).1 ↔
      ¬ SecurityFormEvent.GoesUnseen H L isSecureBootEnabled T p (.start meets) := by
  have hstart := start_form H L isSecureBootEnabled T meets p
  have hvariables : ((securityForm H L isSecureBootEnabled T).step p (.start meets)).1.1 =
      meets.secureBoot := rfl
  generalize ((securityForm H L isSecureBootEnabled T).step p (.start meets)).1 = p'
    at hstart hvariables ⊢
  obtain ⟨s', form'⟩ := p'
  obtain rfl : s' = meets.secureBoot := hvariables
  rcases hstart with ⟨hform, hshows⟩ | ⟨hshows, hform⟩
  · obtain rfl : form' = none := hform
    refine iff_of_true (current_none _) ?_
    rintro ⟨hshows', -, -⟩
    exact hshows hshows'
  · obtain rfl : form' = some _ := hform
    rw [current_some]
    cases hset : meets.stringSet with
    | true =>
        refine iff_of_true (updated_tells false meets.secureBoot _) ?_
        rintro ⟨-, hnot, -⟩
        exact Bool.false_ne_true (hnot.symm.trans hset)
    | false =>
        -- the placeholder is still there
        constructor
        · rintro htells ⟨-, -, hreads⟩
          exact hreads htells
        · intro hseen
          by_contra hreads
          exact hseen (.placeholder hshows hset hreads)

/-- A dialog that leads to a call of the provider. -/
theorem current_change_iff {s : σ} {form : SecurityForm}
    (h : Tells L isSecureBootEnabled T s form.stateText) {change : SecurityChange}
    (hasked : change.asked = true) :
    Current L isSecureBootEnabled T ((securityForm H L isSecureBootEnabled T).step (s, some form)
        (.secureBootChange change)).1 ↔
      ¬ SecurityFormEvent.GoesUnseen H L isSecureBootEnabled T (s, some form)
        (.secureBootChange change) := by
  rw [change_asked hasked, current_some]
  have hhalf := secureBootModeSet_halfway (H := H) (L := L) (s := s)
    (requestedValue L T.secureBootKeysCount change.ui)
  cases herror : efiError (change.provided H L T s).1.1 with
  | false =>
      rw [if_neg Bool.false_ne_true]
      have hnot : ¬ FailsHalfway L (requestedValue L T.secureBootKeysCount change.ui) s :=
        fun hfails => Bool.false_ne_true (herror.symm.trans (hhalf hfails).1)
      cases hset : change.stringSet with
      | true =>
          refine iff_of_true (updated_tells true _ form) ?_
          rintro (_ | ⟨-, -, hfails, -⟩ | ⟨-, -, -, hunset, -⟩)
          · exact hnot hfails
          · exact Bool.false_ne_true (hunset.symm.trans hset)
      | false =>
          show Tells L isSecureBootEnabled T _ form.stateText ↔ _
          rw [tells_iff_not_readsDifferently h]
          constructor
          · rintro hsame (_ | ⟨-, -, hfails, -⟩ | ⟨-, -, -, -, hreads⟩)
            · exact hnot hfails
            · exact hsame hreads
          · exact fun hseen hreads => hseen (.unset rfl hasked herror hset hreads)
  | true =>
      rw [if_pos rfl]
      by_cases hfails : FailsHalfway L (requestedValue L T.secureBootKeysCount change.ui) s
      · -- the keys are gone, and the string is that of the state before
        have hstate : (change.provided H L T s).2 = (L.deleteSecureBootVariables s).2 :=
          (hhalf hfails).2
        rw [hstate, tells_iff_not_readsDifferently h]
        constructor
        · rintro hsame (_ | ⟨-, -, -, hreads⟩ | ⟨-, -, hok, -, -⟩)
          · exact hsame hreads
          · exact Bool.false_ne_true (hok.symm.trans herror)
        · exact fun hseen hreads => hseen (.halfway rfl hasked hfails hreads)
      · -- every other error leaves the configuration as it was
        have hstate : (change.provided H L T s).2 = s :=
          (secureBootModeSet_allOrNothing_iff (H := H) (L := L)
            (requestedValue L T.secureBootKeysCount change.ui) s).mpr hfails herror
        rw [hstate]
        refine iff_of_true h ?_
        rintro (_ | ⟨-, -, hfails', -⟩ | ⟨-, -, hok, -, -⟩)
        · exact hfails hfails'
        · exact Bool.false_ne_true (hok.symm.trans herror)

/-- **One event.** A form that is right stays right unless the event goes unseen. -/
theorem current_step_iff {p : σ × Option SecurityForm} (h : Current L isSecureBootEnabled T p)
    (event : SecurityFormEvent σ) :
    Current L isSecureBootEnabled T ((securityForm H L isSecureBootEnabled T).step p event).1 ↔
      ¬ event.GoesUnseen H L isSecureBootEnabled T p := by
  obtain ⟨s, form⟩ := p
  cases event with
  | start meets => exact current_start_iff (s, form) meets
  | secureBootChange change =>
      cases form with
      | none =>
          refine iff_of_true (current_none s) ?_
          rintro (_ | ⟨hform, -, -, -⟩ | ⟨hform, -, -, -, -⟩)
          · exact Bool.false_ne_true hform
          · exact Bool.false_ne_true hform
      | some form =>
          cases hasked : change.asked with
          | true => exact current_change_iff (current_some.mp h) hasked
          | false =>
              rw [change_not_asked hasked]
              refine iff_of_true h ?_
              rintro (_ | ⟨-, hyes, -, -⟩ | ⟨-, hyes, -, -, -⟩)
              · exact Bool.false_ne_true (hasked.symm.trans hyes)
              · exact Bool.false_ne_true (hasked.symm.trans hyes)

variable (H L isSecureBootEnabled T) in
/-- **When the security form is right.** Over every history of starts of the front page, with the
variables as they are by then, and of dialogs: the string tells the state of the variables after
every event exactly when none of them goes unseen. -/
theorem status_text_current_iff (s : σ) (events : List (SecurityFormEvent σ)) :
    let M := securityForm H L isSecureBootEnabled T
    M.Along (fun p event => Current L isSecureBootEnabled T (M.step p event).1) (s, none) events ↔
      M.Along (fun p event => ¬ event.GoesUnseen H L isSecureBootEnabled T p) (s, none) events := by
  intro M
  have hstart : Current L isSecureBootEnabled T (s, none) := current_none s
  constructor
  · intro hright
    refine (M.along_congr ?_ ?_ events hstart hright).mp hright
    · exact fun _ _ _ hnext => hnext
    · exact fun p event hp _ => current_step_iff hp event
  · intro hseen
    refine (M.along_congr ?_ ?_ events hstart hseen).mpr hseen
    · exact fun p event hp hnext => (current_step_iff hp event).mpr hnext
    · exact fun p event hp _ => current_step_iff hp event

end Form

/-- Short strings, for two key sets named A and B. -/
def shortStrings : SecurityFormStrings where
  stateText := [85]
  preamble := [83]
  enabled := [49]
  disabled := [48]
  keyConfigText := [46]
  genericNone := [45]
  customConfig := [63]
  secureBootKeys := [[65], [66]]
  keys_count := by decide

/-- A start at which everything is there. -/
def plainStart (s : Option UInt8) : FrontPageStart (Option UInt8) :=
  ⟨s, true, efiSuccess, efiSuccess, efiSuccess, true, true⟩

/-- Key set A is in force, and the flash is full. The user picks B, and the form still says A. -/
theorem status_text_current_iff_full :
    let M := securityForm ⟨[1], 96⟩ (twoKeySets true) (fun _ => true) shortStrings
    ¬ M.Along (fun p event => Current (twoKeySets true) (fun _ => true) shortStrings
      (M.step p event).1) (none, none)
      [.start (plainStart (some 0)), .secureBootChange ⟨pickSecond, none, true⟩] := by
  intro M hright
  obtain ⟨-, hseen, -⟩ := (status_text_current_iff _ _ _ _ _ _).mp hright
  apply hseen
  refine .halfway rfl (by decide) ⟨rfl, by decide, by decide, rfl, by decide, nofun⟩ ?_
  refine ⟨_, tells_stateString _, fun htells => ?_⟩
  exact absurd (tells_iff.mp htells) (by decide)

/-! ## The form is refreshed -/

section Refreshes

variable {σ : Type*} {H : DfciSettingsH} {L : SecureBootLibs σ} {isSecureBootEnabled : σ → Bool}
  {T : SecurityFormStrings}

/-- The form has one empty opcode at first. It and the refreshes so far differ each from the next,
and the last is the one that is counted. -/
structure Alternates (form : SecurityForm) : Prop where
  chain : (1 :: form.refreshes).IsChain (· ≠ ·)
  counted : (1 :: form.refreshes).getLast (List.cons_ne_nil _ _) = form.nullOpCount
  toggles : form.nullOpCount = 1 ∨ form.nullOpCount = 2

theorem Alternates.refresh {form : SecurityForm} (h : Alternates form) :
    Alternates (refreshSecurityForm form) := by
  obtain ⟨stateText, nullOpCount, refreshes⟩ := form
  have hcounted : (1 :: refreshes).getLast (List.cons_ne_nil _ _) = nullOpCount := h.counted
  have htoggles : nullOpCount = 1 ∨ nullOpCount = 2 := h.toggles
  have hnext : ∀ m : Nat, m ≠ nullOpCount → (1 :: (refreshes ++ [m])).IsChain (· ≠ ·) := by
    intro m hm
    refine List.isChain_append.mpr ⟨h.chain, List.isChain_singleton m, ?_⟩
    rintro n hn _ ⟨⟩
    rw [List.getLast?_eq_some_getLast (List.cons_ne_nil _ _), hcounted] at hn
    exact Option.some.inj hn ▸ hm.symm
  rcases htoggles with rfl | rfl
  · exact ⟨hnext 2 (by omega), List.getLast_append_singleton (1 :: refreshes), .inr rfl⟩
  · exact ⟨hnext 1 (by omega), List.getLast_append_singleton (1 :: refreshes), .inl rfl⟩

theorem refreshSecurityForm_length (form : SecurityForm) :
    (refreshSecurityForm form).refreshes.length = form.refreshes.length + 1 :=
  List.length_append

variable (L isSecureBootEnabled T) in
/-- Whatever is put in the string, a refresh is counted. -/
theorem update_alternates (stringSet : Bool) (s : σ) {form : SecurityForm} (h : Alternates form) :
    let updated := updateSecureBootStatusStrings L isSecureBootEnabled T stringSet true s form
    Alternates updated ∧ updated.refreshes.length = form.refreshes.length + 1 := by
  cases stringSet with
  | false => exact ⟨h.refresh, refreshSecurityForm_length form⟩
  | true =>
      have hset : Alternates { form with stateText := T.stateString L isSecureBootEnabled s } :=
        ⟨h.chain, h.counted, h.toggles⟩
      exact ⟨hset.refresh, refreshSecurityForm_length _⟩

/-- The event has changed the setting. -/
def applied (answer : Option SecureBootOutcome) : Bool := answer.any (·.formApply)

/-- The refreshes of a form that has been there for `answers`. -/
def Refreshed (form : SecurityForm) (answers : List (Option SecureBootOutcome)) : Prop :=
  Alternates form ∧ form.refreshes.length = answers.countP applied

variable (H L isSecureBootEnabled T) in
/-- A dialog refreshes the form if it has changed the setting. -/
theorem Refreshed.step (s : σ) {form : Option SecurityForm}
    {answers : List (Option SecureBootOutcome)} (h : ∀ f ∈ form, Refreshed f answers)
    (change : SecurityChange) :
    let r := (securityForm H L isSecureBootEnabled T).step (s, form) (.secureBootChange change)
    ∀ f ∈ r.1.2, Refreshed f (answers ++ [r.2]) := by
  cases form with
  | none => exact fun f hf => absurd hf (Option.not_mem_none f)
  | some form =>
      obtain ⟨halternates, hlength⟩ := h form rfl
      dsimp only [securityForm]
      generalize handleSecureBootChange H L (settingAccess change.refused) T.secureBootKeysCount
        change.ui s = r
      obtain ⟨⟨status, formApply, failureShown, resetRequired⟩, s'⟩ := r
      cases formApply with
      | false =>
          rintro f ⟨⟩
          refine ⟨halternates, ?_⟩
          rw [List.countP_append]
          exact hlength
      | true =>
          obtain ⟨hnext, hcount⟩ := update_alternates L isSecureBootEnabled T change.stringSet s'
            halternates
          rintro f ⟨⟩
          refine ⟨hnext, ?_⟩
          rw [List.countP_append]
          exact hcount.trans (congrArg (· + 1) hlength)

/-- Between one start and the next. -/
theorem Refreshed.run (events : List (SecurityFormEvent σ)) :
    ∀ {p : σ × Option SecurityForm} (answers : List (Option SecureBootOutcome)),
      (∀ e ∈ events, e.starts = false) → (∀ f ∈ p.2, Refreshed f answers) →
      ∀ f ∈ ((securityForm H L isSecureBootEnabled T).run p events).2,
        Refreshed f (answers ++ (securityForm H L isSecureBootEnabled T).answers p events) := by
  induction events with
  | nil =>
      intro p answers _ h
      rw [Machine.answers, List.append_nil]
      exact h
  | cons e events ih =>
      intro p answers hstarts h
      obtain ⟨s, form⟩ := p
      have hrest := fun e he => hstarts e (List.mem_cons_of_mem _ he)
      cases e with
      | start meets =>
          have hno : true = false := hstarts _ List.mem_cons_self
          exact Bool.noConfusion hno
      | secureBootChange change =>
          have hnext := ih _ hrest (Refreshed.step H L isSecureBootEnabled T s h change)
          rwa [List.append_assoc, List.singleton_append] at hnext

end Refreshes

end OemPkg.SecureBoot
