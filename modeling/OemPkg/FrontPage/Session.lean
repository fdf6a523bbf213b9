/-
# OemPkg.FrontPage.Session — the front page from its first form to its end

The model of the main loop of the front page: the end of UefiMain and CallFrontPage
(`FrontPage/FrontPage.c`), which show one form after another, and the two callbacks that come in
while a form is shown, MasterFrameNotifyCallback from the display engine and UiCallback from the
form browser (`FrontPage/FrontPageUi.c`). The browser and the user are the list of what comes in:
for each form the events while it is shown, and the action request SendForm returns.

Three flags of the source decide what happens, and each gets its theorem. mTerminateFrontPage and
mCurrentFormIndex decide which forms are shown (`session_shows`); mResetRequired decides how the
front page is left (`session_reset_iff`), and it is set whenever variable policy has been disabled
(`session_policy_reset`).
-/
import OemPkg.Boot.OsIndications
import OemPkg.FrontPage.FormMap
import OemPkg.Lib.Loop
import OemPkg.Lib.Machine
import OemPkg.SecureBoot.ModeSetting

namespace OemPkg.FrontPage

open OemPkg.Lib OemPkg.Uefi OemPkg.Boot OemPkg.SecureBoot

/-! ## What comes in -/

/-- The notifications of the display engine. -/
inductive NotificationType where
  | none | redraw | userInput | other
  deriving DecidableEq

/-- SWM_INPUT_TYPE, as far as the callback tells types apart. -/
inductive InputType where
  | touch | key | other
  deriving DecidableEq

/-- A notification, with what the list box answers to it: does Draw return SELECT, and which cell is
selected. -/
structure MasterFrameNotification where
  notificationType : NotificationType
  inputType : InputType
  select : Bool
  selectedCell : UInt32

/-- EFI_BROWSER_ACTION_REQUEST, as far as it is told apart. -/
inductive BrowserActionRequest where
  | none | reset | exit | formApply | other
  deriving DecidableEq

def frontPageActionSecChangeSbConfig : UInt16 := 0x1003
def frontPageActionSecDisplaySbWhatIs : UInt16 := 0x1004
def frontPageActionSecSetSystemPassword : UInt16 := 0x1006
def frontPageActionRebootToFrontPage : UInt16 := 0x1007
def frontPageActionExitFrontPage : UInt16 := 0x1001

/-- A call of UiCallback: its arguments, and what its handlers meet. Of the two handlers that touch
nothing of the state here, HandleInfoPopup and SetSystemPassword, it is the status. -/
structure UiCall where
  valueNull : Bool
  actionRequestNull : Bool
  /-- Action is EFI_BROWSER_ACTION_CHANGED -/
  changed : Bool
  questionId : UInt16
  infoPopup : EfiStatus
  systemPassword : EfiStatus
  secureBoot : SecureBootDialog
  /-- the local OsIndications of HandleRebootToFrontPage -/
  uninitialized : BitVec 64

inductive BrowserEvent where
  | masterFrame (n : MasterFrameNotification)
  | callback (c : UiCall)

/-- One SendForm: what comes in while the form is shown, and the action request it returns. -/
structure Visit where
  events : List BrowserEvent
  actionRequest : BrowserActionRequest

/-! ## The state -/

/-- What does not change while forms are shown. -/
structure FrontPagePlatform (σ : Type*) where
  showFullMenu : Bool
  formMap : FormMap
  dfciH : DfciSettingsH
  libs : SecureBootLibs σ
  /-- mSettingAccess->Set for the Secure Boot keys -/
  access : (σ → EfiStatus × σ) → σ → EfiStatus × σ
  /-- mSecureBootKeysCount -/
  keysCount : UInt8

/-- The globals of the front page, the variables, the forms shown so far, and whether
DisableVariablePolicy has been called. -/
structure Session (σ : Type*) where
  currentFormIndex : UInt32
  terminateFrontPage : Bool
  resetRequired : Bool
  callbackKey : UInt16
  notificationType : NotificationType
  closeFormRequest : Bool
  policyDisabled : Bool
  vars : BootVars
  secureBoot : σ
  formsShown : List MenuForm

variable {σ : Type*}

/-! ## The callbacks -/

/-- MasterFrameNotifyCallback, after the display engine has stored the notification. -/
def masterFrameNotifyCallback (n : MasterFrameNotification) (s : Session σ) : Session σ :=
  let s := { s with notificationType := n.notificationType }
  if n.notificationType = .redraw then { s with notificationType := .none }
  else if n.notificationType ≠ .userInput then { s with notificationType := .none }
  else if n.inputType = .touch ∨ n.inputType = .key then
    -- nothing was selected: the source returns past its exit label
    if n.select = false then s
    else if n.selectedCell ≠ s.currentFormIndex then
      { s with
        currentFormIndex := n.selectedCell
        closeFormRequest := true
        terminateFrontPage := false
        notificationType := .none }
    else { s with notificationType := .none }
  else { s with notificationType := .none }

variable (P : FrontPagePlatform σ)

/-- The switch in UiCallback over the question: the status, `*ActionRequest`, and the state
afterwards. -/
def uiSwitch (c : UiCall) (s : Session σ) : EfiStatus × BrowserActionRequest × Session σ :=
  if c.questionId = frontPageActionSecDisplaySbWhatIs then (c.infoPopup, .none, s)
  else if c.questionId = frontPageActionSecSetSystemPassword then (c.systemPassword, .none, s)
  else if c.questionId = frontPageActionSecChangeSbConfig then
    let (o, secureBoot) :=
      handleSecureBootChange P.dfciH P.libs P.access P.keysCount c.secureBoot s.secureBoot
    (o.status, if o.formApply then .formApply else .none,
      { s with
        secureBoot
        policyDisabled := s.policyDisabled || submitted c.secureBoot
        resetRequired := s.resetRequired || o.resetRequired })
  else if c.questionId = frontPageActionExitFrontPage then (efiSuccess, .exit, s)
  else if c.questionId = frontPageActionRebootToFrontPage then
    let a := handleRebootToFrontPage c.uninitialized s.vars
    (a.status, if a.exitRequested then .exit else .none,
      { s with vars := a.vars, resetRequired := s.resetRequired || a.resetRequired })
  else (efiUnsupported, .none, { s with callbackKey := 0 })

/-- UiCallback: the status, `*ActionRequest` if it is written, and the state afterwards. -/
def uiCallback (c : UiCall) (s : Session σ) :
    EfiStatus × Option BrowserActionRequest × Session σ :=
  if c.valueNull || c.actionRequestNull then (efiInvalidParameter, none, s)
  else if !c.changed then (efiUnsupported, none, s)
  else
    let (status, actionRequest, s) := uiSwitch P c { s with callbackKey := c.questionId }
    (status, some actionRequest, s)

/-- What one event does. -/
def serve (s : Session σ) : BrowserEvent → Session σ
  | .masterFrame n => masterFrameNotifyCallback n s
  | .callback c => (uiCallback P c s).2.2

/-- The callbacks as a component that is served one event at a time. -/
def callbacks : Machine (Session σ) BrowserEvent Unit where
  step s e := (serve P s e, ())

/-! ## The loop -/

/-- The end of CallFrontPage, with the action request SendForm returns. -/
def actOnRequest (actionRequest : BrowserActionRequest) (s : Session σ) : Session σ :=
  let s := if actionRequest = .exit then { s with terminateFrontPage := true } else s
  if actionRequest = .reset then { s with resetRequired := true } else s

/-- What comes in while `form` is shown. -/
def showForm (form : MenuForm) (v : Visit) (s : Session σ) : Session σ :=
  (callbacks P).run { s with formsShown := s.formsShown ++ [form] } v.events

/-- CallFrontPage -/
def callFrontPageVisit (v : Visit) (s : Session σ) : Session σ :=
  match callFrontPage P.showFullMenu P.formMap s.currentFormIndex with
  | none => s
  | some form => actOnRequest v.actionRequest (showForm P form v s)

/-- One round of the loop in UefiMain. -/
def formRound (v : Visit) (s : Session σ) : Round (Session σ) (Session σ) :=
  let s := callFrontPageVisit P v { s with terminateFrontPage := true }
  if s.terminateFrontPage = false then .next s else .done s

/-- The globals when the loop begins. -/
def Session.start (vars : BootVars) (secureBoot : σ) : Session σ where
  currentFormIndex := 0
  terminateFrontPage := false
  resetRequired := false
  callbackKey := 0
  notificationType := .none
  closeFormRequest := false
  policyDisabled := false
  vars := vars
  secureBoot := secureBoot
  formsShown := []

/-- How the front page is left. -/
inductive FrontPageExit (σ : Type*) where
  /-- ResetSystemWithSubtype, a cold reset -/
  | coldReset (s : Session σ)
  /-- ProcessBootNext resets the system, or it returns and the front page cleans up -/
  | bootNext (s : Session σ) (bootNext : Option Variable) (flow : Flow)

/-- UefiMain from its loop on. `bootNext` is the variable BootNext when the loop has ended. -/
def uefiMain (options : LoadOptions) (bootNext : Option Variable) (visits : List Visit)
    (s : Session σ) : Round (Session σ) (FrontPageExit σ) :=
  match interact (formRound P) visits s with
  | .next s => .next s
  | .done s =>
      if s.resetRequired then .done (.coldReset s)
      else
        let (bootNext, flow) := processBootNext options bootNext s.vars
        .done (.bootNext s bootNext flow)

/-! ## Which forms are shown -/

/-- The cell an event selects. -/
def BrowserEvent.selection : BrowserEvent → Option UInt32
  | .masterFrame n =>
      if n.notificationType = .userInput ∧ (n.inputType = .touch ∨ n.inputType = .key) ∧
          n.select = true then
        some n.selectedCell
      else none
  | .callback _ => none

/-- The cells selected while a form is shown. -/
def Visit.selections (v : Visit) : List UInt32 := v.events.filterMap BrowserEvent.selection

/-- A user who is at cell `cell`, after the cells of the forms shown so far. -/
structure Navigation where
  cell : UInt32
  shown : List UInt32

/-- **The front page as its user sees it**: each round shows the form of one cell. When another cell
was selected, and the browser was not told to exit, the last cell selected is next. -/
def navigate (v : Visit) (a : Navigation) : Round Navigation (List UInt32) :=
  let shown := a.shown ++ [a.cell]
  if v.actionRequest ≠ .exit ∧ ∃ c ∈ v.selections, c ≠ a.cell then
    .next ⟨v.selections.getLast?.getD a.cell, shown⟩
  else .done shown

/-- What an event does to the flags of the loop. -/
structure Steers (e : BrowserEvent) (s s' : Session σ) : Prop where
  current : s'.currentFormIndex = e.selection.getD s.currentFormIndex
  terminate : s'.terminateFrontPage = false ↔
    s.terminateFrontPage = false ∨ ∃ c, e.selection = some c ∧ c ≠ s.currentFormIndex
  shown : s'.formsShown = s.formsShown

theorem Steers.of_none {e : BrowserEvent} {s s' : Session σ} (hselection : e.selection = none)
    (hcurrent : s'.currentFormIndex = s.currentFormIndex)
    (hterminate : s'.terminateFrontPage = s.terminateFrontPage)
    (hshown : s'.formsShown = s.formsShown) : Steers e s s' where
  current := by rw [hselection, hcurrent]; rfl
  terminate := by rw [hselection, hterminate]; simp
  shown := hshown

theorem masterFrame_steers (n : MasterFrameNotification) (s : Session σ) :
    Steers (.masterFrame n) s (masterFrameNotifyCallback n s) := by
  unfold masterFrameNotifyCallback
  dsimp only
  split_ifs with hredraw hinput htype hselect hcell
  · refine .of_none (if_neg ?_) rfl rfl rfl
    rintro ⟨huser, -⟩
    rw [hredraw] at huser
    cases huser
  · exact .of_none (if_neg fun h => hinput h.1) rfl rfl rfl
  · refine .of_none (if_neg ?_) rfl rfl rfl
    rintro ⟨-, -, h⟩
    rw [hselect] at h
    cases h
  · have hselection : BrowserEvent.selection (.masterFrame n) = some n.selectedCell :=
      if_pos ⟨not_not.mp hinput, htype, eq_true_of_ne_false hselect⟩
    refine ⟨by rw [hselection]; rfl, ?_, rfl⟩
    rw [hselection]
    exact iff_of_true rfl (Or.inr ⟨_, rfl, hcell⟩)
  · have hselection : BrowserEvent.selection (.masterFrame n) = some n.selectedCell :=
      if_pos ⟨not_not.mp hinput, htype, eq_true_of_ne_false hselect⟩
    have hsame : n.selectedCell = s.currentFormIndex := not_not.mp hcell
    refine ⟨by rw [hselection]; exact hsame.symm, ?_, rfl⟩
    rw [hselection, hsame]
    simp
  · exact .of_none (if_neg fun h => htype h.2.1) rfl rfl rfl

theorem uiCallback_steers (c : UiCall) (s : Session σ) :
    Steers (.callback c) s (uiCallback P c s).2.2 := by
  unfold uiCallback uiSwitch
  dsimp only
  split_ifs <;> exact .of_none rfl rfl rfl rfl

theorem serve_steers (e : BrowserEvent) (s : Session σ) : Steers e s (serve P s e) := by
  cases e with
  | masterFrame n => exact masterFrame_steers n s
  | callback c => exact uiCallback_steers P c s

/-- **While a form is shown**, by induction on the events. -/
theorem served_steers (events : List BrowserEvent) : ∀ s : Session σ,
    let selections := events.filterMap BrowserEvent.selection
    let s' := (callbacks P).run s events
    s'.currentFormIndex = selections.getLast?.getD s.currentFormIndex ∧
      (s'.terminateFrontPage = false ↔
        s.terminateFrontPage = false ∨ ∃ c ∈ selections, c ≠ s.currentFormIndex) ∧
      s'.formsShown = s.formsShown := by
  induction events with
  | nil => intro s; exact ⟨rfl, by simp [Machine.run], rfl⟩
  | cons e events ih =>
      intro s
      have hstep := serve_steers P e s
      obtain ⟨hcurrent, hterminate, hshown⟩ := ih (serve P s e)
      have hrun : (callbacks P).run s (e :: events) = (callbacks P).run (serve P s e) events := rfl
      dsimp only
      rw [hrun, hcurrent, hterminate, hshown, hstep.current, hstep.terminate, hstep.shown]
      cases hselection : e.selection with
      | none =>
          rw [List.filterMap_cons_none hselection]
          simp
      | some c =>
          rw [List.filterMap_cons_some hselection, Option.getD_some]
          refine ⟨?_, ?_, rfl⟩
          · cases events.filterMap BrowserEvent.selection with
            | nil => rfl
            | cons c' cs =>
                rw [List.getLast?_cons_cons, List.getLast?_eq_some_getLast (List.cons_ne_nil c' cs)]
                rfl
          · by_cases hc : c = s.currentFormIndex
            · simp [hc]
            · exact iff_of_true (Or.inl (Or.inr ⟨c, rfl, hc⟩)) (Or.inr ⟨c, by simp, hc⟩)

/-- The menu that is shown. -/
def FrontPagePlatform.menu : List MenuForm := P.formMap.menu P.showFullMenu

/-- `forms` are the forms of these cells. -/
def FormsOf (cells : List UInt32) (forms : List MenuForm) : Prop :=
  forms.map some = cells.map fun c => P.menu[c.toNat]?

/-- The state of the loop, and where its user is. -/
structure At (s : Session σ) (a : Navigation) : Prop where
  cell : s.currentFormIndex = a.cell
  inMenu : a.cell.toNat < P.menu.length
  shown : FormsOf P a.shown s.formsShown

/-! The action request steers nothing but the two flags. -/

section ActOnRequest

variable (actionRequest : BrowserActionRequest) (s : Session σ)

@[simp] theorem actOnRequest_currentFormIndex :
    (actOnRequest actionRequest s).currentFormIndex = s.currentFormIndex := by
  unfold actOnRequest
  split_ifs <;> rfl

@[simp] theorem actOnRequest_formsShown :
    (actOnRequest actionRequest s).formsShown = s.formsShown := by
  unfold actOnRequest
  split_ifs <;> rfl

@[simp] theorem actOnRequest_policyDisabled :
    (actOnRequest actionRequest s).policyDisabled = s.policyDisabled := by
  unfold actOnRequest
  split_ifs <;> rfl

theorem actOnRequest_terminate :
    (actOnRequest actionRequest s).terminateFrontPage = false ↔
      actionRequest ≠ .exit ∧ s.terminateFrontPage = false := by
  cases actionRequest <;> simp [actOnRequest]

theorem actOnRequest_resetRequired :
    (actOnRequest actionRequest s).resetRequired = false ↔
      actionRequest ≠ .reset ∧ s.resetRequired = false := by
  cases actionRequest <;> simp [actOnRequest]

end ActOnRequest

variable {P}

/-- A round in which there is a form. -/
theorem formRound_of_form {v : Visit} {s : Session σ} {form : MenuForm}
    (h : callFrontPage P.showFullMenu P.formMap s.currentFormIndex = some form) :
    let s' := actOnRequest v.actionRequest (showForm P form v { s with terminateFrontPage := true })
    formRound P v s = if s'.terminateFrontPage = false then .next s' else .done s' := by
  unfold formRound callFrontPageVisit
  dsimp only
  rw [h]

/-- **One form.** -/
theorem formRound_navigates (h : WellNumbered P.formMap) {v : Visit}
    (hcells : ∀ c ∈ v.selections, c.toNat < P.menu.length) {s : Session σ} {a : Navigation}
    (hat : At P s a) :
    (formRound P v s).Related (At P) (fun s cells => FormsOf P cells s.formsShown)
      (navigate v a) := by
  obtain ⟨form, hform⟩ : ∃ form, P.menu[a.cell.toNat]? = some form :=
    ⟨_, List.getElem?_eq_getElem hat.inMenu⟩
  have hcall : callFrontPage P.showFullMenu P.formMap s.currentFormIndex = some form := by
    rw [hat.cell]
    exact callFrontPage_spec h P.showFullMenu hform
  -- the state in which SendForm returns
  let s' := showForm P form v { s with terminateFrontPage := true }
  obtain ⟨hcurrent, hterminate, hshown⟩ := served_steers P v.events
    { s with terminateFrontPage := true, formsShown := s.formsShown ++ [form] }
  have hround := formRound_of_form (v := v) hcall
  have hforms : FormsOf P (a.shown ++ [a.cell]) (actOnRequest v.actionRequest s').formsShown := by
    have hbefore : s.formsShown.map some = _ := hat.shown
    unfold FormsOf
    rw [actOnRequest_formsShown, List.map_append, List.map_singleton, hform, ← hbefore]
    show (Machine.run _ _ _ : Session σ).formsShown.map some = _
    rw [hshown, List.map_append]
    rfl
  -- mTerminateFrontPage is FALSE again if another cell was selected and there was no exit
  have hgoesOn : (actOnRequest v.actionRequest s').terminateFrontPage = false ↔
      v.actionRequest ≠ .exit ∧ ∃ c ∈ v.selections, c ≠ a.cell := by
    rw [actOnRequest_terminate, ← hat.cell]
    apply and_congr_right'
    show (Machine.run _ _ _ : Session σ).terminateFrontPage = false ↔ _
    rw [hterminate]
    simp [Visit.selections]
  unfold navigate
  dsimp only
  by_cases hgo : v.actionRequest ≠ .exit ∧ ∃ c ∈ v.selections, c ≠ a.cell
  · rw [hround, if_pos (hgoesOn.mpr hgo), if_pos hgo]
    refine ⟨?_, ?_, hforms⟩
    · rw [actOnRequest_currentFormIndex, ← hat.cell]
      exact hcurrent
    · cases hlast : v.selections.getLast? with
      | none => exact hat.inMenu
      | some c => exact hcells c (List.mem_of_getLast? hlast)
  · rw [hround, if_neg (hgoesOn.not.mpr hgo), if_neg hgo]
    exact hforms

/-- **The forms that are shown.** Over a well numbered table with a menu that has a first cell, and a
user who selects cells of that menu only: the front page shows the forms of the cells its user is
at, one after the other, and the loop is left when the user is done. -/
theorem session_shows (h : WellNumbered P.formMap) (hmenu : 0 < P.menu.length)
    {visits : List Visit} (hcells : ∀ v ∈ visits, ∀ c ∈ v.selections, c.toNat < P.menu.length)
    (vars : BootVars) (secureBoot : σ) :
    (interact (formRound P) visits (.start vars secureBoot)).Related (At P)
      (fun s cells => FormsOf P cells s.formsShown) (interact navigate visits ⟨0, []⟩) := by
  apply interact_related
  · intro v hv s a hat
    exact formRound_navigates h (hcells v hv) hat
  · exact ⟨rfl, hmenu, rfl⟩

/-- A GUID for a run. -/
def zeroGuid : Block 16 := ⟨List.replicate 16 0, List.length_replicate⟩

/-- A platform with the limited menu. -/
def limitedPlatform : FrontPagePlatform (Option UInt8) where
  showFullMenu := false
  formMap := mFormMap ⟨zeroGuid, zeroGuid, zeroGuid, zeroGuid, 1, 1⟩
  dfciH := ⟨[1], 96⟩
  libs := twoKeySets false
  access := fun provider s => provider s
  keysCount := 2

/-- The second cell is touched, and the front page is left from the form it opens. -/
def touchThenExit : List Visit :=
  [⟨[.masterFrame ⟨.userInput, .touch, true, 1⟩], .none⟩, ⟨[], .exit⟩]

theorem session_shows_touchThenExit :
    (interact (formRound limitedPlatform) touchThenExit (.start noVariables none)).Holds
      (fun _ => False) fun s => s.formsShown.map (·.menuString) = [1, 4] := by
  have hlength : limitedPlatform.menu.length = 3 := rfl
  have hmenu : 0 < limitedPlatform.menu.length := by
    rw [hlength]
    omega
  have hinMenu : ∀ v ∈ touchThenExit, ∀ c ∈ v.selections,
      c.toNat < limitedPlatform.menu.length := by
    rw [hlength]
    intro v hv c hc
    rcases List.mem_pair.mp hv with rfl | rfl
    · have hone : c = 1 := List.mem_singleton.mp hc
      rw [hone]
      decide
    · cases hc
  have h := session_shows (P := limitedPlatform) (mFormMap_wellNumbered _) hmenu hinMenu
    noVariables none
  have hcells : interact navigate touchThenExit ⟨0, []⟩ = .done [0, 1] := rfl
  rw [hcells] at h
  cases hend : interact (formRound limitedPlatform) touchThenExit (.start noVariables none) with
  | next s =>
      rw [hend] at h
      exact h
  | done s =>
      rw [hend] at h
      have hforms : FormsOf limitedPlatform [0, 1] s.formsShown := h
      have hstrings := congrArg (List.map (Option.map (·.menuString))) hforms
      rw [List.map_map, List.map_map] at hstrings
      apply List.map_injective_iff.mpr (Option.some_injective EfiStringId)
      rw [List.map_map]
      exact hstrings

/-! ## How the front page is left -/

/-- The arguments are there, and a value has changed: the question is looked at. -/
def UiCall.handled (c : UiCall) : Bool := !(c.valueNull || c.actionRequestNull) && c.changed

/-- An event after which a reset is required, with these variables: the user was asked about the
Secure Boot keys, or OsIndications could be written. -/
def BrowserEvent.needsReset (vars : BootVars) : BrowserEvent → Bool
  | .masterFrame _ => false
  | .callback c =>
      c.handled &&
        ((c.questionId == frontPageActionSecChangeSbConfig && c.secureBoot.allocated) ||
          (c.questionId == frontPageActionRebootToFrontPage &&
            !efiError (handleRebootToFrontPage c.uninitialized vars).status))

/-- An event that disables variable policy: a selection of Secure Boot keys is submitted. -/
def BrowserEvent.disablesPolicy : BrowserEvent → Bool
  | .masterFrame _ => false
  | .callback c =>
      c.handled && c.questionId == frontPageActionSecChangeSbConfig && submitted c.secureBoot

/-- An event that disables it needs a reset. -/
theorem needsReset_of_disablesPolicy {e : BrowserEvent} (vars : BootVars)
    (h : e.disablesPolicy = true) : e.needsReset vars = true := by
  cases e with
  | masterFrame n => cases h
  | callback c =>
      simp only [BrowserEvent.disablesPolicy, submitted, Bool.and_eq_true] at h
      obtain ⟨⟨hhandled, hquestion⟩, ⟨⟨hallocated, -⟩, -⟩, -⟩ := h
      simp only [BrowserEvent.needsReset, hhandled, hquestion, hallocated, Bool.true_and,
        Bool.true_or]

/-- HandleSecureBootChange requires a reset once it has got as far as its dialog. -/
theorem handleSecureBootChange_resetRequired (ui : SecureBootDialog) (secureBoot : σ) :
    (handleSecureBootChange P.dfciH P.libs P.access P.keysCount ui secureBoot).1.resetRequired =
      ui.allocated := by
  unfold handleSecureBootChange
  cases halloc : ui.allocated with
  | true =>
      simp only [Bool.not_true, Bool.false_eq_true, if_false]
      split_ifs <;> rfl
  | false => rfl

/-- HandleRebootToFrontPage requires a reset when it succeeds. -/
theorem handleRebootToFrontPage_resetRequired (uninitialized : BitVec 64) (vars : BootVars) :
    (handleRebootToFrontPage uninitialized vars).resetRequired =
      !efiError (handleRebootToFrontPage uninitialized vars).status := by
  unfold handleRebootToFrontPage
  dsimp only
  split
  · rfl
  · rename_i hread
    rw [Bool.or_eq_true, not_or, Bool.not_eq_true', Bool.not_eq_false] at hread
    show false = !efiError (vars.getVariable .osIndications 8).status
    rw [hread.1]
    rfl

/-- **What the switch does to the two flags.** -/
theorem uiSwitch_flags (c : UiCall) (s : Session σ) :
    let keys := c.questionId == frontPageActionSecChangeSbConfig
    let reboot := c.questionId == frontPageActionRebootToFrontPage
    (uiSwitch P c s).2.2.resetRequired = (s.resetRequired || ((keys && c.secureBoot.allocated) ||
        (reboot && !efiError (handleRebootToFrontPage c.uninitialized s.vars).status))) ∧
      (uiSwitch P c s).2.2.policyDisabled =
        (s.policyDisabled || (keys && submitted c.secureBoot)) := by
  intro keys reboot
  simp only [keys, reboot]
  unfold uiSwitch
  -- the keys are different numbers
  by_cases hwhatIs : c.questionId = frontPageActionSecDisplaySbWhatIs
  · rw [if_pos hwhatIs, hwhatIs]
    exact ⟨(Bool.or_false _).symm, (Bool.or_false _).symm⟩
  rw [if_neg hwhatIs]
  by_cases hpassword : c.questionId = frontPageActionSecSetSystemPassword
  · rw [if_pos hpassword, hpassword]
    exact ⟨(Bool.or_false _).symm, (Bool.or_false _).symm⟩
  rw [if_neg hpassword]
  by_cases hkeys : c.questionId = frontPageActionSecChangeSbConfig
  · rw [if_pos hkeys, hkeys]
    dsimp only
    rw [handleSecureBootChange_resetRequired]
    exact ⟨congrArg _ (Bool.or_false _).symm, rfl⟩
  rw [if_neg hkeys]
  by_cases hexit : c.questionId = frontPageActionExitFrontPage
  · rw [if_pos hexit, hexit]
    exact ⟨(Bool.or_false _).symm, (Bool.or_false _).symm⟩
  rw [if_neg hexit]
  by_cases hreboot : c.questionId = frontPageActionRebootToFrontPage
  · rw [if_pos hreboot, hreboot]
    dsimp only
    rw [handleRebootToFrontPage_resetRequired]
    exact ⟨rfl, (Bool.or_false _).symm⟩
  · rw [if_neg hreboot, beq_false_of_ne hkeys, beq_false_of_ne hreboot]
    exact ⟨(Bool.or_false _).symm, (Bool.or_false _).symm⟩

/-- **What an event does to the two flags.** -/
theorem serve_flags (e : BrowserEvent) (s : Session σ) :
    (serve P s e).resetRequired = (s.resetRequired || e.needsReset s.vars) ∧
      (serve P s e).policyDisabled = (s.policyDisabled || e.disablesPolicy) := by
  cases e with
  | masterFrame n =>
      show (masterFrameNotifyCallback n s).resetRequired = (s.resetRequired || false) ∧
        (masterFrameNotifyCallback n s).policyDisabled = (s.policyDisabled || false)
      rw [Bool.or_false, Bool.or_false]
      -- the display engine changes neither
      unfold masterFrameNotifyCallback
      dsimp only
      split_ifs <;> exact ⟨rfl, rfl⟩
  | callback c =>
      show (uiCallback P c s).2.2.resetRequired = _ ∧ (uiCallback P c s).2.2.policyDisabled = _
      unfold uiCallback
      dsimp only [BrowserEvent.needsReset, BrowserEvent.disablesPolicy, UiCall.handled]
      cases hargs : c.valueNull || c.actionRequestNull with
      | true => exact ⟨(Bool.or_false _).symm, (Bool.or_false _).symm⟩
      | false =>
          cases hchanged : c.changed with
          | false => exact ⟨(Bool.or_false _).symm, (Bool.or_false _).symm⟩
          | true => exact uiSwitch_flags c { s with callbackKey := c.questionId }

/-- Nothing in the visit needs a reset. -/
def Quiet (P : FrontPagePlatform σ) (v : Visit) (s : Session σ) : Prop :=
  ∀ form, callFrontPage P.showFullMenu P.formMap s.currentFormIndex = some form →
    v.actionRequest ≠ .reset ∧
      (callbacks P).Along (fun s e => e.needsReset s.vars = false)
        { s with terminateFrontPage := true, formsShown := s.formsShown ++ [form] } v.events

/-- mResetRequired while a form is shown. -/
theorem served_reset (events : List BrowserEvent) (s : Session σ) :
    ((callbacks P).run s events).resetRequired = false ↔ s.resetRequired = false ∧
      (callbacks P).Along (fun s e => e.needsReset s.vars = false) s events := by
  apply Machine.run_iff_along (callbacks P) (I := (·.resetRequired = false))
  intro s e
  rw [← Bool.or_eq_false_iff, ← (serve_flags (P := P) e s).1]
  exact Iff.rfl

/-- A visit leaves mResetRequired alone exactly when it is quiet. -/
theorem callFrontPageVisit_reset (v : Visit) (s : Session σ) :
    (callFrontPageVisit P v { s with terminateFrontPage := true }).resetRequired = false ↔
      s.resetRequired = false ∧ Quiet P v s := by
  unfold callFrontPageVisit Quiet
  dsimp only
  cases callFrontPage P.showFullMenu P.formMap s.currentFormIndex with
  -- no form with this index: SendForm is not called
  | none => exact (and_iff_left fun _ h => nomatch h).symm
  | some form =>
      dsimp only
      rw [actOnRequest_resetRequired, showForm, served_reset]
      constructor
      · rintro ⟨haction, hreset, hquiet⟩
        refine ⟨hreset, ?_⟩
        rintro _ ⟨⟩
        exact ⟨haction, hquiet⟩
      · rintro ⟨hreset, hquiet⟩
        obtain ⟨haction, halong⟩ := hquiet form rfl
        exact ⟨haction, hreset, halong⟩

/-- The system is reset at once, before BootNext is looked at. -/
def FrontPageExit.IsColdReset : FrontPageExit σ → Prop
  | .coldReset _ => True
  | .bootNext _ _ _ => False

/-- **When the front page resets the system.** Over every session: it goes on to BootNext exactly
when nothing that came in needed a reset, from the first form to the last. -/
theorem session_reset_iff (P : FrontPagePlatform σ) (options : LoadOptions)
    (bootNext : Option Variable) (visits : List Visit) (vars : BootVars) (secureBoot : σ) :
    (uefiMain P options bootNext visits (.start vars secureBoot)).Holds (fun _ => True) fun x =>
      ¬ x.IsColdReset ↔ InteractAlong (formRound P) (Quiet P) visits (.start vars secureBoot) := by
  have hround : ∀ v s, (formRound P v s).Holds
      (fun s' => s'.resetRequired = false ↔ s.resetRequired = false ∧ Quiet P v s)
      (fun s' => s'.resetRequired = false ↔ s.resetRequired = false ∧ Quiet P v s) := by
    intro v s
    unfold formRound
    dsimp only
    split_ifs
    · exact callFrontPageVisit_reset v s
    · exact callFrontPageVisit_reset v s
  have hrun := interact_iff_along hround visits (.start vars secureBoot)
  unfold uefiMain
  cases hend : interact (formRound P) visits (.start vars secureBoot) with
  | next s => exact trivial
  | done s =>
      rw [hend] at hrun
      have hflag : s.resetRequired = false ↔
          InteractAlong (formRound P) (Quiet P) visits (.start vars secureBoot) :=
        Iff.trans hrun (and_iff_right rfl)
      dsimp only
      rw [← hflag]
      cases s.resetRequired with
      | true => exact iff_of_false (fun h => h trivial) Bool.noConfusion
      | false => exact iff_of_true id rfl

/-- Disabled variable policy has been noted for a reset. -/
def PolicyNoted (s : Session σ) : Prop := s.policyDisabled = true → s.resetRequired = true

/-- Every event notes it. -/
theorem serve_policyNoted {s : Session σ} (h : PolicyNoted s) (e : BrowserEvent) :
    PolicyNoted (serve P s e) := by
  obtain ⟨hreset, hpolicy⟩ := serve_flags (P := P) e s
  intro hdisabled
  rw [hpolicy, Bool.or_eq_true] at hdisabled
  rw [hreset, Bool.or_eq_true]
  exact hdisabled.imp h (needsReset_of_disablesPolicy s.vars)

theorem actOnRequest_policyNoted {s : Session σ} (h : PolicyNoted s)
    (actionRequest : BrowserActionRequest) : PolicyNoted (actOnRequest actionRequest s) := by
  intro hdisabled
  rw [actOnRequest_policyDisabled] at hdisabled
  rw [← Bool.not_eq_false, actOnRequest_resetRequired]
  rintro ⟨-, hreset⟩
  rw [h hdisabled] at hreset
  cases hreset

/-- **Variable policy does not stay disabled.** In every session, whatever the user does: once
DisableVariablePolicy has been called, the front page is left by a cold reset and nothing is booted
from it. -/
theorem session_policy_reset (P : FrontPagePlatform σ) (options : LoadOptions)
    (bootNext : Option Variable) (visits : List Visit) (vars : BootVars) (secureBoot : σ) :
    (uefiMain P options bootNext visits (.start vars secureBoot)).Holds PolicyNoted fun
      | .coldReset _ => True
      | .bootNext s _ _ => s.policyDisabled = false := by
  have hround : ∀ v ∈ visits, ∀ s, PolicyNoted s →
      (formRound P v s).Holds PolicyNoted PolicyNoted := by
    intro v _ s hs
    -- the events keep it one by one, and the action request only adds a reset
    have hvisit : PolicyNoted (callFrontPageVisit P v { s with terminateFrontPage := true }) := by
      unfold callFrontPageVisit
      dsimp only
      cases callFrontPage P.showFullMenu P.formMap s.currentFormIndex with
      | none => exact hs
      | some form =>
          apply actOnRequest_policyNoted
          unfold showForm
          apply (callbacks P).run_preserves (I := PolicyNoted)
          · intro s e h
            exact serve_policyNoted h e
          · exact hs
    unfold formRound
    dsimp only
    split_ifs
    · exact hvisit
    · exact hvisit
  have hrun := interact_preserves hround (s := .start vars secureBoot) fun h => nomatch h
  unfold uefiMain
  cases hend : interact (formRound P) visits (.start vars secureBoot) with
  | next s =>
      rw [hend] at hrun
      exact hrun
  | done s =>
      rw [hend] at hrun
      have hnoted : PolicyNoted s := hrun
      dsimp only
      cases hreset : s.resetRequired with
      | true => exact trivial
      | false =>
          -- no reset was required, so the policy was never disabled
          show s.policyDisabled = false
          rw [← Bool.not_eq_true]
          intro hdisabled
          rw [hnoted hdisabled] at hreset
          cases hreset

end OemPkg.FrontPage
