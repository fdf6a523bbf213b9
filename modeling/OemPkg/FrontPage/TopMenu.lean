/-
# OemPkg.FrontPage.TopMenu — who sees the full menu, and what its cells open

The model of CreateTopMenu (`FrontPage/FrontPage.c`), which joins the two parts of the front page:
authentication decides between the full and the limited menu, and the menu chosen is filled into the
cells of a list box. The two results are `full_menu_needs_authentication` and
`selected_cell_opens_its_form`.
-/
import OemPkg.FrontPage.Authentication
import OemPkg.FrontPage.FormMap

namespace OemPkg.FrontPage

open OemPkg.Lib OemPkg.Uefi

/-- The globals CreateTopMenu and CallFrontPage share. -/
structure FrontPageGlobals where
  /-- mShowFullMenu -/
  showFullMenu : Bool
  /-- mAuthToken -/
  authToken : DfciAuthToken
  /-- mFormMap -/
  formMap : FormMap

/-- What the calls of one CreateTopMenu answer. -/
structure TopMenuServices where
  /-- GetAuthToken without a password -/
  noPassword : AuthServices
  /-- the rounds of the password dialog -/
  rounds : List PasswordRound
  /-- PcdMaxPasswordAttempts -/
  maxPasswordAttempts : UInt8
  isDfciEnabledForDisplay : Bool
  isHwhEnabledForDisplay : Bool
  /-- AllocateZeroPool for the cells succeeds -/
  allocated : Bool

/-- The constants of other packages and of the string table. -/
structure FrontPageH where
  /-- DFCI_AUTH_TOKEN_INVALID -/
  dfciAuthTokenInvalid : DfciAuthToken
  /-- STR_MF_MENU_OP_DFCI -/
  strMenuOpDfci : EfiStringId
  /-- STR_MF_MENU_OP_HWH -/
  strMenuOpHwh : EfiStringId

/-- What CreateTopMenu leaves: the globals, whether it sets PcdSetupUiReducedFunction, the calls of
GetAuthToken it made, and the cells of the list box, unless there was no memory for them. -/
structure TopMenu where
  page : FrontPageGlobals
  setupUiReducedFunction : Bool
  attempts : List Attempt
  menuOptions : Option (List (Option EfiStringId))

variable (H : FrontPageH) (sv : TopMenuServices)

/-- The first part of CreateTopMenu, up to the choice of the menu: mShowFullMenu, mAuthToken and the
calls of GetAuthToken. There is no result while the password dialog is open. -/
def chooseMenu (page : FrontPageGlobals) : Option (FrontPageGlobals × List Attempt) :=
  let first := getAuthToken H.dfciAuthTokenInvalid sv.noPassword none page.authToken
  if first.status ≠ efiSuccess then
    let (result, c) := challengeUserPassword H.dfciAuthTokenInvalid sv.rounds
      sv.maxPasswordAttempts first.token
    result.map fun authenticated =>
      ({ page with
          showFullMenu := page.showFullMenu || authenticated
          authToken := c.token }, first :: c.attempts)
  else
    -- no password is set, but the token must be valid
    some ({ page with
      showFullMenu := page.showFullMenu || first.token != H.dfciAuthTokenInvalid
      authToken := first.token }, [first])

/-- The entries CreateTopMenu removes. -/
def undisplayed : List EfiStringId :=
  (if sv.isDfciEnabledForDisplay then [] else [H.strMenuOpDfci]) ++
    if sv.isHwhEnabledForDisplay then [] else [H.strMenuOpHwh]

/-- CreateTopMenu, without the drawing. -/
def createTopMenu (page : FrontPageGlobals) : Option TopMenu :=
  (chooseMenu H sv page).map fun (page, attempts) =>
    if !sv.allocated then ⟨page, !page.showFullMenu, attempts, none⟩
    else
      let formMap := (undisplayed H sv).foldl removeMenuFromList page.formMap
      ⟨{ page with formMap := formMap }, !page.showFullMenu, attempts,
        some (menuOptions page.showFullMenu formMap)⟩

/-! ## The choice -/

variable {H sv}

theorem chooseMenu_authenticated {page page' : FrontPageGlobals} {attempts : List Attempt}
    (h : chooseMenu H sv page = some (page', attempts)) (hload : page.showFullMenu = false)
    (hfull : page'.showFullMenu = true) :
    ∃ a ∈ attempts, a.Authenticated H.dfciAuthTokenInvalid := by
  unfold chooseMenu at h
  dsimp only at h
  by_cases hfirst : (getAuthToken H.dfciAuthTokenInvalid sv.noPassword none
      page.authToken).status = efiSuccess
  · rw [if_neg (not_not.mpr hfirst), Option.some.injEq, Prod.mk.injEq] at h
    obtain ⟨rfl, rfl⟩ := h
    simp only [hload, Bool.false_or, bne_iff_ne] at hfull
    exact ⟨_, List.mem_singleton_self _, authenticated_of_success _ hfirst hfull⟩
  · rw [if_pos hfirst] at h
    obtain ⟨authenticated, hresult, heq⟩ := Option.map_eq_some_iff.mp h
    rw [Prod.mk.injEq] at heq
    obtain ⟨rfl, rfl⟩ := heq
    simp only [hload, Bool.false_or] at hfull
    subst hfull
    obtain ⟨a, ha, hauth⟩ := challengeLoop_authenticated _ sv.rounds hresult
    exact ⟨a, List.mem_cons_of_mem _ ha, hauth⟩

/-- What CreateTopMenu adds to the choice. -/
theorem createTopMenu_chooses {page : FrontPageGlobals} {created : TopMenu}
    (h : createTopMenu H sv page = some created) :
    ∃ chosen, chooseMenu H sv page = some (chosen, created.attempts) ∧
      created.page.showFullMenu = chosen.showFullMenu ∧
      (sv.allocated = true →
        created.page.formMap = (undisplayed H sv).foldl removeMenuFromList chosen.formMap ∧
        created.menuOptions =
          some (menuOptions created.page.showFullMenu created.page.formMap)) := by
  unfold createTopMenu at h
  obtain ⟨⟨chosen, attempts⟩, hchoose, heq⟩ := Option.map_eq_some_iff.mp h
  dsimp only at heq
  cases halloc : sv.allocated with
  | true =>
      rw [halloc] at heq
      subst heq
      exact ⟨chosen, hchoose, rfl, fun _ => ⟨rfl, rfl⟩⟩
  | false =>
      rw [halloc] at heq
      subst heq
      exact ⟨chosen, hchoose, rfl, fun h => absurd h Bool.false_ne_true⟩

/-- The choice leaves the table alone. -/
theorem formMap_chooseMenu {page page' : FrontPageGlobals} {attempts : List Attempt}
    (h : chooseMenu H sv page = some (page', attempts)) : page'.formMap = page.formMap := by
  unfold chooseMenu at h
  dsimp only at h
  split_ifs at h
  · obtain ⟨authenticated, -, heq⟩ := Option.map_eq_some_iff.mp h
    exact (congrArg (FrontPageGlobals.formMap ∘ Prod.fst) heq).symm
  · exact (congrArg (FrontPageGlobals.formMap ∘ Prod.fst) (Option.some.inj h)).symm

/-- **The full menu needs an authentication.** When CreateTopMenu, at the load of the front page,
ends with the full menu, one of the calls of AuthWithPW it made did not fail and delivered a valid
token. And of `n > 0` attempts allowed, ChallengeUserPassword makes no more, and lets the user in
iff one of them succeeds before any Cancel or dialog error, with a valid token. -/
theorem full_menu_needs_authentication (H : FrontPageH) :
    (∀ sv page created, page.showFullMenu = false → createTopMenu H sv page = some created →
      created.page.showFullMenu = true →
        ∃ a ∈ created.attempts, a.Authenticated H.dfciAuthTokenInvalid) ∧
    ∀ rounds n token, n ≠ 0 →
      let r := challengeUserPassword H.dfciAuthTokenInvalid rounds n token
      r.2.attempts.length ≤ n.toNat ∧
        (r.1 = some true ↔ LetIn H.dfciAuthTokenInvalid rounds n.toNat) := by
  constructor
  · intro sv page created hload hcreated hfull
    obtain ⟨chosen, hchoose, hshow, -⟩ := createTopMenu_chooses hcreated
    exact chooseMenu_authenticated hchoose hload (hshow ▸ hfull)
  · intro rounds n token hn
    exact ⟨attempts_le rounds token hn,
      challengeLoop_result_iff H.dfciAuthTokenInvalid rounds token hn⟩

/-- A machine with the password 5: the menu knows the DFCI and the HWH strings as 4 and 5. -/
def frontPageH : FrontPageH := ⟨0, 4, 5⟩

def passwordFive : AuthServices where
  locateProtocol := efiSuccess
  authWithPw buffer :=
    if buffer = some [5] then ⟨efiSuccess, some 7, fun _ => rfl⟩
    else ⟨efiSecurityViolation, none, fun h => absurd h (by decide)⟩
  installMultipleProtocolInterfaces := efiSuccess

/-- A user who answers with these passwords, on a machine that allows two attempts and displays
neither DFCI nor HWH. -/
def enterPasswords (passwords : List UInt16) : TopMenuServices where
  noPassword := passwordFive
  rounds := passwords.map fun p => ⟨efiSuccess, .idOk, some [p], passwordFive⟩
  maxPasswordAttempts := 2
  isDfciEnabledForDisplay := false
  isHwhEnabledForDisplay := false
  allocated := true

/-- The second password is right: of the calls made, that one authenticated. -/
theorem full_menu_needs_authentication_second_try :
    ∃ created,
      createTopMenu frontPageH (enterPasswords [4, 5]) ⟨false, 0, []⟩ = some created ∧
      ∃ a ∈ created.attempts, a.Authenticated frontPageH.dfciAuthTokenInvalid :=
  ⟨_, rfl, (full_menu_needs_authentication frontPageH).1 (enterPasswords [4, 5]) ⟨false, 0, []⟩ _
    rfl rfl (by decide)⟩

/-! ## The cells -/

/-- **The cell the user selects opens the form it names.** Start with a well numbered table, and let
any entries have been removed. In the menu CreateTopMenu chooses, the cells are the remaining
entries in table order with only empty cells behind them, and CallFrontPage of a cell opens the
entry whose string is in it. -/
theorem selected_cell_opens_its_form (H : FrontPageH) (sv : TopMenuServices) {formMap : FormMap}
    (h : WellNumbered formMap) (removed : List EfiStringId) {page : FrontPageGlobals}
    (hpage : page.formMap = removed.foldl removeMenuFromList formMap) {created : TopMenu}
    (hcreated : createTopMenu H sv page = some created) (halloc : sv.allocated = true) :
    let showFullMenu := created.page.showFullMenu
    let remaining := (formMap.menu showFullMenu).filter
      fun f => f.menuString ∉ removed ++ undisplayed H sv
    created.menuOptions = some (remaining.map (fun f => some f.menuString) ++
        List.replicate (formMap.length + 1 - remaining.length) none) ∧
      remaining.length ≤ formMap.length ∧
      ∀ j : UInt32, j.toNat < remaining.length → ∃ f, remaining[j.toNat]? = some f ∧
        callFrontPage showFullMenu created.page.formMap j = some f := by
  intro showFullMenu remaining
  obtain ⟨chosen, hchoose, -, hcells⟩ := createTopMenu_chooses hcreated
  obtain ⟨hmap, hoptions⟩ := hcells halloc
  rw [formMap_chooseMenu hchoose, hpage, ← List.foldl_append] at hmap
  obtain ⟨hnumbered, hmenu, hlength⟩ := removals_spec (removed ++ undisplayed H sv) h
  rw [← hmap] at hnumbered hmenu hlength
  have hremaining : created.page.formMap.menu showFullMenu = remaining := hmenu showFullMenu
  refine ⟨?_, ?_, ?_⟩
  · rw [hoptions, menuOptions_spec hnumbered, hremaining, hlength]
  · have hle := length_selected_le (created.page.formMap.column showFullMenu)
    rw [FormMap.column, List.length_map, hlength] at hle
    rwa [← hremaining]
  · intro j hj
    refine ⟨remaining[j.toNat], List.getElem?_eq_getElem hj, ?_⟩
    apply callFrontPage_spec hnumbered
    rw [hremaining]
    exact List.getElem?_eq_getElem hj

/-- Formsets for a run. -/
def plainFormSets : FormSets :=
  ⟨⟨List.replicate 16 1, rfl⟩, ⟨List.replicate 16 2, rfl⟩, ⟨List.replicate 16 3, rfl⟩,
    ⟨List.replicate 16 4, rfl⟩, 1, 1⟩

/-- Two wrong passwords: the limited menu has the first and the last entry of the table, and each of
its two cells opens a form. -/
theorem selected_cell_opens_its_form_limited :
    ∃ created, createTopMenu frontPageH (enterPasswords [3, 4])
        ⟨false, 0, mFormMap plainFormSets⟩ = some created ∧
      created.menuOptions = some [some 1, some 6, none, none, none, none, none] ∧
      ∃ f, callFrontPage created.page.showFullMenu created.page.formMap 1 = some f ∧
        f.menuString = 6 := by
  have h := @selected_cell_opens_its_form frontPageH (enterPasswords [3, 4])
    (mFormMap plainFormSets) (mFormMap_wellNumbered plainFormSets) []
    ⟨false, 0, mFormMap plainFormSets⟩ rfl _ rfl rfl
  obtain ⟨hcells, -, hopens⟩ := h
  refine ⟨_, rfl, hcells, ?_⟩
  obtain ⟨f, hf, hopen⟩ := hopens 1 (by decide)
  cases hf
  exact ⟨_, hopen, rfl⟩

end OemPkg.FrontPage
