/-
# OemPkg.FrontPage.TokenLife — the auth token, from the front page to the boot menu

GetAuthToken takes a token from the authentication protocol and installs it as a protocol of its own
(`FrontPage/FrontPage.c`). The boot menu, a driver, copies it from there, when it is loaded or
notified, and hands the copy to the setting access protocol with every setting
(`BootMenu/BootMenu.c`). UninitializeFrontPage disposes the token. The copy stays.

So what the boot menu may change depends on what became of the tokens of all front pages before.
`run_accounted` says where the live ones are, `boot_menu_authority` when the boot menu's copy is one
of them, and `nothing_lost_iff` in which runs that is only while the full menu is shown.
-/
import OemPkg.FrontPage.TopMenu
import OemPkg.Lib.Machine
import Mathlib.Data.List.Nodup

namespace OemPkg.FrontPage

open OemPkg.Lib OemPkg.Uefi

section TokenLife

variable (H : FrontPageH) (formMap : FormMap)

/-! ## The calls of one start -/

/-- The token AuthWithPW issued in this attempt, by GetAuthToken's own test. -/
def Attempt.issues (invalid : DfciAuthToken) (a : Attempt) : Option DfciAuthToken :=
  a.authWithPw.bind fun auth =>
    if !efiError auth.status && a.token != invalid then some a.token else none

/-- The token this attempt has installed. -/
def Attempt.installs (invalid : DfciAuthToken) (a : Attempt) : Option DfciAuthToken :=
  if a.status = efiSuccess then a.issues invalid else none

/-- AuthWithPW writes nothing when it fails, or DFCI_AUTH_TOKEN_INVALID. -/
def AuthServices.Plain (invalid : DfciAuthToken) (sv : AuthServices) : Prop :=
  ∀ buffer, efiError (sv.authWithPw buffer).status = true →
    (sv.authWithPw buffer).token = none ∨ (sv.authWithPw buffer).token = some invalid

/-- The globals when the front page has been loaded. -/
def FrontPageGlobals.atLoad : FrontPageGlobals := ⟨false, 0, formMap⟩

/-- What the calls of one start of the front page answer, with a password dialog that ends. -/
structure StartServices where
  menu : TopMenuServices
  ends : (createTopMenu H menu (.atLoad formMap)).isSome
  /-- new_ListBox returns one -/
  newListBox : Bool
  /-- CreateEventEx for the master frame -/
  createEventEx : EfiStatus
  plain : menu.noPassword.Plain H.dfciAuthTokenInvalid ∧
    ∀ r ∈ menu.rounds, r.services.Plain H.dfciAuthTokenInvalid

/-! ## The parties -/

/-- The front page while it shows its forms, as far as UninitializeFrontPage looks. -/
structure OpenPage where
  /-- mShowFullMenu -/
  showFullMenu : Bool
  /-- mAuthToken -/
  authToken : DfciAuthToken
  /-- mAuthProtocol is not NULL -/
  authProtocol : Bool
  /-- mFrontPageAuthTokenProtocol is installed -/
  installed : Bool

/-- The boot menu's mAuthToken, and whether AuthTokenCallback is registered. -/
structure BootMenuDriver where
  authToken : DfciAuthToken
  registered : Bool

/-- The authentication protocol with the tokens it has issued and those that are live, the token
protocols that are installed, and the two modules once they are there. -/
structure TokenWorld where
  issued : List DfciAuthToken
  live : List DfciAuthToken
  interfaces : List DfciAuthToken
  page : Option OpenPage
  bootMenu : Option BootMenuDriver

/-- Before the first module is loaded. -/
def TokenWorld.start : TokenWorld := ⟨[], [], [], none, none⟩

/-- AuthTokenCallback (`BootMenu/BootMenu.c`), when `t` is installed. -/
def BootMenuDriver.authTokenCallback (t : DfciAuthToken) (b : BootMenuDriver) : BootMenuDriver :=
  if b.registered then { b with authToken := t } else b

/-- BootMenuEntry (`BootMenu/BootMenu.c`), its part about the token. Who finds a token is not told
of later ones. -/
def bootMenuEntry (createEvent registerProtocolNotify : EfiStatus) (w : TokenWorld) :
    BootMenuDriver :=
  match w.interfaces.head? with
  | none => ⟨0, !efiError createEvent && !efiError registerProtocolNotify⟩
  | some t => ⟨t, false⟩

/-- Tokens are issued, and one of them installed, if any. -/
def TokenWorld.grant (w : TokenWorld) (tokens : List DfciAuthToken)
    (installed : Option DfciAuthToken) : TokenWorld where
  issued := w.issued ++ tokens
  live := w.live ++ tokens
  interfaces := w.interfaces ++ installed.toList
  page := w.page
  bootMenu := match installed with
    | none => w.bootMenu
    | some t => w.bootMenu.map (·.authTokenCallback t)

/-- What one call of GetAuthToken does to the others. -/
def TokenWorld.attempt (invalid : DfciAuthToken) (w : TokenWorld) (a : Attempt) : TokenWorld :=
  w.grant (a.issues invalid).toList (a.installs invalid)

variable {H formMap} in
/-- CreateTopMenu at this start. -/
def StartServices.topMenu (sv : StartServices H formMap) : TopMenu :=
  (createTopMenu H sv.menu (.atLoad formMap)).get sv.ends

variable {H formMap} in
/-- InitializeFrontPageUI's status. -/
def StartServices.initializeFrontPageUI (sv : StartServices H formMap) : EfiStatus :=
  if sv.topMenu.menuOptions.isNone || !sv.newListBox then efiOutOfResources else sv.createEventEx

/-- The globals CreateTopMenu leaves to UninitializeFrontPage. -/
def TopMenu.openPage (invalid : DfciAuthToken) (m : TopMenu) : OpenPage where
  showFullMenu := m.page.showFullMenu
  authToken := m.page.authToken
  authProtocol := m.attempts.getLast?.any (·.authWithPw.isSome)
  installed := m.attempts.getLast?.any fun a => (a.installs invalid).isSome

/-- The token UninitializeFrontPage will pass to DisposeAuthToken. -/
def OpenPage.held (p : OpenPage) : Option DfciAuthToken :=
  if p.authProtocol then some p.authToken else none

variable {H formMap} in
/-- UefiMain up to the first form, or to its exit, with the tokens nobody will dispose then. -/
def TokenWorld.uefiMain (w : TokenWorld) (sv : StartServices H formMap) :
    TokenWorld × List DfciAuthToken :=
  let invalid := H.dfciAuthTokenInvalid
  let issued := sv.topMenu.attempts.filterMap (·.issues invalid)
  let w := sv.topMenu.attempts.foldl (.attempt invalid) w
  if sv.initializeFrontPageUI = efiSuccess then
    let page := sv.topMenu.openPage invalid
    ({ w with page := some page }, issued.filter fun t => page.held != some t)
  else (w, issued)

/-- The page is gone and its token protocol uninstalled. -/
def TokenWorld.closePage (w : TokenWorld) (p : OpenPage) (live : List DfciAuthToken) :
    TokenWorld :=
  { w with
    interfaces := if p.installed then w.interfaces.erase p.authToken else w.interfaces
    page := none
    live }

/-- UninitializeFrontPage, its part about the token, with the token it could not dispose. -/
def TokenWorld.uninitializeFrontPage (w : TokenWorld) (p : OpenPage)
    (disposeAuthToken : EfiStatus) : TokenWorld × List DfciAuthToken :=
  match p.held with
  | none => (w.closePage p w.live, [])
  | some t =>
      if efiError disposeAuthToken then (w.closePage p w.live, if t ∈ w.live then [t] else [])
      else (w.closePage p (w.live.filter (· != t)), [])

/-- What happens next. -/
inductive TokenStep where
  | bootMenuEntry (createEvent registerProtocolNotify : EfiStatus)
  | uefiMain (sv : StartServices H formMap)
  | uninitializeFrontPage (disposeAuthToken : EfiStatus)

/-- The life of the tokens. The boot menu is loaded once, and a front page started when no other is
open. Each step answers with the tokens that it leaves live for good. -/
def tokenLife : Machine TokenWorld (TokenStep H formMap) (List DfciAuthToken) where
  step w
    | .bootMenuEntry createEvent registerProtocolNotify =>
        (match w.bootMenu with
          | none => { w with bootMenu := bootMenuEntry createEvent registerProtocolNotify w }
          | some _ => w, [])
    | .uefiMain sv =>
        match w.page with
        | none => w.uefiMain sv
        | some _ => (w, [])
    | .uninitializeFrontPage disposeAuthToken =>
        match w.page with
        | none => (w, [])
        | some p => w.uninitializeFrontPage p disposeAuthToken

end TokenLife

/-! ## The attempts of one start -/

section Attempts

variable {invalid : DfciAuthToken} {sv : AuthServices} {buffer : Option (List UInt16)}
  {token : DfciAuthToken} {tokens : List DfciAuthToken}

/-- What mAuthToken may hold, if these tokens were issued: one of them, or no token. -/
def Own (invalid : DfciAuthToken) (tokens : List DfciAuthToken) (t : DfciAuthToken) : Prop :=
  t = 0 ∨ t = invalid ∨ t ∈ tokens

theorem Own.append {t : DfciAuthToken} (h : Own invalid tokens t) (more : List DfciAuthToken) :
    Own invalid (tokens ++ more) t :=
  h.imp_right (.imp_right fun hmem => List.mem_append_left more hmem)

theorem token_of_issues {a : Attempt} {t : DfciAuthToken} (h : a.issues invalid = some t) :
    a.authWithPw.isSome = true ∧ a.token = t ∧ t ≠ invalid := by
  obtain ⟨auth, hauth, hissues⟩ := Option.bind_eq_some_iff.mp h
  split_ifs at hissues with htest
  rw [Bool.and_eq_true, bne_iff_ne] at htest
  have htoken : a.token = t := Option.some.inj hissues
  exact ⟨Option.isSome_iff_exists.mpr ⟨auth, hauth⟩, htoken, htoken ▸ htest.2⟩

theorem issues_of_installs {a : Attempt} {t : DfciAuthToken} (h : a.installs invalid = some t) :
    a.issues invalid = some t := by
  unfold Attempt.installs at h
  split_ifs at h
  exact h

theorem installs_eq_none {a : Attempt} (h : a.status ≠ efiSuccess) : a.installs invalid = none :=
  if_neg h

variable (buffer) in
/-- mAuthToken stays within what was issued, whatever the attempt comes to. -/
theorem getAuthToken_own (hplain : sv.Plain invalid) (h : Own invalid tokens token) :
    Own invalid (tokens ++ ((getAuthToken invalid sv buffer token).issues invalid).toList)
      (getAuthToken invalid sv buffer token).token := by
  by_cases hlocate : efiError sv.locateProtocol = true
  · simp only [getAuthToken, hlocate, if_true]
    exact h.append _
  cases herror : efiError (sv.authWithPw buffer).status with
  | true =>
      rcases hplain buffer herror with hnone | hinvalid
      · simp only [getAuthToken, hlocate, herror, hnone, Bool.not_true, Bool.false_and, if_false,
          Bool.false_eq_true, Option.getD_none]
        exact h.append _
      · simp only [getAuthToken, hlocate, herror, hinvalid, Bool.not_true, Bool.false_and, if_false,
          Bool.false_eq_true, Option.getD_some]
        exact .inr (.inl rfl)
  | false =>
      obtain ⟨t, ht⟩ := Option.isSome_iff_exists.mp ((sv.authWithPw buffer).writes herror)
      by_cases hvalid : t = invalid
      · simp only [getAuthToken, hlocate, herror, ht, hvalid, bne_self_eq_false, Bool.and_false,
          if_false, Bool.false_eq_true, Option.getD_some]
        exact .inr (.inl rfl)
      · have htest : (t != invalid) = true := bne_iff_ne.mpr hvalid
        simp only [getAuthToken, hlocate, herror, ht, htest, Bool.not_false, Bool.and_self, if_true,
          if_false, Bool.false_eq_true, Option.getD_some, Attempt.issues, Option.bind_some]
        exact .inr (.inr (List.mem_append_right tokens (List.mem_singleton_self t)))

/-- GetAuthToken has installed a token exactly if it returns EFI_SUCCESS with a valid one. -/
theorem installs_getAuthToken :
    ((getAuthToken invalid sv buffer token).installs invalid).isSome =
      ((getAuthToken invalid sv buffer token).status == efiSuccess &&
        (getAuthToken invalid sv buffer token).token != invalid) := by
  by_cases hstatus : (getAuthToken invalid sv buffer token).status = efiSuccess
  · obtain ⟨hcalled, hok, -⟩ := getAuthToken_success invalid hstatus
    rw [Attempt.installs, if_pos hstatus, Attempt.issues, hcalled, Option.bind_some, hok, hstatus]
    cases (getAuthToken invalid sv buffer token).token != invalid <;> rfl
  · rw [installs_eq_none hstatus, beq_eq_false_iff_ne.mpr hstatus]
    rfl

/-- What the attempts of a start decide: the last one leaves mAuthToken, and it alone can have
installed a token, which is what gives the full menu. -/
def Decided (invalid : DfciAuthToken) (attempts : List Attempt) (token : DfciAuthToken)
    (full : Bool) : Prop :=
  ∃ earlier last, attempts = earlier ++ [last] ∧ token = last.token ∧
    (∀ a ∈ earlier, a.installs invalid = none) ∧ full = (last.installs invalid).isSome

theorem decided_last {a : Attempt} {full : Bool} (h : full = (a.installs invalid).isSome) :
    Decided invalid [a] a.token full :=
  ⟨[], a, rfl, rfl, fun _ h => absurd h List.not_mem_nil, h⟩

/-- An attempt that fails decides on the limited menu. -/
theorem decided_failed {a : Attempt} (h : a.installs invalid = none) :
    Decided invalid [a] a.token false :=
  decided_last (congrArg Option.isSome h).symm

theorem Decided.cons {a : Attempt} {attempts : List Attempt} {full : Bool}
    (h : Decided invalid attempts token full) (ha : a.installs invalid = none) :
    Decided invalid (a :: attempts) token full := by
  obtain ⟨earlier, last, rfl, htoken, hearlier, hfull⟩ := h
  exact ⟨a :: earlier, last, rfl, htoken, List.forall_mem_cons.mpr ⟨ha, hearlier⟩, hfull⟩

/-- The dialog after a failing attempt, by induction on the rounds: the attempt last made is the
`first` of the rounds to come. -/
theorem challengeLoop_decided (rounds : List PasswordRound) : ∀ {n : UInt8} {first : Attempt}
    {full : Bool}, first.installs invalid = none →
      (challengeLoop invalid rounds n first.token).result invalid = some full →
        Decided invalid (first :: (challengeLoop invalid rounds n first.token).attempts)
          (challengeLoop invalid rounds n first.token).token full := by
  induction rounds with
  | nil => intro n first full _ h; cases h
  | cons r rounds ih =>
      intro n first full hfirst h
      cases roundCase invalid r n with
      | stops stops =>
          rw [challengeLoop_stops stops] at h ⊢
          cases h
          exact decided_failed hfirst
      | skips stops asks =>
          rw [challengeLoop_skips stops asks] at h ⊢
          exact ih hfirst h
      | authenticates asks auth =>
          rw [challengeLoop_authenticates asks auth] at h ⊢
          apply Decided.cons (h := ?_) hfirst
          apply decided_last
          rw [installs_getAuthToken, authenticates_iff.mp auth]
          exact (Option.some.inj h).symm
      | expires asks auth last =>
          rw [challengeLoop_expires asks auth last] at h ⊢
          cases h
          exact (decided_failed (installs_eq_none (status_ne_success auth))).cons hfirst
      | retries asks auth more =>
          rw [challengeLoop_retries asks auth more] at h ⊢
          exact (ih (installs_eq_none (status_ne_success auth)) h).cons hfirst

theorem issued_cons (a : Attempt) (attempts : List Attempt) :
    (a :: attempts).filterMap (·.issues invalid) =
      (a.issues invalid).toList ++ attempts.filterMap (·.issues invalid) := by
  cases h : a.issues invalid with
  | none => exact List.filterMap_cons_none h
  | some t => exact List.filterMap_cons_some h

/-- mAuthToken during the dialog. -/
theorem challengeLoop_own (rounds : List PasswordRound) :
    ∀ {n : UInt8} {tokens : List DfciAuthToken} {token : DfciAuthToken},
      (∀ r ∈ rounds, r.services.Plain invalid) → Own invalid tokens token → Own invalid
        (tokens ++ (challengeLoop invalid rounds n token).attempts.filterMap (·.issues invalid))
        (challengeLoop invalid rounds n token).token := by
  induction rounds with
  | nil => intro n tokens token _ h; exact h.append _
  | cons r rounds ih =>
      intro n tokens token hplain h
      obtain ⟨hr, hrounds⟩ := List.forall_mem_cons.mp hplain
      have hattempt := getAuthToken_own r.passwordBuffer hr h
      cases roundCase invalid r n with
      | stops stops =>
          -- no further attempt: nothing is issued
          rw [challengeLoop_stops stops]
          exact h.append _
      | skips stops asks =>
          rw [challengeLoop_skips stops asks]
          exact ih hrounds h
      | authenticates asks auth =>
          rw [challengeLoop_authenticates asks auth, issued_cons]
          exact (List.append_nil _).symm ▸ hattempt
      | expires asks auth last =>
          rw [challengeLoop_expires asks auth last, issued_cons]
          exact (List.append_nil _).symm ▸ hattempt
      | retries asks auth more =>
          rw [challengeLoop_retries asks auth more, issued_cons, ← List.append_assoc]
          exact ih hrounds hattempt

/-! ## One start -/

variable {w : TokenWorld}

theorem grant_grant (xs ys : List DfciAuthToken) (installed : Option DfciAuthToken) :
    (w.grant xs none).grant ys installed = w.grant (xs ++ ys) installed := by
  simp only [TokenWorld.grant, Option.toList_none, List.append_nil, List.append_assoc]

/-- Attempts that install nothing, by induction. -/
theorem foldl_attempt_failed (attempts : List Attempt) :
    ∀ {w : TokenWorld}, (∀ a ∈ attempts, a.installs invalid = none) →
      attempts.foldl (.attempt invalid) w =
        w.grant (attempts.filterMap (·.issues invalid)) none := by
  induction attempts with
  | nil =>
      intro w _
      simp only [TokenWorld.grant, List.foldl_nil, List.filterMap_nil, Option.toList_none,
        List.append_nil]
  | cons a attempts ih =>
      intro w h
      obtain ⟨ha, hattempts⟩ := List.forall_mem_cons.mp h
      rw [List.foldl_cons, ih hattempts, TokenWorld.attempt, ha, grant_grant, issued_cons]

/-- What CreateTopMenu leaves to the others: `issued` has been issued, and mAuthToken is installed
exactly if the full menu is shown. -/
structure Granted (invalid : DfciAuthToken) (attempts : List Attempt) (p : OpenPage)
    (installed : Option DfciAuthToken) : Prop where
  world : ∀ w : TokenWorld, attempts.foldl (.attempt invalid) w =
    w.grant (attempts.filterMap (·.issues invalid)) installed
  full : p.showFullMenu = installed.isSome
  page : p.installed = installed.isSome
  own : Own invalid (attempts.filterMap (·.issues invalid)) p.authToken
  installs : ∀ t, installed = some t →
    p.authToken = t ∧ p.held = some t ∧ t ∈ attempts.filterMap (·.issues invalid)

theorem Decided.granted {m : TopMenu}
    (h : Decided invalid m.attempts m.page.authToken m.page.showFullMenu)
    (hown : Own invalid (m.attempts.filterMap (·.issues invalid)) m.page.authToken) :
    ∃ installed, Granted invalid m.attempts (m.openPage invalid) installed := by
  obtain ⟨earlier, last, hattempts, htoken, hearlier, hfull⟩ := h
  have hlast : m.attempts.getLast? = some last := by
    rw [hattempts, List.getLast?_concat]
  refine ⟨last.installs invalid, ?_, hfull, ?_, hown, ?_⟩
  · intro w
    rw [hattempts, List.foldl_append, foldl_attempt_failed earlier hearlier, List.foldl_cons,
      List.foldl_nil, TokenWorld.attempt, grant_grant, List.filterMap_append, issued_cons,
      List.filterMap_nil, List.append_nil]
  · exact congrArg (Option.any _) hlast
  · intro t ht
    obtain ⟨hcalled, heq, -⟩ := token_of_issues (issues_of_installs ht)
    have hpage : (m.openPage invalid).authToken = t := htoken.trans heq
    refine ⟨hpage, ?_, ?_⟩
    · rw [OpenPage.held, hpage]
      apply if_pos
      show Option.any _ m.attempts.getLast? = true
      rw [hlast]
      exact hcalled
    · rw [hattempts]
      exact List.mem_filterMap.mpr ⟨last, List.mem_append_right _ (List.mem_singleton_self _),
        issues_of_installs ht⟩

end Attempts

section Start

variable {H : FrontPageH} {formMap : FormMap}

theorem chooseMenu_decided {sv : TopMenuServices} {page page' : FrontPageGlobals}
    {attempts : List Attempt} (h : chooseMenu H sv page = some (page', attempts))
    (hload : page.showFullMenu = false) :
    Decided H.dfciAuthTokenInvalid attempts page'.authToken page'.showFullMenu := by
  unfold chooseMenu at h
  dsimp only at h
  split_ifs at h with hfirst
  · obtain ⟨authenticated, hresult, heq⟩ := Option.map_eq_some_iff.mp h
    rw [Prod.mk.injEq] at heq
    obtain ⟨rfl, rfl⟩ := heq
    show Decided _ _ _ (page.showFullMenu || authenticated)
    rw [hload, Bool.false_or]
    exact challengeLoop_decided sv.rounds (installs_eq_none hfirst) hresult
  · rw [not_not] at hfirst
    rw [Option.some.injEq, Prod.mk.injEq] at h
    obtain ⟨rfl, rfl⟩ := h
    apply decided_last
    rw [installs_getAuthToken, hfirst, hload]
    rfl

theorem chooseMenu_own {sv : TopMenuServices} {page page' : FrontPageGlobals}
    {attempts : List Attempt} (h : chooseMenu H sv page = some (page', attempts))
    (hpage : page.authToken = 0)
    (hplain : sv.noPassword.Plain H.dfciAuthTokenInvalid ∧
      ∀ r ∈ sv.rounds, r.services.Plain H.dfciAuthTokenInvalid) :
    Own H.dfciAuthTokenInvalid (attempts.filterMap (·.issues H.dfciAuthTokenInvalid))
      page'.authToken := by
  have hload : Own H.dfciAuthTokenInvalid [] page.authToken := .inl hpage
  have hfirst := getAuthToken_own none hplain.1 hload
  rw [List.nil_append] at hfirst
  unfold chooseMenu at h
  dsimp only at h
  split_ifs at h
  · obtain ⟨authenticated, -, heq⟩ := Option.map_eq_some_iff.mp h
    rw [Prod.mk.injEq] at heq
    obtain ⟨rfl, rfl⟩ := heq
    rw [issued_cons]
    exact challengeLoop_own sv.rounds hplain.2 hfirst
  · rw [Option.some.injEq, Prod.mk.injEq] at h
    obtain ⟨rfl, rfl⟩ := h
    rw [issued_cons]
    exact (List.append_nil _).symm ▸ hfirst

/-- **What a start grants**, whatever the user and the services answer. -/
theorem StartServices.granted (sv : StartServices H formMap) :
    ∃ installed, Granted H.dfciAuthTokenInvalid sv.topMenu.attempts
      (sv.topMenu.openPage H.dfciAuthTokenInvalid) installed := by
  have hcreated : createTopMenu H sv.menu (.atLoad formMap) = some sv.topMenu :=
    (Option.some_get sv.ends).symm
  unfold createTopMenu at hcreated
  obtain ⟨⟨chosen, attempts⟩, hchoose, heq⟩ := Option.map_eq_some_iff.mp hcreated
  have hdecided := chooseMenu_decided hchoose rfl
  have hown := chooseMenu_own hchoose rfl sv.plain
  dsimp only at heq
  split_ifs at heq
  · rw [← heq]
    exact hdecided.granted hown
  · rw [← heq]
    exact hdecided.granted hown

end Start

/-! ## One step -/

section Step

variable {invalid : DfciAuthToken} {w : TokenWorld} {lost : List DfciAuthToken}

/-- A token that was issued and that UninitializeFrontPage will dispose. -/
def TokenWorld.Holds (w : TokenWorld) (t : DfciAuthToken) : Prop :=
  t ∈ w.issued ∧ ∃ p, w.page = some p ∧ p.held = some t

/-- The token in mAuthToken while the full menu is shown. -/
def TokenWorld.Shows (w : TokenWorld) (t : DfciAuthToken) : Prop :=
  ∃ p, w.page = some p ∧ p.showFullMenu = true ∧ p.authToken = t

/-- Where the tokens are, if `lost` are those left live so far. -/
structure Accounted (invalid : DfciAuthToken) (w : TokenWorld) (lost : List DfciAuthToken) :
    Prop where
  live_iff : ∀ t, t ∈ w.live ↔ t ∈ lost ∨ w.Holds t
  lost_issued : ∀ t ∈ lost, t ∈ w.issued
  lost_held : ∀ t ∈ lost, ¬ w.Holds t
  valid : invalid ∉ w.issued
  shown : ∀ t, w.Shows t → w.Holds t ∧ t ∈ w.interfaces
  page : ∀ p, w.page = some p → p.installed = p.showFullMenu
  interfaces : ∀ t ∈ w.interfaces, t ∈ lost ∨ w.Shows t
  once : w.interfaces.Nodup
  /-- the boot menu's copy is a token that was installed -/
  copied : ∀ b, w.bootMenu = some b → (b.authToken = 0 ∨ b.authToken ∈ w.issued) ∧
    (w.Holds b.authToken → w.Shows b.authToken)
  /-- AuthTokenCallback misses no token -/
  heard : ∀ b, w.bootMenu = some b → b.registered = true → ∀ t, w.Shows t → b.authToken = t

theorem not_holds_of_closed (h : w.page = none) (t : DfciAuthToken) : ¬ w.Holds t := by
  rintro ⟨-, p, hp, -⟩
  rw [h] at hp
  cases hp

theorem not_shows_of_closed (h : w.page = none) (t : DfciAuthToken) : ¬ w.Shows t := by
  rintro ⟨p, hp, -⟩
  rw [h] at hp
  cases hp

theorem accounted_start : Accounted invalid .start [] := by
  have hholds := not_holds_of_closed (w := .start) rfl
  have hshows := not_shows_of_closed (w := .start) rfl
  refine ⟨?_, ?_, ?_, List.not_mem_nil, ?_, ?_, ?_, List.nodup_nil, ?_, ?_⟩
  · exact fun t => iff_of_false List.not_mem_nil (not_or.mpr ⟨List.not_mem_nil, hholds t⟩)
  · exact fun t ht => absurd ht List.not_mem_nil
  · exact fun t ht => absurd ht List.not_mem_nil
  · exact fun t ht => absurd ht (hshows t)
  · intro p hp
    cases hp
  · exact fun t ht => absurd ht List.not_mem_nil
  · intro b hb
    cases hb
  · intro b hb
    cases hb

theorem Accounted.entry (h : Accounted invalid w lost) (hzero : 0 ∉ w.issued)
    (createEvent registerProtocolNotify : EfiStatus) :
    Accounted invalid
      { w with bootMenu := some (bootMenuEntry createEvent registerProtocolNotify w) } lost := by
  refine { h with copied := ?_, heard := ?_ }
  · intro b hb
    obtain rfl := Option.some.inj hb
    cases hinterfaces : w.interfaces with
    | nil =>
        -- nothing is installed: the copy is zero, which is never issued
        simp only [bootMenuEntry, hinterfaces, List.head?_nil]
        exact ⟨.inl trivial, fun hholds => absurd hholds.1 hzero⟩
    | cons t rest =>
        -- LocateProtocol finds the first one: lost, or shown right now
        simp only [bootMenuEntry, hinterfaces, List.head?_cons]
        have ht : t ∈ w.interfaces := hinterfaces ▸ List.mem_cons_self
        rcases h.interfaces t ht with hlost | hshows
        · exact ⟨.inr (h.lost_issued t hlost), fun hholds => absurd hholds (h.lost_held t hlost)⟩
        · exact ⟨.inr (h.shown t hshows).1.1, fun _ => hshows⟩
  · intro b hb hregistered t hshows
    obtain rfl := Option.some.inj hb
    have ht := (h.shown t hshows).2
    cases hinterfaces : w.interfaces with
    | nil =>
        rw [hinterfaces] at ht
        exact absurd ht List.not_mem_nil
    | cons t' rest =>
        -- who finds a token does not register
        simp only [bootMenuEntry, hinterfaces, List.head?_cons] at hregistered
        cases hregistered

theorem bootMenu_grant {installed : Option DfciAuthToken} {b' : BootMenuDriver}
    (h : (w.grant tokens installed).bootMenu = some b') :
    ∃ b, w.bootMenu = some b ∧ b'.registered = b.registered ∧
      b'.authToken = (if b.registered then installed else none).getD b.authToken := by
  cases installed with
  | none => exact ⟨b', h, rfl, by rw [ite_self, Option.getD_none]⟩
  | some t =>
      obtain ⟨b, hb, rfl⟩ := Option.map_eq_some_iff.mp h
      refine ⟨b, hb, ?_⟩
      unfold BootMenuDriver.authTokenCallback
      cases hregistered : b.registered with
      | true => exact ⟨rfl, rfl⟩
      | false => exact ⟨hregistered, rfl⟩

section Granted

variable {attempts : List Attempt} {p : OpenPage} {installed : Option DfciAuthToken}

theorem valid_append (h : invalid ∉ w.issued) (attempts : List Attempt) :
    invalid ∉ w.issued ++ attempts.filterMap (·.issues invalid) := by
  intro hmem
  rcases List.mem_append.mp hmem with hold | hnew
  · exact h hold
  · obtain ⟨a, -, ha⟩ := List.mem_filterMap.mp hnew
    exact (token_of_issues ha).2.2 rfl

/-- The boot menu's copy after a start: of the tokens issued then it can only be the one that was
installed, since they are new. -/
theorem Accounted.copied_grant (h : Accounted invalid w lost)
    (g : Granted invalid attempts p installed)
    (hfresh : (0 :: (w.issued ++ attempts.filterMap (·.issues invalid))).Nodup)
    {b : BootMenuDriver}
    (hb : (w.grant (attempts.filterMap (·.issues invalid)) installed).bootMenu = some b) :
    (b.authToken = 0 ∨ b.authToken ∈ w.issued ++ attempts.filterMap (·.issues invalid)) ∧
      (b.authToken ∈ attempts.filterMap (·.issues invalid) → installed = some b.authToken) ∧
      (b.registered = true → ∀ t, installed = some t → b.authToken = t) := by
  obtain ⟨hzero, hnodup⟩ := List.nodup_cons.mp hfresh
  obtain ⟨b₀, hb₀, hregistered, htoken⟩ := bootMenu_grant hb
  -- an old copy is none of the new tokens
  have hold : b.authToken = b₀.authToken →
      (b.authToken = 0 ∨ b.authToken ∈ w.issued ++ attempts.filterMap (·.issues invalid)) ∧
        (b.authToken ∈ attempts.filterMap (·.issues invalid) → installed = some b.authToken) := by
    intro heq
    rw [heq]
    have hcopied := (h.copied b₀ hb₀).1
    refine ⟨hcopied.imp_right (List.mem_append_left _), ?_⟩
    intro hnew
    rcases hcopied with h0 | hissued
    · exact absurd (List.mem_append_right _ (h0 ▸ hnew)) hzero
    · exact absurd hnew (List.disjoint_of_nodup_append hnodup hissued)
  cases hreg : b₀.registered with
  | false =>
      -- not registered: the copy is the old one
      rw [hreg] at htoken hregistered
      obtain ⟨hissued, hnew⟩ := hold htoken
      refine ⟨hissued, hnew, ?_⟩
      rw [hregistered]
      exact fun hfalse => absurd hfalse Bool.false_ne_true
  | true =>
      rw [hreg, if_pos rfl] at htoken
      cases hinstalled : installed with
      | none =>
          -- nothing was installed: AuthTokenCallback was not called
          rw [hinstalled] at htoken
          obtain ⟨hissued, hnew⟩ := hold htoken
          exact ⟨hissued, hinstalled ▸ hnew, fun _ t ht => absurd ht (Option.not_mem_none t)⟩
      | some t =>
          rw [hinstalled] at htoken
          obtain rfl : b.authToken = t := htoken
          obtain ⟨-, -, hmem⟩ := g.installs _ hinstalled
          exact ⟨.inr (List.mem_append_right _ hmem), fun _ => rfl,
            fun _ t' ht' => Option.some.inj ht'⟩

theorem Accounted.interface_issued (h : Accounted invalid w lost) {t : DfciAuthToken}
    (ht : t ∈ w.interfaces) : t ∈ w.issued :=
  (h.interfaces t ht).elim (h.lost_issued t) fun hshows => (h.shown t hshows).1.1

theorem Accounted.once_grant (h : Accounted invalid w lost)
    (g : Granted invalid attempts p installed)
    (hfresh : (0 :: (w.issued ++ attempts.filterMap (·.issues invalid))).Nodup) :
    (w.interfaces ++ installed.toList).Nodup := by
  refine h.once.append (Option.toList_nodup installed) fun t ht hnew => ?_
  obtain ⟨-, -, hmem⟩ := g.installs t (Option.mem_toList.mp hnew)
  exact List.disjoint_of_nodup_append (List.nodup_cons.mp hfresh).2 (h.interface_issued ht) hmem

/-- The page held by the world once the first form is shown, of `w` at the start. -/
def TokenWorld.showing (w : TokenWorld) (p : OpenPage) : TokenWorld := { w with page := some p }

theorem showing_shows (g : Granted invalid attempts p installed) (t : DfciAuthToken) :
    (w.showing p).Shows t ↔ installed = some t := by
  constructor
  · rintro ⟨p', hp', hfull, htoken⟩
    obtain rfl := Option.some.inj hp'
    rw [g.full] at hfull
    obtain ⟨t', ht'⟩ := Option.isSome_iff_exists.mp hfull
    rw [ht', ← (g.installs t' ht').1, htoken]
  · intro ht
    exact ⟨p, rfl, by rw [g.full, ht]; rfl, (g.installs t ht).1⟩

/-- A token that was issued and is in mAuthToken was issued at this start. -/
theorem showing_holds (g : Granted invalid attempts p installed) {t : DfciAuthToken}
    (hzero : 0 ∉ w.issued) (hvalid : invalid ∉ w.issued) (h : (w.showing p).Holds t) :
    t ∈ attempts.filterMap (·.issues invalid) ∧ p.held = some t := by
  obtain ⟨hissued, p', hp', hheld⟩ := h
  obtain rfl := Option.some.inj hp'
  have htoken : p.authToken = t := by
    unfold OpenPage.held at hheld
    split_ifs at hheld
    exact Option.some.inj hheld
  rw [← htoken] at hissued ⊢
  refine ⟨?_, htoken ▸ hheld⟩
  rcases g.own with h0 | hinvalid | hmem
  · exact absurd (h0 ▸ hissued) hzero
  · exact absurd (hinvalid ▸ hissued) hvalid
  · exact hmem

/-- The first form is shown. -/
theorem Accounted.shown_page (h : Accounted invalid w lost) (hpage : w.page = none)
    (g : Granted invalid attempts p installed)
    (hfresh : (0 :: (w.issued ++ attempts.filterMap (·.issues invalid))).Nodup) :
    Accounted invalid ((w.grant (attempts.filterMap (·.issues invalid)) installed).showing p)
      (lost ++ (attempts.filterMap (·.issues invalid)).filter fun t => p.held != some t) := by
  obtain ⟨hzero, hnodup⟩ := List.nodup_cons.mp hfresh
  have hdisjoint := List.disjoint_of_nodup_append hnodup
  have hvalid := valid_append h.valid attempts
  have hholds : ∀ t, TokenWorld.Holds
      ((w.grant (attempts.filterMap (·.issues invalid)) installed).showing p) t →
        t ∈ attempts.filterMap (·.issues invalid) ∧ p.held = some t :=
    fun t hold => showing_holds g hzero hvalid hold
  have hshows := showing_shows (w := w.grant (attempts.filterMap (·.issues invalid)) installed) g
  refine ⟨?_, ?_, ?_, hvalid, ?_, ?_, ?_, h.once_grant g hfresh, ?_, ?_⟩
  · intro t
    show t ∈ w.live ++ attempts.filterMap (·.issues invalid) ↔ _
    rw [List.mem_append, List.mem_append, h.live_iff, or_iff_left (not_holds_of_closed hpage t),
      List.mem_filter, bne_iff_ne, or_assoc]
    refine or_congr_right ⟨fun ht => ?_, fun ht => ht.elim (·.1) fun hold => (hholds t hold).1⟩
    -- a new token is in hand, or nobody will dispose it
    by_cases hheld : p.held = some t
    · exact .inr ⟨List.mem_append_right _ ht, p, rfl, hheld⟩
    · exact .inl ⟨ht, hheld⟩
  · intro t ht
    rcases List.mem_append.mp ht with hlost | hnew
    · exact List.mem_append_left _ (h.lost_issued t hlost)
    · exact List.mem_append_right _ (List.mem_of_mem_filter hnew)
  · intro t ht hold
    obtain ⟨hmem, hheld⟩ := hholds t hold
    rcases List.mem_append.mp ht with hlost | hnew
    · exact hdisjoint (h.lost_issued t hlost) hmem
    · exact bne_iff_ne.mp (List.mem_filter.mp hnew).2 hheld
  · intro t ht
    have hinstalled := (hshows t).mp ht
    obtain ⟨-, hheld, hmem⟩ := g.installs t hinstalled
    exact ⟨⟨List.mem_append_right _ hmem, p, rfl, hheld⟩,
      List.mem_append_right _ (Option.mem_toList.mpr hinstalled)⟩
  · intro p' hp'
    obtain rfl := Option.some.inj hp'
    rw [g.page, g.full]
  · intro t ht
    rcases List.mem_append.mp ht with hold | hnew
    · rcases h.interfaces t hold with hlost | hshown
      · exact .inl (List.mem_append_left _ hlost)
      · exact absurd hshown (not_shows_of_closed hpage t)
    · exact .inr ((hshows t).mpr (Option.mem_toList.mp hnew))
  · intro b hb
    obtain ⟨hissued, hnew, -⟩ := h.copied_grant g hfresh hb
    -- a copy that is in hand is new, and only the installed one was copied
    exact ⟨hissued, fun hold => (hshows _).mpr (hnew (hholds _ hold).1)⟩
  · intro b hb hregistered t ht
    exact (h.copied_grant g hfresh hb).2.2 hregistered t ((hshows t).mp ht)

/-- UefiMain returns before it: the tokens stay live. -/
theorem Accounted.not_shown (h : Accounted invalid w lost) (hpage : w.page = none)
    (g : Granted invalid attempts p installed)
    (hfresh : (0 :: (w.issued ++ attempts.filterMap (·.issues invalid))).Nodup) :
    Accounted invalid (w.grant (attempts.filterMap (·.issues invalid)) installed)
      (lost ++ attempts.filterMap (·.issues invalid)) := by
  have hholds := not_holds_of_closed
    (w := w.grant (attempts.filterMap (·.issues invalid)) installed) hpage
  have hshows := not_shows_of_closed
    (w := w.grant (attempts.filterMap (·.issues invalid)) installed) hpage
  refine ⟨?_, ?_, ?_, valid_append h.valid attempts, ?_, ?_, ?_, h.once_grant g hfresh, ?_, ?_⟩
  · intro t
    show t ∈ w.live ++ attempts.filterMap (·.issues invalid) ↔ _
    rw [List.mem_append, List.mem_append, h.live_iff, or_iff_left (not_holds_of_closed hpage t),
      or_iff_left (hholds t)]
  · intro t ht
    rcases List.mem_append.mp ht with hlost | hnew
    · exact List.mem_append_left _ (h.lost_issued t hlost)
    · exact List.mem_append_right _ hnew
  · exact fun t _ => hholds t
  · exact fun t ht => absurd ht (hshows t)
  · exact h.page
  · intro t ht
    rcases List.mem_append.mp ht with hold | hnew
    · rcases h.interfaces t hold with hlost | hshown
      · exact .inl (List.mem_append_left _ hlost)
      · exact absurd hshown (not_shows_of_closed hpage t)
    -- the token protocol stays installed, with a token that is lost
    · exact .inl (List.mem_append_right _ (g.installs t (Option.mem_toList.mp hnew)).2.2)
  · intro b hb
    exact ⟨(h.copied_grant g hfresh hb).1, fun hold => absurd hold (hholds _)⟩
  · exact fun b _ _ t ht => absurd ht (hshows t)

end Granted

/-- The page is left, with `live` still live and `more` lost of them. -/
theorem Accounted.closePage (h : Accounted invalid w lost) {p : OpenPage} (hpage : w.page = some p)
    {live more : List DfciAuthToken} (hlive : ∀ t, t ∈ live ↔ t ∈ lost ∨ t ∈ more)
    (hmore : ∀ t ∈ more, t ∈ w.issued) : Accounted invalid (w.closePage p live) (lost ++ more) := by
  have hholds := not_holds_of_closed (w := w.closePage p live) rfl
  have hshows := not_shows_of_closed (w := w.closePage p live) rfl
  refine ⟨?_, ?_, fun t _ => hholds t, h.valid, fun t ht => absurd ht (hshows t),
    ?_, ?_, ?_, ?_, ?_⟩
  · intro t
    rw [List.mem_append, or_iff_left (hholds t)]
    exact hlive t
  · intro t ht
    exact (List.mem_append.mp ht).elim (h.lost_issued t) (hmore t)
  · intro p' hp'
    cases hp'
  · intro t ht
    refine .inl (List.mem_append_left _ ?_)
    cases hinstalled : p.installed with
    | true =>
        -- the token protocol is uninstalled
        simp only [TokenWorld.closePage, hinstalled, if_true, h.once.mem_erase_iff] at ht
        rcases h.interfaces t ht.2 with hlost | ⟨p', hp', -, htoken⟩
        · exact hlost
        · obtain rfl := Option.some.inj (hpage.symm.trans hp')
          exact absurd htoken.symm ht.1
    | false =>
        -- it was not installed, so the full menu was not shown
        simp only [TokenWorld.closePage, hinstalled, if_false, Bool.false_eq_true] at ht
        rcases h.interfaces t ht with hlost | ⟨p', hp', hfull, -⟩
        · exact hlost
        · obtain rfl := Option.some.inj (hpage.symm.trans hp')
          rw [← h.page p hpage, hinstalled] at hfull
          cases hfull
  · show (if p.installed then w.interfaces.erase p.authToken else w.interfaces).Nodup
    split_ifs
    · exact h.once.erase _
    · exact h.once
  · intro b hb
    exact ⟨(h.copied b hb).1, fun hold => absurd hold (hholds _)⟩
  · exact fun b _ _ t ht => absurd ht (hshows t)

theorem holds_of_page {p : OpenPage} (hpage : w.page = some p) (t : DfciAuthToken) :
    w.Holds t ↔ t ∈ w.issued ∧ p.held = some t := by
  constructor
  · rintro ⟨hissued, p', hp', hheld⟩
    obtain rfl := Option.some.inj (hpage.symm.trans hp')
    exact ⟨hissued, hheld⟩
  · exact fun ⟨hissued, hheld⟩ => ⟨hissued, p, hpage, hheld⟩

/-- UninitializeFrontPage, for each answer of DisposeAuthToken. -/
theorem Accounted.uninitialize (h : Accounted invalid w lost) {p : OpenPage}
    (hpage : w.page = some p) (disposeAuthToken : EfiStatus) :
    Accounted invalid (w.uninitializeFrontPage p disposeAuthToken).1
      (lost ++ (w.uninitializeFrontPage p disposeAuthToken).2) := by
  have hissued : ∀ t ∈ w.live, t ∈ w.issued := fun t ht =>
    ((h.live_iff t).mp ht).elim (h.lost_issued t) And.left
  have hnone : ∀ t ∈ ([] : List DfciAuthToken), t ∈ w.issued := fun t ht =>
    absurd ht List.not_mem_nil
  have hlive : ∀ t, t ∈ w.live ↔ t ∈ lost ∨ t ∈ w.issued ∧ p.held = some t := fun t => by
    rw [h.live_iff, holds_of_page hpage]
  unfold TokenWorld.uninitializeFrontPage
  cases hheld : p.held with
  | none =>
      -- no authentication protocol: nothing was in hand
      refine h.closePage hpage (fun t => ?_) hnone
      rw [hlive, hheld]
      simp
  | some t₀ =>
      cases efiError disposeAuthToken with
      | true =>
          -- the token stays live, and nobody has it in hand any more
          show Accounted invalid (w.closePage p w.live) (lost ++ if t₀ ∈ w.live then [t₀] else [])
          refine h.closePage hpage (fun t => ⟨fun ht => ?_, ?_⟩) ?_
          · rcases (hlive t).mp ht with hlost | ⟨-, heq⟩
            · exact .inl hlost
            · obtain rfl := Option.some.inj (hheld.symm.trans heq)
              exact .inr (if_pos ht ▸ List.mem_singleton_self t₀)
          · rintro (hlost | hmore)
            · exact (h.live_iff t).mpr (.inl hlost)
            · split_ifs at hmore with hmem
              · exact List.mem_singleton.mp hmore ▸ hmem
              · exact absurd hmore List.not_mem_nil
          · intro t ht
            split_ifs at ht with hmem
            · exact List.mem_singleton.mp ht ▸ hissued t₀ hmem
            · exact absurd ht List.not_mem_nil
      | false =>
          -- it is live no more; the lost ones are other tokens
          refine h.closePage hpage (fun t => ?_) hnone
          rw [List.mem_filter, hlive, bne_iff_ne]
          constructor
          · rintro ⟨hlost | ⟨-, heq⟩, hne⟩
            · exact .inl hlost
            · exact absurd (Option.some.inj (heq.symm.trans hheld)) hne
          · rintro (hlost | hmore)
            · refine ⟨.inl hlost, ?_⟩
              rintro rfl
              exact h.lost_held t hlost ((holds_of_page hpage t).mpr ⟨h.lost_issued t hlost, hheld⟩)
            · exact absurd hmore List.not_mem_nil

end Step

/-! ## Every run -/

section Run

variable {H : FrontPageH} {formMap : FormMap}

theorem closePage_issued (w : TokenWorld) (p : OpenPage) (disposeAuthToken : EfiStatus) :
    (w.uninitializeFrontPage p disposeAuthToken).1.issued = w.issued := by
  unfold TokenWorld.uninitializeFrontPage
  cases p.held with
  | none => rfl
  | some t => cases efiError disposeAuthToken <;> rfl

theorem closePage_page (w : TokenWorld) (p : OpenPage) (disposeAuthToken : EfiStatus) :
    (w.uninitializeFrontPage p disposeAuthToken).1.page = none := by
  unfold TokenWorld.uninitializeFrontPage
  cases p.held with
  | none => rfl
  | some t => cases efiError disposeAuthToken <;> rfl

/-- One start. -/
theorem Accounted.uefiMain {w : TokenWorld} {lost : List DfciAuthToken}
    (h : Accounted H.dfciAuthTokenInvalid w lost) (hpage : w.page = none)
    (sv : StartServices H formMap) (hfresh : (0 :: (w.uefiMain sv).1.issued).Nodup) :
    Accounted H.dfciAuthTokenInvalid (w.uefiMain sv).1 (lost ++ (w.uefiMain sv).2) := by
  obtain ⟨installed, g⟩ := sv.granted
  unfold TokenWorld.uefiMain at hfresh ⊢
  dsimp only at hfresh ⊢
  rw [g.world] at hfresh ⊢
  by_cases hshown : sv.initializeFrontPageUI = efiSuccess
  · rw [if_pos hshown] at hfresh ⊢
    exact h.shown_page hpage g hfresh
  · rw [if_neg hshown] at hfresh ⊢
    exact h.not_shown hpage g hfresh

theorem step_issued (w : TokenWorld) (step : TokenStep H formMap) :
    ∃ more, ((tokenLife H formMap).step w step).1.issued = w.issued ++ more := by
  have hnone : ∃ more, w.issued = w.issued ++ more := ⟨[], (List.append_nil _).symm⟩
  cases step with
  | bootMenuEntry createEvent registerProtocolNotify =>
      cases hboot : w.bootMenu <;> simpa only [tokenLife, hboot] using hnone
  | uefiMain sv =>
      cases hpage : w.page with
      | some p => simpa only [tokenLife, hpage] using hnone
      | none =>
          obtain ⟨installed, g⟩ := sv.granted
          simp only [tokenLife, hpage, TokenWorld.uefiMain, g.world]
          split_ifs <;> exact ⟨_, rfl⟩
  | uninitializeFrontPage disposeAuthToken =>
      cases hpage : w.page with
      | some p => simpa only [tokenLife, hpage, closePage_issued] using hnone
      | none => simpa only [tokenLife, hpage] using hnone

theorem step_accounted {w : TokenWorld} {lost : List DfciAuthToken}
    (h : Accounted H.dfciAuthTokenInvalid w lost) (step : TokenStep H formMap)
    (hfresh : (0 :: ((tokenLife H formMap).step w step).1.issued).Nodup) :
    Accounted H.dfciAuthTokenInvalid ((tokenLife H formMap).step w step).1
      (lost ++ ((tokenLife H formMap).step w step).2) := by
  have hnothing : Accounted H.dfciAuthTokenInvalid w (lost ++ []) :=
    (List.append_nil lost).symm ▸ h
  cases step with
  | bootMenuEntry createEvent registerProtocolNotify =>
      cases hboot : w.bootMenu with
      | some b => simpa only [tokenLife, hboot] using hnothing
      | none =>
          simp only [tokenLife, hboot] at hfresh ⊢
          exact hnothing.entry (List.nodup_cons.mp hfresh).1 createEvent registerProtocolNotify
  | uefiMain sv =>
      cases hpage : w.page with
      | some p => simpa only [tokenLife, hpage] using hnothing
      | none =>
          simp only [tokenLife, hpage] at hfresh ⊢
          exact h.uefiMain hpage sv hfresh
  | uninitializeFrontPage disposeAuthToken =>
      cases hpage : w.page with
      | some p =>
          simp only [tokenLife, hpage]
          exact h.uninitialize hpage disposeAuthToken
      | none => simpa only [tokenLife, hpage] using hnothing

/-- The tokens left live in a run. -/
def lostTokens (steps : List (TokenStep H formMap)) : List DfciAuthToken :=
  ((tokenLife H formMap).answers .start steps).flatten

/-- **Where the tokens are** after every run, if the authentication protocol issues no token twice
and not zero. -/
theorem run_accounted (steps : List (TokenStep H formMap))
    (hfresh : (0 :: ((tokenLife H formMap).run .start steps).issued).Nodup) :
    Accounted H.dfciAuthTokenInvalid ((tokenLife H formMap).run .start steps)
      (lostTokens steps) := by
  refine (tokenLife H formMap).run_answers_preserves
    (I := fun w lost => (0 :: w.issued).Nodup → Accounted H.dfciAuthTokenInvalid w lost.flatten)
    ?_ steps [] (fun _ => accounted_start) hfresh
  intro w lost step h hstep
  rw [List.flatten_concat]
  obtain ⟨more, hmore⟩ := step_issued w step
  have hbefore : (0 :: w.issued).Nodup := by
    rw [hmore, ← List.cons_append] at hstep
    exact hstep.of_append_left
  exact step_accounted (h hbefore) step hstep

variable (H formMap) in
/-- **What the boot menu may change.** After every such run, whatever became of the front pages
before: the boot menu's copy is live exactly if it was left live, or the full menu is shown now and
the copy is of its token. And a boot menu whose callback is registered has that copy. -/
theorem boot_menu_authority (steps : List (TokenStep H formMap))
    (hfresh : (0 :: ((tokenLife H formMap).run .start steps).issued).Nodup) {b : BootMenuDriver}
    (hb : ((tokenLife H formMap).run .start steps).bootMenu = some b) :
    let w := (tokenLife H formMap).run .start steps
    (b.authToken ∈ w.live ↔ b.authToken ∈ lostTokens steps ∨ w.Shows b.authToken) ∧
      (b.registered = true → ∀ t, w.Shows t → b.authToken = t) := by
  have h := run_accounted steps hfresh
  refine ⟨?_, h.heard b hb⟩
  rw [h.live_iff]
  exact or_congr_right ⟨(h.copied b hb).2, fun hshows => (h.shown _ hshows).1⟩

/-- Who gets the password of `passwordFive` right in these tries, with the first form shown. -/
def tries (passwords : List UInt16) (ends : (createTopMenu frontPageH (enterPasswords passwords)
    (.atLoad [])).isSome) : StartServices frontPageH [] where
  menu := enterPasswords passwords
  ends := ends
  newListBox := true
  createEventEx := efiSuccess
  plain := by
    have hplain : passwordFive.Plain frontPageH.dfciAuthTokenInvalid := by
      intro buffer herror
      dsimp only [passwordFive] at herror ⊢
      split_ifs at herror ⊢ with hbuffer
      · cases herror
      · exact .inl rfl
    refine ⟨hplain, fun r hr => ?_⟩
    obtain ⟨p, -, rfl⟩ := List.mem_map.mp hr
    exact hplain

/-- A registered boot menu, and a second try that is right. -/
def secondTry : List (TokenStep frontPageH []) :=
  [.bootMenuEntry efiSuccess efiSuccess, .uefiMain (tries [4, 5] rfl)]

/-- Token 7 arrives. -/
theorem boot_menu_authority_second_try :
    ∃ b, ((tokenLife frontPageH []).run .start secondTry).bootMenu = some b ∧
      ∀ t, ((tokenLife frontPageH []).run .start secondTry).Shows t → b.authToken = t :=
  ⟨⟨7, true⟩, rfl, (boot_menu_authority frontPageH [] secondTry (by decide) rfl).2 rfl⟩

/-! ## Where tokens are lost -/

/-- InstallMultipleProtocolInterfaces does not fail in this step. -/
def TokenStep.Installs : TokenStep H formMap → Prop
  | .uefiMain sv => ∀ a ∈ sv.topMenu.attempts,
      (a.issues H.dfciAuthTokenInvalid).isSome = true → a.status = efiSuccess
  | _ => True

/-- After an authentication the first form is shown, and the token disposed in the end. -/
def TokenStep.Careful (w : TokenWorld) : TokenStep H formMap → Prop
  | .bootMenuEntry _ _ => True
  | .uefiMain sv => w.page = none → sv.topMenu.page.showFullMenu = true →
      sv.initializeFrontPageUI = efiSuccess
  | .uninitializeFrontPage disposeAuthToken => (∃ t, w.Shows t) → efiError disposeAuthToken = false

theorem foldl_attempt_interfaces (invalid : DfciAuthToken) (attempts : List Attempt) :
    ∀ w : TokenWorld, (attempts.foldl (.attempt invalid) w).interfaces =
      w.interfaces ++ attempts.filterMap (·.installs invalid) := by
  induction attempts with
  | nil => intro w; exact (List.append_nil _).symm
  | cons a attempts ih =>
      intro w
      rw [List.foldl_cons, ih]
      show (w.interfaces ++ (a.installs invalid).toList) ++ _ = _
      rw [List.append_assoc]
      cases h : a.installs invalid with
      | none => rw [List.filterMap_cons_none h]; rfl
      | some t => rw [List.filterMap_cons_some h]; rfl

/-- Then a start issues no token but the one it installs. -/
theorem Granted.issued_eq {invalid : DfciAuthToken} {attempts : List Attempt} {p : OpenPage}
    {installed : Option DfciAuthToken} (g : Granted invalid attempts p installed)
    (h : ∀ a ∈ attempts, (a.issues invalid).isSome = true → a.status = efiSuccess) :
    attempts.filterMap (·.issues invalid) = installed.toList := by
  have hinstalls : ∀ a ∈ attempts, a.issues invalid = a.installs invalid := by
    intro a ha
    unfold Attempt.installs
    split_ifs with hstatus
    · rfl
    · exact Option.not_isSome_iff_eq_none.mp fun hsome => hstatus (h a ha hsome)
  have hworld := foldl_attempt_interfaces invalid attempts .start
  rw [g.world] at hworld
  rw [List.filterMap_congr hinstalls]
  exact hworld.symm

/-- What a run keeps if the installs do not fail: the token in hand is one the full menu shows. -/
def Orderly (invalid : DfciAuthToken) (w : TokenWorld) : Prop :=
  (∃ lost, Accounted invalid w lost) ∧ ∀ t, w.Holds t → w.Shows t

theorem step_orderly {w : TokenWorld} (h : Orderly H.dfciAuthTokenInvalid w)
    (step : TokenStep H formMap)
    (hfresh : (0 :: ((tokenLife H formMap).step w step).1.issued).Nodup)
    (hinstalls : step.Installs) :
    Orderly H.dfciAuthTokenInvalid ((tokenLife H formMap).step w step).1 := by
  obtain ⟨⟨lost, haccounted⟩, hshown⟩ := h
  refine ⟨⟨_, step_accounted haccounted step hfresh⟩, ?_⟩
  cases step with
  | bootMenuEntry createEvent registerProtocolNotify =>
      cases hboot : w.bootMenu with
      | some b => simpa only [tokenLife, hboot] using hshown
      | none =>
          simp only [tokenLife, hboot]
          exact hshown
  | uefiMain sv =>
      cases hpage : w.page with
      | some p => simpa only [tokenLife, hpage] using hshown
      | none =>
          obtain ⟨installed, g⟩ := sv.granted
          simp only [tokenLife, hpage, TokenWorld.uefiMain, g.world] at hfresh ⊢
          intro t hholds
          split_ifs at hfresh hholds ⊢ with hform
          · obtain ⟨hzero, -⟩ := List.nodup_cons.mp hfresh
            have hvalid := valid_append haccounted.valid sv.topMenu.attempts
            obtain ⟨hmem, -⟩ := showing_holds g hzero hvalid hholds
            rw [g.issued_eq hinstalls, Option.mem_toList] at hmem
            exact (showing_shows g t).mpr hmem
          · exact absurd hholds (not_holds_of_closed (w := w.grant _ installed) hpage t)
  | uninitializeFrontPage disposeAuthToken =>
      cases hpage : w.page with
      | some p =>
          simp only [tokenLife, hpage]
          intro t hholds
          exact absurd hholds (not_holds_of_closed (closePage_page w p disposeAuthToken) t)
      | none => simpa only [tokenLife, hpage] using hshown

/-- **Which steps leave a token live**: those that are not careful. -/
theorem step_loses_iff {w : TokenWorld} (h : Orderly H.dfciAuthTokenInvalid w)
    (step : TokenStep H formMap) (hinstalls : step.Installs) :
    ((tokenLife H formMap).step w step).2 = [] ↔ step.Careful w := by
  obtain ⟨⟨lost, haccounted⟩, hshown⟩ := h
  cases step with
  | bootMenuEntry createEvent registerProtocolNotify =>
      exact iff_of_true rfl trivial
  | uefiMain sv =>
      cases hpage : w.page with
      | some p =>
          simp only [tokenLife, hpage]
          exact iff_of_true trivial fun hnone =>
            absurd (hpage.symm.trans hnone) (Option.some_ne_none p)
      | none =>
          obtain ⟨installed, g⟩ := sv.granted
          have hfull : sv.topMenu.page.showFullMenu = installed.isSome := g.full
          simp only [tokenLife, hpage, TokenWorld.uefiMain, g.issued_eq hinstalls,
            TokenStep.Careful, hfull, true_imp_iff]
          split_ifs with hform
          · refine iff_of_true (List.filter_eq_nil_iff.mpr fun t ht => ?_) fun _ => hform
            -- the one token issued is the one in hand
            rw [(g.installs t (Option.mem_toList.mp ht)).2.1, bne_self_eq_false]
            exact Bool.false_ne_true
          · simp only [hform, imp_false, Bool.not_eq_true, Option.isSome_eq_false_iff,
              Option.isNone_iff_eq_none, Option.toList_eq_nil_iff]
  | uninitializeFrontPage disposeAuthToken =>
      cases hpage : w.page with
      | some p =>
          simp only [tokenLife, hpage, TokenStep.Careful, TokenWorld.uninitializeFrontPage]
          cases hheld : p.held with
          | none =>
              refine iff_of_true rfl fun ⟨t, ht⟩ => ?_
              obtain ⟨-, hsome⟩ := (holds_of_page hpage t).mp (haccounted.shown t ht).1
              exact absurd (hheld.symm.trans hsome) (Option.some_ne_none t).symm
          | some t =>
              cases efiError disposeAuthToken with
              | false => exact iff_of_true rfl fun _ => rfl
              | true =>
                  -- what is in hand is live only if the full menu is shown
                  have hlive : t ∈ w.live ↔ ∃ t, w.Shows t := by
                    rw [haccounted.live_iff, holds_of_page hpage]
                    constructor
                    · rintro (hlost | hholds)
                      · exact absurd ((holds_of_page hpage t).mpr
                          ⟨haccounted.lost_issued t hlost, hheld⟩) (haccounted.lost_held t hlost)
                      · exact ⟨t, hshown t ((holds_of_page hpage t).mpr hholds)⟩
                    · rintro ⟨t', ht'⟩
                      have hholds := (holds_of_page hpage t').mp (haccounted.shown t' ht').1
                      obtain rfl := Option.some.inj (hheld.symm.trans hholds.2)
                      exact .inr hholds
                  show (if t ∈ w.live then [t] else []) = [] ↔ _
                  by_cases hmem : t ∈ w.live
                  · rw [if_pos hmem]
                    exact iff_of_false (List.cons_ne_nil t [])
                      fun himp => absurd (himp (hlive.mp hmem)).symm Bool.false_ne_true
                  · rw [if_neg hmem]
                    exact iff_of_true rfl fun hs => absurd (hlive.mpr hs) hmem
      | none =>
          simp only [tokenLife, hpage]
          exact iff_of_true trivial fun ⟨t, ht⟩ => absurd ht (not_shows_of_closed hpage t)

theorem run_issued (steps : List (TokenStep H formMap)) (w : TokenWorld) :
    ∃ more, ((tokenLife H formMap).run w steps).issued = w.issued ++ more := by
  refine (tokenLife H formMap).run_preserves (I := fun w' => ∃ more, w'.issued = w.issued ++ more)
    ?_ steps ⟨[], (List.append_nil _).symm⟩
  rintro w' step ⟨more, hmore⟩
  obtain ⟨new, hnew⟩ := step_issued w' step
  exact ⟨more ++ new, by rw [hnew, hmore, List.append_assoc]⟩

/-- What was fresh in the end was fresh all along. -/
theorem run_fresh (steps : List (TokenStep H formMap)) : ∀ {w : TokenWorld},
    (0 :: ((tokenLife H formMap).run w steps).issued).Nodup → (∀ step ∈ steps, step.Installs) →
      (tokenLife H formMap).Along (fun w step =>
        (0 :: ((tokenLife H formMap).step w step).1.issued).Nodup ∧ step.Installs) w steps := by
  induction steps with
  | nil => intro w _ _; trivial
  | cons step steps ih =>
      intro w hfresh hinstalls
      obtain ⟨hstep, hsteps⟩ := List.forall_mem_cons.mp hinstalls
      refine ⟨⟨?_, hstep⟩, ih hfresh hsteps⟩
      obtain ⟨more, hmore⟩ := run_issued steps ((tokenLife H formMap).step w step).1
      rw [Machine.run_cons, hmore, ← List.cons_append] at hfresh
      exact hfresh.of_append_left

variable (H formMap) in
/-- **When no token is ever left live**, in a run where the installs do not fail: exactly if every
start with an authentication comes to its first form, and every exit from the full menu disposes the
token. -/
theorem nothing_lost_iff (steps : List (TokenStep H formMap))
    (hfresh : (0 :: ((tokenLife H formMap).run .start steps).issued).Nodup)
    (hinstalls : ∀ step ∈ steps, step.Installs) :
    lostTokens steps = [] ↔
      (tokenLife H formMap).Along (fun w step => step.Careful w) .start steps := by
  unfold lostTokens
  rw [List.flatten_eq_nil_iff, Machine.forall_mem_answers]
  refine (tokenLife H formMap).along_congr (I := Orderly H.dfciAuthTokenInvalid)
    (fun w step h hr => step_orderly h step hr.1 hr.2)
    (fun w step h hr => step_loses_iff h step hr.2) steps ?_ (run_fresh steps hfresh hinstalls)
  exact ⟨⟨[], accounted_start⟩, fun t h => absurd h (not_holds_of_closed rfl t)⟩

theorem nothing_lost_iff_second_try : lostTokens secondTry = [] ↔
    (tokenLife frontPageH []).Along (fun w step => step.Careful w) .start secondTry :=
  nothing_lost_iff frontPageH [] secondTry (by decide) (by
    intro step hstep
    rcases List.mem_cons.mp hstep with rfl | hstep
    · trivial
    · obtain rfl := List.mem_singleton.mp hstep
      show ∀ a ∈ (tries [4, 5] rfl).topMenu.attempts, _
      decide)

end Run

end OemPkg.FrontPage
