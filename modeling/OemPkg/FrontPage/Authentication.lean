/-
# OemPkg.FrontPage.Authentication — the password dialog of the front page

The model of GetAuthToken (`FrontPage/FrontPage.c`) and of ChallengeUserPassword
(`FrontPage/FrontPageUi.c`). GetAuthToken asks the DFCI authentication protocol for a token and
keeps it in a global; ChallengeUserPassword prompts until the user is authenticated, gives up or has
no attempt left. The user is a list of rounds, one for each dialog; a prompt the list does not
answer is still open, and then there is no result.

Main results: no more attempts than allowed are made (`attempts_le`), and the user is let in by the
first attempt that succeeds with a valid token, if it comes before the end of the dialog and within
the attempts (`challengeLoop_result_iff`).
-/
import OemPkg.Uefi.Status
import Mathlib.Data.List.Basic

namespace OemPkg.FrontPage

open OemPkg.Uefi

/-- DFCI_AUTH_TOKEN, a `UINTN`. -/
abbrev DfciAuthToken := UInt64

/-! ## GetAuthToken -/

/-- What AuthWithPW answers: the status, and the token it writes, if any. -/
structure AuthWithPw where
  status : EfiStatus
  token : Option DfciAuthToken
  writes : efiError status = false → token.isSome

/-- What the calls of one GetAuthToken answer. -/
structure AuthServices where
  /-- LocateProtocol for the authentication protocol -/
  locateProtocol : EfiStatus
  /-- AuthWithPW, for the password given or for no password -/
  authWithPw : Option (List UInt16) → AuthWithPw
  installMultipleProtocolInterfaces : EfiStatus

/-- One call of GetAuthToken: its status, the answer of AuthWithPW if it was called, and mAuthToken
afterwards. -/
structure Attempt where
  status : EfiStatus
  authWithPw : Option AuthWithPw
  token : DfciAuthToken

variable (invalid : DfciAuthToken)

/-- GetAuthToken, with `token` in mAuthToken. `invalid` is DFCI_AUTH_TOKEN_INVALID. -/
def getAuthToken (sv : AuthServices) (passwordBuffer : Option (List UInt16))
    (token : DfciAuthToken) : Attempt :=
  if efiError sv.locateProtocol then ⟨sv.locateProtocol, none, token⟩
  else
    let auth := sv.authWithPw passwordBuffer
    let token := auth.token.getD token
    if !efiError auth.status && token != invalid then
      ⟨sv.installMultipleProtocolInterfaces, some auth, token⟩
    else ⟨auth.status, some auth, token⟩

/-- **EFI_SUCCESS has an authentication behind it**: AuthWithPW was called and did not fail, and
mAuthToken is the token it wrote. -/
theorem getAuthToken_success {sv : AuthServices} {buffer : Option (List UInt16)}
    {token : DfciAuthToken} (h : (getAuthToken invalid sv buffer token).status = efiSuccess) :
    (getAuthToken invalid sv buffer token).authWithPw = some (sv.authWithPw buffer) ∧
      efiError (sv.authWithPw buffer).status = false ∧
      (sv.authWithPw buffer).token = some (getAuthToken invalid sv buffer token).token := by
  have hne := fun (s : EfiStatus) (hs : efiError s = true) => ne_success_of_error hs
  unfold getAuthToken at h ⊢
  by_cases hlocate : efiError sv.locateProtocol = true
  · rw [if_pos hlocate] at h
    exact absurd h (hne _ hlocate)
  · rw [if_neg hlocate] at h ⊢
    have hok : efiError (sv.authWithPw buffer).status = false := by
      by_contra herr
      rw [Bool.not_eq_false] at herr
      simp only [herr, Bool.not_true, Bool.false_and, Bool.false_eq_true, if_false] at h
      exact hne _ herr h
    obtain ⟨t, ht⟩ := Option.isSome_iff_exists.mp ((sv.authWithPw buffer).writes hok)
    simp only [hok, ht, Option.getD_some]
    split_ifs <;> exact ⟨rfl, trivial, rfl⟩

/-- The status does not depend on what was in mAuthToken: where it matters, a token was written. -/
theorem getAuthToken_status (sv : AuthServices) (buffer : Option (List UInt16))
    (token token' : DfciAuthToken) :
    (getAuthToken invalid sv buffer token).status =
      (getAuthToken invalid sv buffer token').status := by
  unfold getAuthToken
  by_cases hlocate : efiError sv.locateProtocol = true
  · simp only [hlocate, if_true]
  · cases herr : efiError (sv.authWithPw buffer).status with
    | true => simp [hlocate, herr]
    | false =>
        obtain ⟨t, ht⟩ := Option.isSome_iff_exists.mp ((sv.authWithPw buffer).writes herr)
        simp [hlocate, ht]

/-! ## ChallengeUserPassword -/

/-- SWM_MB_RESULT, as far as the loop tells results apart. -/
inductive SwmMbResult where
  | idOk | idCancel | other
  deriving DecidableEq

/-- One round of the dialog: what SwmDialogsPasswordPrompt leaves, and what GetAuthToken's calls
answer if it comes to that. -/
structure PasswordRound where
  status : EfiStatus
  swmResult : SwmMbResult
  passwordBuffer : Option (List UInt16)
  services : AuthServices

/-- How the loop is left. -/
inductive LoopExit where
  | cancelled | authenticated | attemptsExpired

/-- The loop so far: how it was left, if it was, mAuthToken, and the calls of GetAuthToken. -/
structure Challenge where
  exit : Option LoopExit
  token : DfciAuthToken
  attempts : List Attempt

/-- The primary UI loop, with MaxAttempts at `maxAttempts`. -/
def challengeLoop : List PasswordRound → (maxAttempts : UInt8) → DfciAuthToken → Challenge
  | [], _, token => ⟨none, token, []⟩
  | r :: rs, maxAttempts, token =>
      if efiError r.status || r.swmResult == .idCancel then ⟨some .cancelled, token, []⟩
      else if r.swmResult == .idOk then
        let attempt := getAuthToken invalid r.services r.passwordBuffer token
        if attempt.status = efiSuccess then ⟨some .authenticated, attempt.token, [attempt]⟩
        else if maxAttempts ≠ 0 ∧ maxAttempts - 1 = 0 then
          ⟨some .attemptsExpired, attempt.token, [attempt]⟩
        else
          let maxAttempts := if maxAttempts ≠ 0 then maxAttempts - 1 else 0
          let c := challengeLoop rs maxAttempts attempt.token
          { c with attempts := attempt :: c.attempts }
      else challengeLoop rs maxAttempts token

/-- ChallengeUserPassword's result for a loop that was left: the token is confirmed once more. -/
def Challenge.result (c : Challenge) : Option Bool :=
  c.exit.map fun
    | .authenticated => c.token != invalid
    | .cancelled | .attemptsExpired => false

/-- ChallengeUserPassword -/
def challengeUserPassword (rounds : List PasswordRound) (maxAttempts : UInt8)
    (token : DfciAuthToken) : Option Bool × Challenge :=
  let c := challengeLoop invalid rounds maxAttempts token
  (c.result invalid, c)

/-! ## What the rounds decide -/

/-- A dialog error or Cancel: the loop is left. -/
def PasswordRound.stops (r : PasswordRound) : Bool :=
  efiError r.status || r.swmResult == .idCancel

/-- OK, without a dialog error: GetAuthToken is called. -/
def PasswordRound.asks (r : PasswordRound) : Bool := !r.stops && r.swmResult == .idOk

/-- GetAuthToken returns EFI_SUCCESS in this round, whatever was in mAuthToken. -/
def PasswordRound.authenticates (r : PasswordRound) : Bool :=
  (getAuthToken invalid r.services r.passwordBuffer invalid).status == efiSuccess

/-- AuthWithPW writes a token other than DFCI_AUTH_TOKEN_INVALID in this round. -/
def PasswordRound.validToken (r : PasswordRound) : Bool :=
  (r.services.authWithPw r.passwordBuffer).token.any (· != invalid)

section Loop

variable {invalid} {r : PasswordRound} {rs : List PasswordRound} {n : UInt8} {token : DfciAuthToken}

theorem authenticates_iff : r.authenticates invalid = true ↔
    (getAuthToken invalid r.services r.passwordBuffer token).status = efiSuccess := by
  unfold PasswordRound.authenticates
  rw [beq_iff_eq, getAuthToken_status invalid _ _ invalid token]

variable (token) in
theorem validToken_of_authenticates (h : r.authenticates invalid = true) :
    r.validToken invalid =
      ((getAuthToken invalid r.services r.passwordBuffer token).token != invalid) := by
  obtain ⟨-, -, htoken⟩ := getAuthToken_success invalid (authenticates_iff.mp h)
  rw [PasswordRound.validToken, htoken, Option.any_some]

/-! One equation for each way a round goes. -/

theorem challengeLoop_stops (h : r.stops = true) :
    challengeLoop invalid (r :: rs) n token = ⟨some .cancelled, token, []⟩ := by
  rw [challengeLoop]
  exact if_pos h

theorem challengeLoop_skips (hstops : r.stops = false) (hasks : r.asks = false) :
    challengeLoop invalid (r :: rs) n token = challengeLoop invalid rs n token := by
  have hok : (r.swmResult == .idOk) = false := by
    rwa [PasswordRound.asks, hstops, Bool.not_false, Bool.true_and] at hasks
  rw [challengeLoop, if_neg (by rw [← PasswordRound.stops, hstops]; exact Bool.false_ne_true), hok]
  exact if_neg Bool.false_ne_true

theorem stops_of_asks (h : r.asks = true) : r.stops = false := by
  unfold PasswordRound.asks at h
  cases hs : r.stops with
  | true => simp [hs] at h
  | false => rfl

theorem idOk_of_asks (h : r.asks = true) : (r.swmResult == .idOk) = true := by
  unfold PasswordRound.asks at h
  exact (Bool.and_eq_true_iff.mp h).2

/-- What OK leads to. -/
theorem challengeLoop_asks (hasks : r.asks = true) :
    challengeLoop invalid (r :: rs) n token =
      let attempt := getAuthToken invalid r.services r.passwordBuffer token
      if attempt.status = efiSuccess then ⟨some .authenticated, attempt.token, [attempt]⟩
      else if n ≠ 0 ∧ n - 1 = 0 then ⟨some .attemptsExpired, attempt.token, [attempt]⟩
      else
        let c := challengeLoop invalid rs (if n ≠ 0 then n - 1 else 0) attempt.token
        { c with attempts := attempt :: c.attempts } := by
  have hstops : (efiError r.status || r.swmResult == .idCancel) = false := stops_of_asks hasks
  rw [challengeLoop, hstops, if_neg Bool.false_ne_true, if_pos (idOk_of_asks hasks)]

theorem status_ne_success (hauth : r.authenticates invalid = false) :
    (getAuthToken invalid r.services r.passwordBuffer token).status ≠ efiSuccess := by
  intro h
  rw [authenticates_iff.mpr h] at hauth
  cases hauth

theorem challengeLoop_authenticates (hasks : r.asks = true)
    (hauth : r.authenticates invalid = true) :
    challengeLoop invalid (r :: rs) n token =
      let attempt := getAuthToken invalid r.services r.passwordBuffer token
      ⟨some .authenticated, attempt.token, [attempt]⟩ := by
  rw [challengeLoop_asks hasks]
  exact if_pos (authenticates_iff.mp hauth)

/-- The last attempt. -/
theorem challengeLoop_expires (hasks : r.asks = true) (hauth : r.authenticates invalid = false)
    (hlast : n ≠ 0 ∧ n - 1 = 0) :
    challengeLoop invalid (r :: rs) n token =
      let attempt := getAuthToken invalid r.services r.passwordBuffer token
      ⟨some .attemptsExpired, attempt.token, [attempt]⟩ := by
  rw [challengeLoop_asks hasks]
  dsimp only
  rw [if_neg (status_ne_success hauth), if_pos hlast]

/-- An attempt that fails with more to come. -/
theorem challengeLoop_retries (hasks : r.asks = true) (hauth : r.authenticates invalid = false)
    (hlast : ¬ (n ≠ 0 ∧ n - 1 = 0)) :
    challengeLoop invalid (r :: rs) n token =
      let attempt := getAuthToken invalid r.services r.passwordBuffer token
      let c := challengeLoop invalid rs (if n ≠ 0 then n - 1 else 0) attempt.token
      { c with attempts := attempt :: c.attempts } := by
  rw [challengeLoop_asks hasks]
  dsimp only
  rw [if_neg (status_ne_success hauth), if_neg hlast]

/-- The ways a round goes, with MaxAttempts at `n`. -/
inductive RoundCase (invalid : DfciAuthToken) (r : PasswordRound) (n : UInt8) : Prop
  | stops (stops : r.stops = true)
  | skips (stops : r.stops = false) (asks : r.asks = false)
  | authenticates (asks : r.asks = true) (auth : r.authenticates invalid = true)
  | expires (asks : r.asks = true) (auth : r.authenticates invalid = false)
      (last : n ≠ 0 ∧ n - 1 = 0)
  | retries (asks : r.asks = true) (auth : r.authenticates invalid = false)
      (more : ¬ (n ≠ 0 ∧ n - 1 = 0))

variable (invalid) (r) (n) in
theorem roundCase : RoundCase invalid r n := by
  cases hstops : r.stops with
  | true => exact .stops hstops
  | false =>
      cases hasks : r.asks with
      | false => exact .skips hstops hasks
      | true =>
          cases hauth : r.authenticates invalid with
          | true => exact .authenticates hasks hauth
          | false =>
              by_cases hlast : n ≠ 0 ∧ n - 1 = 0
              · exact .expires hasks hauth hlast
              · exact .retries hasks hauth hlast

theorem toNat_pred (h : n ≠ 0) : (n - 1).toNat = n.toNat - 1 := by
  have hpos : 1 ≤ n.toNat := by
    have : n.toNat ≠ 0 := fun h0 => h (UInt8.toNat_inj.mp h0)
    omega
  exact UInt8.toNat_sub_of_le n 1 (UInt8.le_iff_toNat_le.mpr hpos)

/-- **No more attempts than allowed**, by induction on the rounds. -/
theorem attempts_le (rs : List PasswordRound) : ∀ {n : UInt8} (token : DfciAuthToken), n ≠ 0 →
    (challengeLoop invalid rs n token).attempts.length ≤ n.toNat := by
  induction rs with
  | nil => intro n token _; exact Nat.zero_le _
  | cons r rs ih =>
      intro n token hn
      have hpos : n.toNat ≠ 0 := fun h0 => hn (UInt8.toNat_inj.mp h0)
      cases roundCase invalid r n with
      | stops stops =>
          rw [challengeLoop_stops stops]
          exact Nat.zero_le _
      | skips stops asks =>
          rw [challengeLoop_skips stops asks]
          exact ih token hn
      | authenticates asks auth =>
          rw [challengeLoop_authenticates asks auth]
          show 1 ≤ n.toNat
          omega
      | expires asks auth last =>
          rw [challengeLoop_expires asks auth last]
          show 1 ≤ n.toNat
          omega
      | retries asks auth more =>
          rw [challengeLoop_retries asks auth more, if_pos hn]
          have hmore := ih (getAuthToken invalid r.services r.passwordBuffer token).token
            fun h => more ⟨hn, h⟩
          rw [toNat_pred hn] at hmore
          show _ + 1 ≤ n.toNat
          omega

end Loop

/-- Some round authenticates with a valid token: before it there is no dialog error, no Cancel and
no successful attempt, and fewer than `k` attempts in all. -/
def LetIn (rounds : List PasswordRound) (k : Nat) : Prop :=
  ∃ before r after, rounds = before ++ r :: after ∧
    (∀ q ∈ before, q.stops = false ∧ (q.asks = true → q.authenticates invalid = false)) ∧
    before.countP (·.asks) < k ∧
    r.asks = true ∧ r.authenticates invalid = true ∧ r.validToken invalid = true

theorem not_letIn_nil (k : Nat) : ¬ LetIn invalid [] k := by
  rintro ⟨before, r, after, h, -⟩
  simp at h

theorem not_letIn_zero (rounds : List PasswordRound) : ¬ LetIn invalid rounds 0 := by
  rintro ⟨before, r, after, -, -, h, -⟩
  exact absurd h (Nat.not_lt_zero _)

/-- The first round decides, or leaves it to the others. -/
theorem letIn_cons (q : PasswordRound) (qs : List PasswordRound) (k : Nat) :
    LetIn invalid (q :: qs) k ↔
      (0 < k ∧ q.asks = true ∧ q.authenticates invalid = true ∧ q.validToken invalid = true) ∨
        (q.stops = false ∧ (q.asks = true → q.authenticates invalid = false) ∧
          LetIn invalid qs (k - if q.asks = true then 1 else 0)) := by
  constructor
  · rintro ⟨before, r, after, h, hbefore, hcount, hr⟩
    cases before with
    | nil =>
        obtain ⟨rfl, rfl⟩ := List.cons.inj h
        exact Or.inl ⟨by omega, hr⟩
    | cons q' before =>
        obtain ⟨rfl, rfl⟩ := List.cons.inj h
        obtain ⟨hq, hrest⟩ := List.forall_mem_cons.mp hbefore
        rw [List.countP_cons] at hcount
        exact Or.inr ⟨hq.1, hq.2, before, r, after, rfl, hrest, by omega, hr⟩
  · rintro (⟨hk, hr⟩ | ⟨hstops, hfails, before, r, after, rfl, hbefore, hcount, hr⟩)
    · exact ⟨[], q, qs, rfl, fun q hq => absurd hq List.not_mem_nil, hk, hr⟩
    · refine ⟨q :: before, r, after, rfl, ?_, ?_, hr⟩
      · exact List.forall_mem_cons.mpr ⟨⟨hstops, hfails⟩, hbefore⟩
      · rw [List.countP_cons]
        omega

/-- **Who is let in**, by induction on the rounds: the budget left is MaxAttempts. -/
theorem challengeLoop_result_iff (rs : List PasswordRound) :
    ∀ {n : UInt8} (token : DfciAuthToken), n ≠ 0 →
      ((challengeLoop invalid rs n token).result invalid = some true ↔
        LetIn invalid rs n.toNat) := by
  induction rs with
  | nil =>
      intro n token _
      exact iff_of_false (by simp [challengeLoop, Challenge.result]) (not_letIn_nil invalid _)
  | cons r rs ih =>
      intro n token hn
      have hpos : 0 < n.toNat := by
        have : n.toNat ≠ 0 := fun h0 => hn (UInt8.toNat_inj.mp h0)
        omega
      rw [letIn_cons]
      cases roundCase invalid r n with
      | stops stops =>
          have hasks : r.asks = false := by rw [PasswordRound.asks, stops]; rfl
          rw [challengeLoop_stops stops]
          simp [Challenge.result, hasks, stops]
      | skips stops asks =>
          rw [challengeLoop_skips stops asks, ih token hn]
          simp [stops, asks]
      | authenticates asks auth =>
          rw [challengeLoop_authenticates asks auth, validToken_of_authenticates token auth]
          simp [Challenge.result, hpos, asks, auth]
      | expires asks auth last =>
          have hone : n.toNat - 1 = 0 := by
            rw [← toNat_pred hn, last.2]
            rfl
          rw [challengeLoop_expires asks auth last, if_pos asks, hone]
          refine iff_of_false (by simp [Challenge.result]) ?_
          rintro (⟨-, -, h, -⟩ | ⟨-, -, h⟩)
          · rw [auth] at h
            exact Bool.false_ne_true h
          · exact not_letIn_zero invalid rs h
      | retries asks auth more =>
          rw [challengeLoop_retries asks auth more, if_pos hn]
          have hmore := ih (getAuthToken invalid r.services r.passwordBuffer token).token
            fun h => more ⟨hn, h⟩
          rw [toNat_pred hn] at hmore
          simpa [Challenge.result, stops_of_asks asks, asks, auth] using hmore

/-- AuthWithPW did not fail in this attempt, and delivered a valid token. -/
def Attempt.Authenticated (a : Attempt) : Prop :=
  ∃ auth t, a.authWithPw = some auth ∧ efiError auth.status = false ∧ auth.token = some t ∧
    t ≠ invalid

/-- An attempt that returned EFI_SUCCESS and left a valid token is authenticated. -/
theorem authenticated_of_success {sv : AuthServices} {buffer : Option (List UInt16)}
    {token : DfciAuthToken} (h : (getAuthToken invalid sv buffer token).status = efiSuccess)
    (hvalid : (getAuthToken invalid sv buffer token).token ≠ invalid) :
    (getAuthToken invalid sv buffer token).Authenticated invalid := by
  obtain ⟨hcalled, hok, htoken⟩ := getAuthToken_success invalid h
  exact ⟨_, _, hcalled, hok, htoken, hvalid⟩

/-- Nobody is let in without such an attempt, with any number of attempts allowed. -/
theorem challengeLoop_authenticated (rs : List PasswordRound) :
    ∀ {n : UInt8} {token : DfciAuthToken},
      (challengeLoop invalid rs n token).result invalid = some true →
        ∃ a ∈ (challengeLoop invalid rs n token).attempts, a.Authenticated invalid := by
  induction rs with
  | nil => intro n token h; cases h
  | cons r rs ih =>
      intro n token h
      cases roundCase invalid r n with
      | stops stops =>
          rw [challengeLoop_stops stops] at h
          cases h
      | skips stops asks =>
          rw [challengeLoop_skips stops asks] at h ⊢
          exact ih h
      | authenticates asks auth =>
          rw [challengeLoop_authenticates asks auth] at h ⊢
          refine ⟨_, List.mem_singleton_self _, authenticated_of_success invalid
            (authenticates_iff.mp auth) ?_⟩
          simpa [Challenge.result] using h
      | expires asks auth last =>
          rw [challengeLoop_expires asks auth last] at h
          cases h
      | retries asks auth more =>
          rw [challengeLoop_retries asks auth more] at h ⊢
          obtain ⟨a, ha, hauthenticated⟩ := ih h
          exact ⟨a, List.mem_cons_of_mem _ ha, hauthenticated⟩

end OemPkg.FrontPage
