/-
# OemPkg.Password.Authentication — who gets in

Two laws a password check should have, and exactly when this one has them.

* A candidate that authenticates is the password. AuthenticatePassword copies the candidate into a
  buffer of PW_MAX_LENGTH characters before the string policy sees it, so the policy's own
  length check passes and a longer candidate is compared by its first PW_MAX_LENGTH characters
  (`authenticatePassword_sound_iff`).
* A read that fails costs nothing. IsPasswordSet and InitializeLib write the no-password record when
  the first GetVariable fails, whatever its status, and AuthenticatePassword lets everyone in when
  IsPasswordSet could not read (`failing_read_keeps_password_iff`).
-/
import OemPkg.Password.Store

namespace OemPkg.Password

open OemPkg.Lib OemPkg.Uefi

/-! ## Candidates of every length -/

/-- No other byte string has the key of `p` under any salt: what an injective hash gives. -/
def PolicyEnv.Separates (env : PolicyEnv) (p : Char16String) : Prop :=
  ∀ (salt : Block saltSizeV1) (b : Bytes),
    (env.hashPassword b salt.1 60000 32 keySizeV1).2 = (env.deriveKey p salt).2 → b = p.bytes

/-- Under a hash that separates, a record is the record of one password only. -/
theorem IsRecordOf.unique {env : PolicyEnv} {p q : Char16String} (hsep : env.Separates p)
    {r : Bytes} (hp : IsRecordOf env p r) (hq : IsRecordOf env q r) : q = p := by
  obtain ⟨salt, rfl⟩ := hp.record
  have hkey := (isRecordOf_v1Record.mp hq).2
  exact Char16String.bytes_injective (hsep salt q.bytes hkey.symm)

/-- **Authentication is sound except for over-long candidates.** Store the record generated for
`p₀`. That a candidate which authenticates is `p₀` holds unless the candidate is longer than
PW_MAX_LENGTH and begins with all of `p₀`. -/
theorem authenticatePassword_sound_iff {env : PolicyEnv} (henv : env.Hashes) {p₀ : Char16String}
    (hsep : env.Separates p₀) (hp₀ : ValidPassword p₀) {locateRng : EfiStatus}
    {getRng : Fin 3 → EfiStatus × Block saltSizeV1} {r : Bytes}
    (hgen : passwordPolicyGeneratePasswordHash { env with locateRng := locateRng, getRng := getRng }
      none (some p₀) = (efiSuccess, some r)) (p : Char16String) :
    ((passwordStoreAuthenticatePassword env (holding (stored r)) (some p)).1 = true → p = p₀) ↔
      ¬ (pwMaxLength < p.length ∧ p.chars.take pwMaxLength = p₀.chars) := by
  have hrec : IsRecordOf env p₀ r := isRecordOf_generated henv hp₀ hgen
  have hauth : (passwordStoreAuthenticatePassword env (holding (stored r)) (some p)).1 = true ↔
      tempPassword p = p₀ := by
    rw [(authenticatePassword_stored henv hrec.isV1Record (some p)).1]
    constructor
    · rintro ⟨q, hq, hqr⟩
      cases hq
      exact hrec.unique hsep hqr
    · intro htemp
      exact ⟨p, rfl, by rw [htemp]; exact hrec⟩
  rw [hauth, tempPassword_eq]
  constructor
  · rintro hsound ⟨hlong, htake⟩
    have heq : p = p₀ := hsound (Char16String.ext htake)
    have hmax := hp₀.max
    rw [← heq] at hmax
    omega
  · intro hcond htemp
    have hshort : p.length ≤ pwMaxLength := by
      by_contra hlong
      exact hcond ⟨by omega, congrArg Char16String.chars htemp⟩
    rw [← htemp, Char16String.strnCpyS_of_le hshort]

/-- A string of `n` letters A. -/
def lettersA (n : Nat) : Char16String := ⟨List.replicate n 65, by simp⟩

/-- The policy accepts it when its length is in the limits. -/
theorem validPassword_lettersA {n : Nat} (hmin : pwMinLength ≤ n) (hmax : n ≤ pwMaxLength) :
    ValidPassword (lettersA n) where
  min := by
    show pwMinLength ≤ (List.replicate n _).length
    rw [List.length_replicate]
    exact hmin
  max := by
    show (List.replicate n _).length ≤ pwMaxLength
    rw [List.length_replicate]
    exact hmax
  chars := by
    intro c hc
    rw [List.eq_of_mem_replicate hc]
    decide

theorem singlingOut_separates (p : Char16String) : (singlingOut p).Separates p := by
  intro salt b h
  by_contra hne
  have hbyte := congrArg (fun k => k.1.head?) h
  simp [singlingOut, PolicyEnv.deriveKey, hne, keySizeV1] at hbyte

theorem authenticatePassword_sound_iff_eight :
    let env := singlingOut (lettersA 8)
    let r := singledOutRecord
    ∀ p, (passwordStoreAuthenticatePassword env (holding (stored r)) (some p)).1 = true →
      p = lettersA 8 := by
  intro env r p
  have hvalid : ValidPassword (lettersA 8) := validPassword_lettersA (by decide) (by decide)
  have hgen : passwordPolicyGeneratePasswordHash
      { env with locateRng := env.locateRng, getRng := env.getRng } none (some (lettersA 8)) =
        (efiSuccess, some r) := generatePasswordHash_singlingOut hvalid
  refine (authenticatePassword_sound_iff (singlingOut_hashes _) (singlingOut_separates _) hvalid
    hgen p).mpr ?_
  rintro ⟨hlong, htake⟩
  have hlen := congrArg List.length htake
  rw [List.length_take] at hlen
  simp only [Char16String.length, lettersA, List.length_replicate, pwMaxLength] at hlong hlen
  omega

/-- With a password of 128 letters, a candidate of 129 authenticates. -/
theorem authenticatePassword_accepts_overlong :
    ¬ ∀ (env : PolicyEnv) (p₀ p : Char16String) (r : Bytes),
      env.Hashes → env.Separates p₀ → ValidPassword p₀ →
      passwordPolicyGeneratePasswordHash env none (some p₀) = (efiSuccess, some r) →
      (passwordStoreAuthenticatePassword env (holding (stored r)) (some p)).1 = true → p = p₀ := by
  intro hsound
  have hvalid : ValidPassword (lettersA 128) := validPassword_lettersA (by decide) (by decide)
  have hgen := generatePasswordHash_singlingOut hvalid
  -- the candidate is cut off after 128 letters
  have htemp : tempPassword (lettersA 129) = lettersA 128 := by
    rw [tempPassword_eq]
    exact Char16String.ext (List.take_replicate ..)
  have hrecord : IsRecordOf (singlingOut (lettersA 128)) (tempPassword (lettersA 129))
      singledOutRecord := by
    rw [htemp]
    exact isRecordOf_generated (singlingOut_hashes _) hvalid hgen
  have hauth := (authenticatePassword_stored (singlingOut_hashes (lettersA 128))
    isV1Record_singledOutRecord (some (lettersA 129))).1.mpr ⟨_, rfl, hrecord⟩
  have heq := hsound (singlingOut (lettersA 128)) (lettersA 128) (lettersA 129) singledOutRecord
    (singlingOut_hashes _) (singlingOut_separates _) hvalid hgen hauth
  have hlength := congrArg Char16String.length heq
  simp [Char16String.length, lettersA] at hlength

/-! ## Reads that fail -/

/-- The library holding the record `r`, with a schedule for its coming reads. -/
def reading (r : Bytes) (fs : List (Option EfiStatus)) : PasswordStore :=
  ⟨⟨stored r, fs, []⟩, some deleteRecord⟩

/-- Read number `i` of a call fails. Reads of even number ask for the size, and then
`EFI_BUFFER_TOO_SMALL` is no failure. -/
def ReadFails (fs : List (Option EfiStatus)) (i : Nat) : Prop :=
  ∃ e, fs[i]? = some (some e) ∧ ¬ (i % 2 = 0 ∧ e = efiBufferTooSmall)

/-- Every scheduled failure is an error other than "not found". -/
def Faults (fs : List (Option EfiStatus)) : Prop :=
  ∀ e, some e ∈ fs → efiError e = true ∧ e ≠ efiNotFound

theorem Faults.tail {fs : List (Option EfiStatus)} (h : Faults fs) : Faults fs.tail :=
  fun e he => h e (List.mem_of_mem_tail he)

/-- The three outcomes of GetVariable3 on a stored record: the sizing call fails and nothing at all
is known of the variable; the filling call fails and only the contents are missing; neither
fails. -/
theorem getVariable3_reading {r : Bytes} (hr : r ≠ []) {fs : List (Option EfiStatus)}
    (hfs : Faults fs) :
    (ReadFails fs 0 ∧ ∃ e, efiError e = true ∧ e ≠ efiNotFound ∧
      (⟨stored r, fs, []⟩ : VarService).getVariable3 =
        (⟨e, none, 0, 0#32⟩, ⟨stored r, fs.tail, []⟩)) ∨
    (¬ ReadFails fs 0 ∧ ReadFails fs 1 ∧ ∃ e, efiError e = true ∧ e ≠ efiNotFound ∧
      (⟨stored r, fs, []⟩ : VarService).getVariable3 =
        (⟨e, none, r.length, passwordStoreAdminVariableAttrs⟩, ⟨stored r, fs.tail.tail, []⟩)) ∨
    (¬ ReadFails fs 0 ∧ ¬ ReadFails fs 1 ∧
      (⟨stored r, fs, []⟩ : VarService).getVariable3 =
        (⟨efiSuccess, some r, r.length, passwordStoreAdminVariableAttrs⟩,
          ⟨stored r, fs.tail.tail, []⟩)) := by
  by_cases h0 : ReadFails fs 0
  · left
    obtain ⟨e, he, hne⟩ := id h0
    cases fs with
    | nil => simp at he
    | cons f fs =>
        simp only [List.getElem?_cons_zero, Option.some.injEq] at he
        subst he
        have hbts : e ≠ efiBufferTooSmall := by simpa using hne
        obtain ⟨herr, hnf⟩ := hfs e (by simp)
        exact ⟨h0, e, herr, hnf, VarService.getVariable3_sizing_fails hbts⟩
  right
  have hsizing : VarService.SizingAnswers ⟨stored r, fs, []⟩ := by
    intro e he
    by_contra hbts
    refine h0 ⟨e, ?_, fun h => hbts h.2⟩
    cases fs with
    | nil => simp at he
    | cons f fs => simpa using he
  by_cases h1 : ReadFails fs 1
  · left
    obtain ⟨e, he, -⟩ := id h1
    match fs with
    | [] | [_] => simp at he
    | f :: g :: fs =>
        simp only [List.getElem?_cons_succ, List.getElem?_cons_zero, Option.some.injEq] at he
        subst he
        obtain ⟨herr, hnf⟩ := hfs e (by simp)
        exact ⟨h0, h1, e, herr, hnf, VarService.getVariable3_fill_fails hr herr hsizing⟩
  · right
    have hfill : fs.tail.head?.join = none := by
      by_contra hne
      obtain ⟨e, he⟩ := Option.ne_none_iff_exists'.mp hne
      refine h1 ⟨e, ?_, fun h => absurd h.1 (by decide)⟩
      match fs with
      | [] | [_] => simp at he
      | f :: g :: fs => simpa using he
    exact ⟨h0, h1, VarService.getVariable3_fetches hr hsizing hfill⟩

/-- What IsPasswordSet does on a version-1 record in each of the three cases. -/
theorem isPasswordSet_reading (env : PolicyEnv) {r : Bytes} (hr : IsV1Record r)
    {fs : List (Option EfiStatus)} (hfs : Faults fs) :
    (ReadFails fs 0 ∧ passwordStoreIsPasswordSet env (reading r fs) =
      (false, reading deleteRecord fs.tail)) ∨
    (¬ ReadFails fs 0 ∧ ReadFails fs 1 ∧ passwordStoreIsPasswordSet env (reading r fs) =
      (false, reading r fs.tail.tail)) ∨
    (¬ ReadFails fs 0 ∧ ¬ ReadFails fs 1 ∧ passwordStoreIsPasswordSet env (reading r fs) =
      (true, reading r fs.tail.tail)) := by
  have hacc : Accepted r := Or.inr hr
  have hsize : r.length ≠ 0 := fun h => hacc.ne_nil (List.length_eq_zero_iff.mp h)
  rcases getVariable3_reading hacc.ne_nil hfs with ⟨h0, e, herr, hnf, hread⟩ |
    ⟨h0, h1, e, herr, hnf, hread⟩ | ⟨h0, h1, hread⟩
  · refine Or.inl ⟨h0, ?_⟩
    have hset := setPassword_stored (Or.inr ⟨r, rfl⟩) accepted_deleteRecord fs.tail
      (some deleteRecord)
    simp only [passwordStoreIsPasswordSet, reading, VarService.getVariable2, hread, or_true,
      if_true, hset]
  · refine Or.inr (Or.inl ⟨h0, h1, ?_⟩)
    simp only [passwordStoreIsPasswordSet, reading, VarService.getVariable2, hread, hnf, hsize,
      or_self, if_false, herr, Bool.true_eq_false, false_and]
  · refine Or.inr (Or.inr ⟨h0, h1, ?_⟩)
    simp only [passwordStoreIsPasswordSet, reading, VarService.getVariable2, hread, hsize,
      success_ne_notFound, or_self, if_false, efiError_success, Nat.pos_of_ne_zero hsize,
      and_self, if_true, Option.getD_some]
    rw [(classify_iff hacc env.beyond).mpr hr]

/-- A call that reads the record. -/
inductive ReadingCall where
  | isPasswordSet
  | authenticatePassword (password : Option Char16String)
  | initializeLib

namespace ReadingCall

def toCall : ReadingCall → StoreCall
  | .isPasswordSet => .isPasswordSet
  | .authenticatePassword password => .authenticatePassword password
  | .initializeLib => .initializeLib

/-- The GetVariable calls it makes at most. -/
def reads : ReadingCall → Nat
  | .authenticatePassword _ => 4
  | _ => 2

end ReadingCall

/-- A call on the stored record `r` costs nothing: the variable is as it was, and only a password
of `r` has been let in. -/
structure KeepsPassword (env : PolicyEnv) (r : Bytes) (fs : List (Option EfiStatus))
    (call : ReadingCall) : Prop where
  var : ((passwordStore env).step (reading r fs) call.toCall).1.vars.var = stored r
  refused : ∀ password, call = .authenticatePassword password →
    ((passwordStore env).step (reading r fs) call.toCall).2 = .boolean true →
      ∃ p, password = some p ∧ IsRecordOf env p r

/-- A call that authenticates no one keeps the password when it leaves the variable as it was. -/
theorem keepsPassword_of_var {env : PolicyEnv} {r : Bytes} {fs : List (Option EfiStatus)}
    {call : ReadingCall} (hother : ∀ password, call ≠ .authenticatePassword password)
    (hvar : ((passwordStore env).step (reading r fs) call.toCall).1.vars.var = stored r) :
    KeepsPassword env r fs call where
  var := hvar
  refused password h := absurd h (hother password)

/-- The no-password record is no version-1 record. -/
theorem stored_deleteRecord_ne {r : Bytes} (hr : IsV1Record r) :
    stored deleteRecord ≠ stored r := by
  intro h
  simp only [stored, Option.some.injEq, Variable.mk.injEq, true_and] at h
  subst h
  exact not_delete_of_v1 hr isDeleteRecord_deleteRecord

/-- A password that is set and whose second read fails: nobody gets in, nothing is written. -/
theorem authenticatePassword_second_read_fails {env : PolicyEnv} {r : Bytes}
    {fs : List (Option EfiStatus)}
    (hset : passwordStoreIsPasswordSet env (reading r fs) = (true, reading r fs.tail.tail))
    {e : EfiStatus} {size : Nat} {a : Attributes} {fs' : List (Option EfiStatus)}
    (herr : efiError e = true)
    (hread : (⟨stored r, fs.tail.tail, []⟩ : VarService).getVariable3 =
      (⟨e, none, size, a⟩, ⟨stored r, fs', []⟩)) (password : Option Char16String) :
    (passwordStoreAuthenticatePassword env (reading r fs) password).1 = false ∧
      (passwordStoreAuthenticatePassword env (reading r fs) password).2.vars.var = stored r := by
  unfold passwordStoreAuthenticatePassword
  simp only [hset, Bool.not_true, Bool.false_eq_true, if_false]
  cases password with
  | none => exact ⟨rfl, rfl⟩
  | some p =>
      simp only [reading, VarService.getVariable2, hread, herr, if_true]
      split_ifs <;> exact ⟨rfl, rfl⟩

/-- IsPasswordSet keeps the record when its first sizing read answers. -/
theorem isPasswordSet_keeps_iff (env : PolicyEnv) {r : Bytes} (hr : IsV1Record r)
    {fs : List (Option EfiStatus)} (hfs : Faults fs) :
    KeepsPassword env r fs .isPasswordSet ↔ ¬ ReadFails fs 0 := by
  constructor
  · intro h h0
    rcases isPasswordSet_reading env hr hfs with ⟨-, heq⟩ | ⟨hn, -⟩ | ⟨hn, -⟩
    · have hvar := h.var
      simp only [passwordStore, ReadingCall.toCall, heq] at hvar
      exact stored_deleteRecord_ne hr hvar
    · exact hn h0
    · exact hn h0
  · intro h0
    apply keepsPassword_of_var (by simp)
    show (passwordStoreIsPasswordSet env (reading r fs)).2.vars.var = stored r
    rcases isPasswordSet_reading env hr hfs with ⟨hf, -⟩ | ⟨-, -, heq⟩ | ⟨-, -, heq⟩
    · exact absurd hf h0
    · rw [heq]
      rfl
    · rw [heq]
      rfl

/-- InitializeLib keeps the record when its sizing read answers. -/
theorem initializeLib_keeps_iff (env : PolicyEnv) {r : Bytes} (hr : IsV1Record r)
    {fs : List (Option EfiStatus)} (hfs : Faults fs) :
    KeepsPassword env r fs .initializeLib ↔ ¬ ReadFails fs 0 := by
  have hacc : Accepted r := Or.inr hr
  constructor
  · intro h h0
    rcases getVariable3_reading hacc.ne_nil hfs with ⟨-, e, -, hnf, hread⟩ | ⟨hn, -⟩ | ⟨hn, -⟩
    · have hattr : (0#32 : Attributes) ≠ passwordStoreAdminVariableAttrs := by decide
      have hset := setPassword_stored (Or.inr ⟨r, rfl⟩) accepted_deleteRecord fs.tail
        (some deleteRecord)
      have hvar := h.var
      simp only [passwordStore, ReadingCall.toCall, passwordStoreInitializeLib, reading, hread,
        hnf, hattr, ne_eq, not_false_eq_true, or_true, if_true, hset] at hvar
      exact stored_deleteRecord_ne hr hvar
    · exact hn h0
    · exact hn h0
  · intro h0
    apply keepsPassword_of_var (by simp)
    rcases getVariable3_reading hacc.ne_nil hfs with ⟨hf, -⟩ | ⟨-, -, e, -, hnf, hread⟩ |
      ⟨-, -, hread⟩
    · exact absurd hf h0
    · simp only [passwordStore, ReadingCall.toCall, passwordStoreInitializeLib, reading, hread,
        hnf, ne_eq, not_true_eq_false, or_self, if_false]
    · simp only [passwordStore, ReadingCall.toCall, passwordStoreInitializeLib, reading, hread,
        success_ne_notFound, ne_eq, not_true_eq_false, or_self, if_false]

/-- AuthenticatePassword with a failure among its four reads: the first sizing read must answer, and
when the first filling read fails everyone is let in. -/
theorem authenticatePassword_keeps_iff (env : PolicyEnv) {r : Bytes} (hr : IsV1Record r)
    {fs : List (Option EfiStatus)} (hfs : Faults fs) (password : Option Char16String)
    (hfail : ∃ i < 4, ReadFails fs i) :
    KeepsPassword env r fs (.authenticatePassword password) ↔
      ¬ ReadFails fs 0 ∧ (ReadFails fs 1 → ∃ p, password = some p ∧ IsRecordOf env p r) := by
  have hacc : Accepted r := Or.inr hr
  rcases isPasswordSet_reading env hr hfs with ⟨h0, heq⟩ | ⟨h0, h1, heq⟩ | ⟨h0, h1, heq⟩
  · -- the record has been overwritten
    constructor
    · intro h
      have hvar := h.var
      simp only [passwordStore, ReadingCall.toCall,
        authenticatePassword_of_not_set (congrArg Prod.fst heq), heq] at hvar
      exact absurd hvar (stored_deleteRecord_ne hr)
    · rintro ⟨hn, -⟩
      exact absurd h0 hn
  · -- everyone is let in
    have hauth := authenticatePassword_of_not_set (congrArg Prod.fst heq) password
    rw [heq] at hauth
    constructor
    · intro h
      refine ⟨h0, ?_⟩
      intro _
      apply h.refused password rfl
      simp only [passwordStore, ReadingCall.toCall, hauth]
    · rintro ⟨-, hcand⟩
      refine ⟨?_, fun q hq _ => ?_⟩
      · show (passwordStoreAuthenticatePassword env (reading r fs) password).2.vars.var = stored r
        rw [hauth]
        rfl
      · cases hq
        exact hcand h1
  · -- the failing read is one of the second pair
    refine ⟨fun _ => ⟨h0, fun h => absurd h h1⟩, fun _ => ?_⟩
    have hsecond : ReadFails fs.tail.tail 0 ∨ ReadFails fs.tail.tail 1 := by
      rcases hfail with ⟨i, hi, e, he, hne⟩
      have hshift : ∀ j, fs.tail.tail[j]? = fs[j + 2]? := fun j => by simp [List.getElem?_tail]
      match i, hi with
      | 0, _ => exact absurd ⟨e, he, hne⟩ h0
      | 1, _ => exact absurd ⟨e, he, hne⟩ h1
      | 2, _ => exact Or.inl ⟨e, (hshift 0).trans he, hne⟩
      | 3, _ => exact Or.inr ⟨e, (hshift 1).trans he, hne⟩
    obtain ⟨e, size, a, fs', herr, hread⟩ : ∃ e size a fs', efiError e = true ∧
        (⟨stored r, fs.tail.tail, []⟩ : VarService).getVariable3 =
          (⟨e, none, size, a⟩, ⟨stored r, fs', []⟩) := by
      rcases getVariable3_reading hacc.ne_nil hfs.tail.tail with ⟨-, e, herr, -, hread⟩ |
        ⟨-, -, e, herr, -, hread⟩ | ⟨hn0, hn1, -⟩
      · exact ⟨e, _, _, _, herr, hread⟩
      · exact ⟨e, _, _, _, herr, hread⟩
      · exact absurd hsecond (not_or.mpr ⟨hn0, hn1⟩)
    rcases authenticatePassword_second_read_fails heq herr hread password with ⟨hno, hvar⟩
    refine ⟨hvar, fun _ _ htrue => ?_⟩
    simp only [passwordStore, ReadingCall.toCall, hno, StoreAnswer.boolean.injEq,
      Bool.false_eq_true] at htrue

/-- **When a failing read costs nothing.** Store a version-1 record and let a call's reads fail in
any way, one of them at least. The call keeps the password exactly when its first sizing read does
not fail and, in AuthenticatePassword, a failing first filling read meets no candidate but the
password itself. -/
theorem failing_read_keeps_password_iff (env : PolicyEnv) {r : Bytes} (hr : IsV1Record r)
    {fs : List (Option EfiStatus)} (hfs : Faults fs) (call : ReadingCall)
    (hfail : ∃ i < call.reads, ReadFails fs i) :
    KeepsPassword env r fs call ↔
      ¬ ReadFails fs 0 ∧ ∀ password, call = .authenticatePassword password → ReadFails fs 1 →
        ∃ p, password = some p ∧ IsRecordOf env p r := by
  cases call with
  | isPasswordSet =>
      rw [isPasswordSet_keeps_iff env hr hfs]
      exact ⟨fun h0 => ⟨h0, fun _ h => nomatch h⟩, fun h => h.1⟩
  | initializeLib =>
      rw [initializeLib_keeps_iff env hr hfs]
      exact ⟨fun h0 => ⟨h0, fun _ h => nomatch h⟩, fun h => h.1⟩
  | authenticatePassword password =>
      rw [authenticatePassword_keeps_iff env hr hfs password hfail]
      refine and_congr_right fun _ => ⟨fun h q hq => ?_, fun h => h password rfl⟩
      cases hq
      exact h

theorem failing_read_keeps_password_iff_third :
    KeepsPassword (singlingOut (lettersA 8)) singledOutRecord
      [none, none, some efiDeviceError] (.authenticatePassword (some (lettersA 9))) := by
  have hfs : Faults [none, none, some efiDeviceError] := by
    intro e he
    simp only [List.mem_cons, reduceCtorEq, Option.some.injEq, List.not_mem_nil, or_false,
      false_or] at he
    subst he
    decide
  have hok : ∀ i < 2, ¬ ReadFails [none, none, some efiDeviceError] i := by
    rintro i hi ⟨e, he, -⟩
    match i, hi with
    | 0, _ => simp at he
    | 1, _ => simp at he
  refine (failing_read_keeps_password_iff _ isV1Record_singledOutRecord hfs
    (.authenticatePassword (some (lettersA 9)))
    ⟨2, by decide, efiDeviceError, rfl, by decide⟩).mpr ?_
  exact ⟨hok 0 (by decide), fun _ _ h => absurd h (hok 1 (by decide))⟩

/-- A device error in the first read of IsPasswordSet erases the password. -/
theorem failing_read_loses_password :
    ¬ ∀ (env : PolicyEnv) (r : Bytes) (fs : List (Option EfiStatus)) (call : ReadingCall),
      IsV1Record r → (∀ e, some e ∈ fs → efiError e = true ∧ e ≠ efiNotFound) →
      KeepsPassword env r fs call := by
  intro hkeeps
  have hfs : ∀ e, some e ∈ [some efiDeviceError] → efiError e = true ∧ e ≠ efiNotFound := by
    intro e he
    simp only [List.mem_singleton, Option.some.injEq] at he
    subst he
    decide
  have hvar := (hkeeps (singlingOut (lettersA 8)) _ _ .isPasswordSet
    isV1Record_singledOutRecord hfs).var
  exact absurd hvar (by decide +kernel)

end OemPkg.Password
