/-
# OemPkg.Password.Store — the administrator password in a variable

The model of `PasswordStoreLib.c`. The record of the password lives in one non-volatile variable;
the record that means "no password" is made once, by the constructor, and written whenever the
variable is missing. Every call returns its answer and the store afterwards.

`passwordStore` is the library as a component that serves calls one at a time. It is a simulation of
`lastRecord`, the machine that remembers the last record accepted since the last reset and nothing
else (`passwordStore_simulates`): the variable may be missing or hold the no-password record while
nothing has been set, and no caller can tell which.
-/
import OemPkg.Lib.Machine
import OemPkg.Password.Policy
import OemPkg.Uefi.Variable

namespace OemPkg.Password

open OemPkg.Lib OemPkg.Uefi

/-! ## The library -/

/-- PASSWORD_STORE_ADMIN_VARIABLE_ATTRS -/
def passwordStoreAdminVariableAttrs : Attributes :=
  efiVariableNonVolatile ||| efiVariableBootserviceAccess

/-- The library's state: the variable services, and the module variable `mNullPasswordHash` (its
size is `mNullPasswordHashSize`), NULL before the constructor has run. -/
structure PasswordStore where
  vars : VarService
  nullPasswordHash : Option Bytes

/-- PasswordStoreSetPassword -/
def passwordStoreSetPassword (st : PasswordStore) (passwordHashValue : Option Bytes) :
    EfiStatus × PasswordStore :=
  match passwordHashValue with
  | none => (efiInvalidParameter, st)
  | some hash =>
      let status := passwordPolicyValidatePasswordHash (some hash)
      if efiError status then (status, st)
      else
        let (status, vars) := st.vars.setVariable passwordStoreAdminVariableAttrs hash
        (if efiError status then efiAborted else status, { st with vars })

/-- PasswordStoreIsPasswordSet -/
def passwordStoreIsPasswordSet (env : PolicyEnv) (st : PasswordStore) : Bool × PasswordStore :=
  let (read, vars) := st.vars.getVariable2
  let st := { st with vars }
  if read.status = efiNotFound ∨ read.size = 0 then
    (false, (passwordStoreSetPassword st st.nullPasswordHash).2)
  else if efiError read.status = false ∧ 0 < read.size then
    let null := st.nullPasswordHash.getD []
    -- a record is a password unless it has the size of the no-password record or begins with it
    (read.size != null.length &&
      readPast env.beyond (read.value.getD []) 0 null.length != null, st)
  else (false, st)

/-- PasswordStoreAuthenticatePassword. A NULL pointer is `none`. -/
def passwordStoreAuthenticatePassword (env : PolicyEnv) (st : PasswordStore)
    (password : Option Char16String) : Bool × PasswordStore :=
  let (isSet, st) := passwordStoreIsPasswordSet env st
  if !isSet then (true, st)
  else
    match password with
    | none => (false, st)
    | some password =>
        if password.chars = [] then (false, st)
        else
          -- Step 1: retrieve the current store.
          let (cur, vars) := st.vars.getVariable2
          let st := { st with vars }
          if efiError cur.status then (false, st)
          else
            -- Step 2: build a new store to compare it to, with its salt.
            let (status, newStore) :=
              passwordPolicyGeneratePasswordHash env cur.value (some (tempPassword password))
            -- Step 3: compare the stores.
            if efiError status then (false, st)
            else
              let newStore := newStore.getD []
              (readPast env.beyond (cur.value.getD []) 0 newStore.length == newStore, st)

/-- PasswordStoreResetPasswordLib -/
def passwordStoreResetPasswordLib (st : PasswordStore) : EfiStatus × PasswordStore :=
  let (status, vars) := st.vars.setVariable 0#32 []
  (if status = efiNotFound then efiSuccess else status, { st with vars })

/-- PasswordStoreInitializeLib -/
def passwordStoreInitializeLib (st : PasswordStore) : EfiStatus × PasswordStore :=
  let (read, vars) := st.vars.getVariable3
  let st := { st with vars }
  if read.status = efiNotFound ∨ read.attributes ≠ passwordStoreAdminVariableAttrs then
    passwordStoreSetPassword st st.nullPasswordHash
  else (read.status, st)

/-- PasswordStoreLibConstructor, with the answer of LocateProtocol: only the first instance of the
library initializes the variable. -/
def passwordStoreLibConstructor (env : PolicyEnv) (locate : EfiStatus) (vars : VarService) :
    PasswordStore :=
  let st := ⟨vars, (passwordPolicyGeneratePasswordHash env none none).2⟩
  if locate = efiNotFound then (passwordStoreInitializeLib st).2 else st

/-! ## Calls -/

/-- One call of the library's interface. -/
inductive StoreCall where
  | setPassword (passwordHashValue : Option Bytes)
  | resetPasswordLib
  | initializeLib
  | isPasswordSet
  | authenticatePassword (password : Option Char16String)

/-- What a call returns. -/
inductive StoreAnswer where
  | status (s : EfiStatus)
  | boolean (b : Bool)
  deriving DecidableEq

/-- **The library as a component**, its calls served one at a time. -/
def passwordStore (env : PolicyEnv) : Machine PasswordStore StoreCall StoreAnswer where
  step st
    | .setPassword hash =>
        let (status, st) := passwordStoreSetPassword st hash
        (st, .status status)
    | .resetPasswordLib =>
        let (status, st) := passwordStoreResetPasswordLib st
        (st, .status status)
    | .initializeLib =>
        let (status, st) := passwordStoreInitializeLib st
        (st, .status status)
    | .isPasswordSet =>
        let (answer, st) := passwordStoreIsPasswordSet env st
        (st, .boolean answer)
    | .authenticatePassword password =>
        let (answer, st) := passwordStoreAuthenticatePassword env st password
        (st, .boolean answer)

/-- The last record a SetPassword stored since the last Reset, read off what an observer sees. -/
def lastAccepted : List (StoreCall × StoreAnswer) → Option Bytes → Option Bytes
  | [], last => last
  | (.setPassword (some r), .status s) :: t, last =>
      lastAccepted t (if s = efiSuccess then some r else last)
  | (.resetPasswordLib, _) :: t, _ => lastAccepted t none
  | _ :: t, last => lastAccepted t last

/-! ## What each call does, with services that do not fail -/

/-- A record the validator accepts. -/
def Accepted (r : Bytes) : Prop := IsDeleteRecord r ∨ IsV1Record r

/-- The variable when it holds the record `r`. -/
def stored (r : Bytes) : Option Variable := some ⟨passwordStoreAdminVariableAttrs, r⟩

/-- The library after its constructor, over services that do not fail. -/
def holding (v : Option Variable) : PasswordStore := ⟨.reliable v, some deleteRecord⟩

/-- What the store may be when `last` is the last accepted record since the last reset: it holds
that record or, when there is none, nothing or the no-password record. -/
inductive Tracks : PasswordStore → Option Bytes → Prop
  | missing : Tracks (holding none) none
  | null : Tracks (holding (stored deleteRecord)) none
  | record {r : Bytes} (h : Accepted r) : Tracks (holding (stored r)) (some r)

theorem isDeleteRecord_deleteRecord : IsDeleteRecord deleteRecord where
  size := by decide
  mark := by decide

theorem accepted_deleteRecord : Accepted deleteRecord := Or.inl isDeleteRecord_deleteRecord

theorem Accepted.ne_nil {r : Bytes} (h : Accepted r) : r ≠ [] := by
  rintro rfl
  rcases h with h | h
  · exact absurd h.size (by decide)
  · exact absurd h.size (by decide)

/-- The validator answers with success or with an invalid parameter. -/
theorem validatePasswordHash_cases (r : Bytes) :
    passwordPolicyValidatePasswordHash (some r) = efiSuccess ∨
      passwordPolicyValidatePasswordHash (some r) = efiInvalidParameter := by
  simp only [passwordPolicyValidatePasswordHash]
  split_ifs
  · exact Or.inr rfl
  · exact Or.inl rfl
  · split
    · split_ifs
      · exact Or.inl rfl
      · exact Or.inr rfl
    · exact Or.inr rfl

/-- An accepted record can always be written over what the store holds. -/
theorem writeVariable_stored {v : Option Variable} (hv : v = none ∨ ∃ old, v = stored old)
    {r : Bytes} (hr : Accepted r) :
    writeVariable v passwordStoreAdminVariableAttrs r = (efiSuccess, stored r) := by
  have hvalid : validAttributes passwordStoreAdminVariableAttrs = true := by decide
  have haccess : hasAccess passwordStoreAdminVariableAttrs = true := by decide
  rcases hv with rfl | ⟨old, rfl⟩
  · exact writeVariable_create hvalid haccess hr.ne_nil
  · exact writeVariable_rewrite hvalid haccess hr.ne_nil rfl

/-- SetPassword stores an accepted record, whatever reads are to fail. -/
theorem setPassword_stored {v : Option Variable} (hv : v = none ∨ ∃ old, v = stored old)
    {r : Bytes} (hr : Accepted r) (fs : List (Option EfiStatus)) (null : Option Bytes) :
    passwordStoreSetPassword ⟨⟨v, fs, []⟩, null⟩ (some r) =
      (efiSuccess, ⟨⟨stored r, fs, []⟩, null⟩) := by
  have hok := (validatePasswordHash_iff r).mpr hr
  simp only [passwordStoreSetPassword, hok, efiError_success, Bool.false_eq_true, if_false,
    VarService.setVariable, List.head?_nil, Option.join_none, List.tail_nil,
    writeVariable_stored hv hr]

/-- **SetPassword stores what the validator accepts.** -/
theorem setPassword_accepts {st : PasswordStore} {last : Option Bytes} (h : Tracks st last)
    {r : Bytes} (hr : Accepted r) :
    passwordStoreSetPassword st (some r) = (efiSuccess, holding (stored r)) := by
  cases h with
  | missing => exact setPassword_stored (Or.inl rfl) hr [] _
  | null => exact setPassword_stored (Or.inr ⟨_, rfl⟩) hr [] _
  | record _ => exact setPassword_stored (Or.inr ⟨_, rfl⟩) hr [] _

/-- **SetPassword refuses everything else**, and changes nothing. -/
theorem setPassword_refuses (st : PasswordStore) {r : Bytes} (hr : ¬ Accepted r) :
    passwordStoreSetPassword st (some r) = (efiInvalidParameter, st) := by
  have hbad : passwordPolicyValidatePasswordHash (some r) = efiInvalidParameter := by
    rcases validatePasswordHash_cases r with h | h
    · exact absurd ((validatePasswordHash_iff r).mp h) hr
    · exact h
  simp only [passwordStoreSetPassword, hbad, efiError_invalidParameter, if_true]

/-- **A reset forgets.** -/
theorem resetPasswordLib_tracks {st : PasswordStore} {last : Option Bytes} (h : Tracks st last) :
    passwordStoreResetPasswordLib st = (efiSuccess, holding none) := by
  cases h <;> rfl

/-- What GetVariable3 fetches of a stored record. -/
theorem getVariable3_stored {r : Bytes} (hr : r ≠ []) :
    (VarService.reliable (stored r)).getVariable3 =
      (⟨efiSuccess, some r, r.length, passwordStoreAdminVariableAttrs⟩, .reliable (stored r)) :=
  VarService.getVariable3_fetches (v := ⟨passwordStoreAdminVariableAttrs, r⟩) hr
    (fun _ h => nomatch h) rfl

/-- The same with GetVariable2. -/
theorem getVariable2_stored {r : Bytes} (hr : r ≠ []) :
    (VarService.reliable (stored r)).getVariable2 =
      (⟨efiSuccess, some r, r.length, 0#32⟩, .reliable (stored r)) := by
  rw [VarService.getVariable2, getVariable3_stored hr]

/-- Initialization leaves a stored record alone. -/
theorem initializeLib_stored {r : Bytes} (hr : Accepted r) :
    passwordStoreInitializeLib (holding (stored r)) = (efiSuccess, holding (stored r)) := by
  simp only [passwordStoreInitializeLib, holding, getVariable3_stored hr.ne_nil,
    success_ne_notFound, ne_eq, not_true_eq_false, or_self, if_false]

/-- Initialization of a missing variable writes the no-password record. -/
theorem initializeLib_missing :
    passwordStoreInitializeLib (holding none) = (efiSuccess, holding (stored deleteRecord)) := by
  simp only [passwordStoreInitializeLib, holding, VarService.getVariable3_reliable_none, true_or,
    if_true]
  exact setPassword_accepts .missing accepted_deleteRecord

theorem initializeLib_tracks {st : PasswordStore} {last : Option Bytes} (h : Tracks st last) :
    (passwordStoreInitializeLib st).1 = efiSuccess ∧
      Tracks (passwordStoreInitializeLib st).2 last := by
  cases h with
  | missing =>
      rw [initializeLib_missing]
      exact ⟨rfl, .null⟩
  | null =>
      rw [initializeLib_stored accepted_deleteRecord]
      exact ⟨rfl, .null⟩
  | record hr =>
      rw [initializeLib_stored hr]
      exact ⟨rfl, .record hr⟩

/-- The comparison in IsPasswordSet recognises the version-1 records among the accepted ones. -/
theorem classify_iff {r : Bytes} (hr : Accepted r) (beyond : Nat → UInt8) :
    (r.length != deleteRecord.length &&
      readPast beyond r 0 deleteRecord.length != deleteRecord) = true ↔ IsV1Record r := by
  have hlen : deleteRecord.length = 4 := length_deleteRecord
  have hroom : 0 + 4 ≤ r.length := by
    rcases hr with h | h
    · have := h.size
      simp only [passwordHashVerDeleteSize] at this
      omega
    · have := h.size
      simp only [privateHashVer1Size, passwordHashHeaderSize, saltSizeV1, keySizeV1] at this
      omega
  rw [hlen, readPast_eq_slice hroom, Bool.and_eq_true, bne_iff_ne, bne_iff_ne]
  rcases hr with hd | hv
  · -- a delete record of any length begins with the mark
    have hmark : slice 0 4 r = deleteRecord := by
      have h := leBytes_leNat (slice 0 4 r)
      rw [hd.mark, length_slice hroom] at h
      exact h.symm
    exact ⟨fun h => absurd hmark h.2, fun h => absurd hd (not_delete_of_v1 h)⟩
  · constructor
    · intro _
      exact hv
    · intro _
      constructor
      · rw [hv.size]
        decide
      · intro h
        apply not_delete_of_v1 hv
        refine ⟨by rw [passwordHashVerDeleteSize]; omega, ?_⟩
        rw [h]
        decide

/-- IsPasswordSet on a stored record: is it a version-1 record? -/
theorem isPasswordSet_stored (env : PolicyEnv) {r : Bytes} (hr : Accepted r) :
    ((passwordStoreIsPasswordSet env (holding (stored r))).1 = true ↔ IsV1Record r) ∧
      (passwordStoreIsPasswordSet env (holding (stored r))).2 = holding (stored r) := by
  have hsize : r.length ≠ 0 := fun h => hr.ne_nil (List.length_eq_zero_iff.mp h)
  simp only [passwordStoreIsPasswordSet, holding, getVariable2_stored hr.ne_nil,
    success_ne_notFound, hsize, or_self, if_false, efiError_success, Nat.pos_of_ne_zero hsize,
    and_self, if_true, Option.getD_some, and_true]
  exact classify_iff hr env.beyond

/-- IsPasswordSet on a missing variable writes the no-password record. -/
theorem isPasswordSet_missing (env : PolicyEnv) :
    passwordStoreIsPasswordSet env (holding none) = (false, holding (stored deleteRecord)) := by
  have hset := setPassword_accepts .missing accepted_deleteRecord
  simp only [passwordStoreIsPasswordSet, holding, VarService.getVariable2,
    VarService.getVariable3_reliable_none, true_or, if_true]
  exact congrArg (Prod.mk false) (congrArg Prod.snd hset)

/-- **IsPasswordSet answers whether the last accepted record is a version-1 record.** -/
theorem isPasswordSet_tracks (env : PolicyEnv) {st : PasswordStore} {last : Option Bytes}
    (h : Tracks st last) :
    ((passwordStoreIsPasswordSet env st).1 = true ↔ ∃ r, last = some r ∧ IsV1Record r) ∧
      Tracks (passwordStoreIsPasswordSet env st).2 last := by
  cases h with
  | missing =>
      rw [isPasswordSet_missing]
      exact ⟨by simp, .null⟩
  | null =>
      obtain ⟨hans, hst⟩ := isPasswordSet_stored env accepted_deleteRecord
      rw [hst, hans]
      refine ⟨?_, .null⟩
      constructor
      · intro h
        exact absurd isDeleteRecord_deleteRecord (not_delete_of_v1 h)
      · rintro ⟨_, h, _⟩
        cases h
  | record hr =>
      obtain ⟨hans, hst⟩ := isPasswordSet_stored env hr
      rw [hst, hans]
      exact ⟨by simp, .record hr⟩

/-- A record with salt `salt` is the record of `p` exactly when its key is the key of `p`. -/
theorem isRecordOf_v1Record {env : PolicyEnv} {p : Char16String} {salt : Block saltSizeV1}
    {key : Block keySizeV1} :
    IsRecordOf env p (v1Record salt key) ↔ ValidPassword p ∧ key = (env.deriveKey p salt).2 := by
  refine ⟨fun h => ⟨h.valid, ?_⟩, fun ⟨hp, hkey⟩ => ⟨hp, salt, by rw [hkey]⟩⟩
  rcases h.record with ⟨salt', heq⟩
  have hsalt : salt = salt' := by
    have hslice := congrArg (slice 2 saltSizeV1) heq
    rw [slice_salt, slice_salt] at hslice
    exact Subtype.ext hslice
  subst hsalt
  exact v1Record_inj.mp heq

/-- **AuthenticatePassword compares the truncated candidate with the stored record.** -/
theorem authenticatePassword_stored {env : PolicyEnv} (henv : env.Hashes) {r : Bytes}
    (hr : IsV1Record r) (password : Option Char16String) :
    ((passwordStoreAuthenticatePassword env (holding (stored r)) password).1 = true ↔
        ∃ p, password = some p ∧ IsRecordOf env (tempPassword p) r) ∧
      (passwordStoreAuthenticatePassword env (holding (stored r)) password).2 =
        holding (stored r) := by
  have hacc : Accepted r := Or.inr hr
  have hset : passwordStoreIsPasswordSet env (holding (stored r)) = (true, holding (stored r)) := by
    obtain ⟨hans, hst⟩ := isPasswordSet_stored env hacc
    exact Prod.ext (hans.mpr hr) hst
  unfold passwordStoreAuthenticatePassword
  simp only [hset, Bool.not_true, Bool.false_eq_true, if_false]
  cases password with
  | none => simp
  | some p =>
      simp only [Option.some.injEq, exists_eq_left']
      by_cases hempty : p.chars = []
      · -- the empty string is no password
        have hno : ¬ IsRecordOf env (tempPassword p) r := fun h => by
          have hmin := h.valid.min
          rw [tempPassword_eq, Char16String.length_strnCpyS, Char16String.length, hempty] at hmin
          simp [pwMinLength] at hmin
        simp only [hempty, if_true, Bool.false_eq_true, false_iff]
        exact ⟨hno, trivial⟩
      · have hread := getVariable2_stored hacc.ne_nil
        simp only [hempty, if_false, holding, hread, efiError_success, Bool.false_eq_true]
        by_cases hvalid : ValidPassword (tempPassword p)
        · obtain ⟨salt, key, rfl⟩ := hr.eq_v1Record
          have hlen : ∀ k, (v1Record salt k).length = privateHashVer1Size := fun k =>
            (isV1Record_v1Record salt k).size
          have hwhole : slice 0 privateHashVer1Size (v1Record salt key) = v1Record salt key := by
            rw [slice, List.drop_zero, List.take_of_length_le (hlen key).le]
          rw [generatePasswordHash_again henv hvalid]
          simp only [efiError_success, Bool.false_eq_true, if_false, Option.getD_some, hlen]
          rw [readPast_eq_slice (by rw [hlen, Nat.zero_add]), hwhole, beq_iff_eq, v1Record_inj,
            isRecordOf_v1Record]
          exact ⟨⟨fun h => ⟨hvalid, h⟩, fun h => h.2⟩, trivial⟩
        · rw [generatePasswordHash_invalid env _ hvalid]
          simp only [efiError_invalidParameter, if_true, Bool.false_eq_true, false_iff]
          exact ⟨fun h => hvalid h.valid, trivial⟩

/-- While no password is set, everything authenticates. -/
theorem authenticatePassword_of_not_set {env : PolicyEnv} {st : PasswordStore}
    (h : (passwordStoreIsPasswordSet env st).1 = false) (password : Option Char16String) :
    passwordStoreAuthenticatePassword env st password =
      (true, (passwordStoreIsPasswordSet env st).2) := by
  unfold passwordStoreAuthenticatePassword
  simp only [h, Bool.not_false, if_true]

end OemPkg.Password
