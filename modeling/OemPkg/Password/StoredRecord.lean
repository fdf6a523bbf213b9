/-
# OemPkg.Password.StoredRecord — a password variable that the library did not write

PasswordStoreSetPassword checks what it writes. This module is about a variable that something else
has written:

* with other attributes, PasswordStoreInitializeLib tries to initialize it again by writing over it.
  A variable cannot be written with attributes it does not have, so that the repair never takes
  (`initializeLib_attributes_iff`);
* with the right attributes and any bytes, the record is fetched and looked at. The functions that
  do so are written here once more with every look recorded, and `stored_record_within_bounds_iff`
  says for which records all of them stay inside the record.
-/
import OemPkg.Lib.Accesses
import OemPkg.Password.Authentication

namespace OemPkg.Password

open OemPkg.Lib OemPkg.Uefi

/-! ## Other attributes -/

/-- GetVariable3 reports the attributes of a variable that exists, also of an empty one. -/
theorem getVariable3_attributes (w : Variable) :
    ∃ value, (VarService.reliable (some w)).getVariable3 =
      (⟨efiSuccess, value, w.data.length, w.attributes⟩, .reliable (some w)) := by
  rcases w with ⟨a, data⟩
  cases data with
  | nil => exact ⟨none, rfl⟩
  | cons x xs =>
      exact ⟨some (x :: xs),
        VarService.getVariable3_fetches (List.cons_ne_nil x xs) (fun _ h => nomatch h) rfl⟩

/-- **The repair of a variable with other attributes fails**, and leaves it as it is. -/
theorem initializeLib_other {w : Variable} (h : w.attributes ≠ passwordStoreAdminVariableAttrs) :
    passwordStoreInitializeLib (holding (some w)) = (efiAborted, holding (some w)) := by
  obtain ⟨value, hread⟩ := getVariable3_attributes w
  have hok := (validatePasswordHash_iff deleteRecord).mpr accepted_deleteRecord
  have hrefused := writeVariable_refused (a := passwordStoreAdminVariableAttrs) (by decide)
    (by decide) accepted_deleteRecord.ne_nil h
  simp only [passwordStoreInitializeLib, holding, hread, ne_eq, h, not_false_eq_true, or_true,
    if_true, passwordStoreSetPassword, hok, efiError_success, Bool.false_eq_true, if_false,
    VarService.setVariable_reliable, hrefused, efiError_invalidParameter]

/-- A variable with the right attributes is left alone. -/
theorem initializeLib_protected {w : Variable}
    (h : w.attributes = passwordStoreAdminVariableAttrs) :
    passwordStoreInitializeLib (holding (some w)) = (efiSuccess, holding (some w)) := by
  obtain ⟨value, hread⟩ := getVariable3_attributes w
  simp only [passwordStoreInitializeLib, holding, hread, h, success_ne_notFound, ne_eq,
    not_true_eq_false, or_self, if_false]

/-- **Initialization leaves the variable with the protected attributes** exactly when it is missing
or has them already. -/
theorem initializeLib_attributes_iff (v : Option Variable) :
    (∃ w, (passwordStoreInitializeLib (holding v)).2.vars.var = some w ∧
        w.attributes = passwordStoreAdminVariableAttrs) ↔
      ∀ old, v = some old → old.attributes = passwordStoreAdminVariableAttrs := by
  cases v with
  | none =>
      rw [initializeLib_missing]
      constructor
      · intro _ old hold
        cases hold
      · intro _
        exact ⟨_, rfl, rfl⟩
  | some w =>
      by_cases h : w.attributes = passwordStoreAdminVariableAttrs
      · rw [initializeLib_protected h]
        exact ⟨fun _ old hold => Option.some.inj hold ▸ h, fun _ => ⟨w, rfl, h⟩⟩
      · rw [initializeLib_other h]
        constructor
        · rintro ⟨w', hw', hattrs⟩
          exact absurd (Option.some.inj hw' ▸ hattrs) h
        · exact fun hall => absurd (hall w rfl) h

/-- A password variable that an operating system could write as well. -/
def runtimeVariable : Variable :=
  ⟨efiVariableNonVolatile ||| efiVariableBootserviceAccess ||| efiVariableRuntimeAccess,
    deleteRecord⟩

/-- Initialization leaves it so. -/
theorem initializeLib_leaves_runtime :
    ¬ ∀ v, ∃ w, (passwordStoreInitializeLib (holding v)).2.vars.var = some w ∧
      w.attributes = passwordStoreAdminVariableAttrs := by
  intro h
  obtain ⟨w, hw, hattrs⟩ := h (some runtimeVariable)
  have hleft : (passwordStoreInitializeLib (holding (some runtimeVariable))).2.vars.var =
      some runtimeVariable := by decide
  rw [hleft] at hw
  exact absurd (Option.some.inj hw ▸ hattrs) (by decide)

/-! ## Other contents -/

/-- The salt of BuildV1PasswordStore: a new one, or the copy of the old store's. -/
def saltRecorded (env : PolicyEnv) (oldStore : Option Bytes) (saltSize : Nat) :
    Recorded (Option Bytes) :=
  match oldStore with
  | none => pure ((generateSalt env).map (·.1))
  | some old => do
      let salt ← Recorded.read env.beyond old 2 saltSize
      pure (some salt)

/-- BuildV1PasswordStore -/
def buildV1PasswordStoreRecorded (env : PolicyEnv) (oldStore : Option Bytes)
    (password : Char16String) : Recorded (EfiStatus × Bytes) :=
  let store := List.replicate privateHashVer1Size 0
  match getPasswordStoreParameters privateHashVer1Version with
  | none => pure (efiInvalidParameter, store)
  | some par => do
      let store := splice 0 (leBytes 2 privateHashVer1Version) store
      let salt ← saltRecorded env oldStore par.saltSize
      match salt with
      | none => pure (efiOutOfResources, store)
      | some salt =>
          let store := splice 2 salt store
          if efiError env.locatePkcs5 then pure (env.locatePkcs5, store)
          else if (password.length * 2) % 2 ^ 64 < password.length then pure (efiAborted, store)
          else
            let (status, key) :=
              env.hashPassword password.bytes salt par.iterationCount par.digestSize par.keySize
            pure (status, splice (2 + saltSizeV1) key.1 store)

/-- Does the old store of GeneratePasswordHash have another version? -/
def otherVersionRecorded (env : PolicyEnv) (oldSalt : Option Bytes) : Recorded Bool :=
  match oldSalt with
  | none => pure false
  | some old => do
      let version ← Recorded.read env.beyond old 0 2
      pure (leNat version != privateHashVer1Version)

/-- PasswordPolicyGeneratePasswordHash -/
def passwordPolicyGeneratePasswordHashRecorded (env : PolicyEnv) (oldSalt : Option Bytes)
    (password : Option Char16String) : Recorded (EfiStatus × Option Bytes) :=
  if (password.isNone && oldSalt.isSome) ||
      (password.isSome && !(passwordPolicyIsPwStringValid password false).1) then
    pure (efiInvalidParameter, none)
  else
    match password with
    | none => pure (efiSuccess, some (leBytes 4 passwordHashVerDelete))
    | some password => do
        let otherVersion ← otherVersionRecorded env oldSalt
        if otherVersion then pure (efiInvalidParameter, none)
        else if !env.allocated then pure (efiOutOfResources, none)
        else
          let built ← buildV1PasswordStoreRecorded env oldSalt password
          pure (if efiError built.1 then (efiAborted, none) else (efiSuccess, some built.2))

/-- PasswordStoreIsPasswordSet: the record is compared with the no-password record. -/
def passwordStoreIsPasswordSetRecorded (env : PolicyEnv) (st : PasswordStore) :
    Recorded (Bool × PasswordStore) :=
  let (read, vars) := st.vars.getVariable2
  let st := { st with vars }
  if read.status = efiNotFound ∨ read.size = 0 then
    pure (false, (passwordStoreSetPassword st st.nullPasswordHash).2)
  else if efiError read.status = false ∧ 0 < read.size then
    let null := st.nullPasswordHash.getD []
    -- the comparison is made only when the sizes differ
    if read.size ≠ null.length then do
      let found ← Recorded.read env.beyond (read.value.getD []) 0 null.length
      pure (found != null, st)
    else pure (false, st)
  else pure (false, st)

/-- PasswordStoreAuthenticatePassword: the record is looked at by IsPasswordSet, by
GeneratePasswordHash, and when it is compared with the new store. -/
def passwordStoreAuthenticatePasswordRecorded (env : PolicyEnv) (st : PasswordStore)
    (password : Option Char16String) : Recorded (Bool × PasswordStore) := do
  let (isSet, st) ← passwordStoreIsPasswordSetRecorded env st
  if !isSet then pure (true, st)
  else
    match password with
    | none => pure (false, st)
    | some password =>
        if password.chars = [] then pure (false, st)
        else
          let (cur, vars) := st.vars.getVariable2
          let st := { st with vars }
          if efiError cur.status then pure (false, st)
          else do
            let temp := tempPassword password
            let (status, newStore) ←
              passwordPolicyGeneratePasswordHashRecorded env cur.value (some temp)
            if efiError status then pure (false, st)
            else
              let newStore := newStore.getD []
              let found ← Recorded.read env.beyond (cur.value.getD []) 0 newStore.length
              pure (found == newStore, st)

/-! ### Recording changes nothing -/

theorem buildV1PasswordStoreRecorded_value (env : PolicyEnv) (oldStore : Option Bytes)
    (password : Char16String) :
    (buildV1PasswordStoreRecorded env oldStore password).value =
      buildV1PasswordStore env oldStore password := by
  simp only [buildV1PasswordStoreRecorded, buildV1PasswordStore, getPasswordStoreParameters,
    ne_eq, not_true_eq_false, if_false, Recorded.value_bind]
  cases oldStore with
  | none =>
      simp only [saltRecorded, Recorded.value_pure]
      cases generateSalt env with
      | none => rfl
      | some salt => simp only [Option.map_some, Recorded.value_ite, Recorded.value_pure]
  | some old =>
      simp only [saltRecorded, Recorded.value_bind, Recorded.value_read, Recorded.value_pure,
        Recorded.value_ite]

theorem passwordPolicyGeneratePasswordHashRecorded_value (env : PolicyEnv)
    (oldSalt : Option Bytes) (password : Option Char16String) :
    (passwordPolicyGeneratePasswordHashRecorded env oldSalt password).value =
      passwordPolicyGeneratePasswordHash env oldSalt password := by
  have hother : (otherVersionRecorded env oldSalt).value = oldSalt.any fun old =>
      leNat (readPast env.beyond old 0 2) != privateHashVer1Version := by
    cases oldSalt <;> rfl
  unfold passwordPolicyGeneratePasswordHashRecorded passwordPolicyGeneratePasswordHash
  cases password with
  | none => cases oldSalt <;> rfl
  | some p =>
      simp only [Option.isNone_some, Bool.false_and, Bool.false_or, Option.isSome_some,
        Bool.true_and]
      simp only [Recorded.value_ite, Recorded.value_bind, Recorded.value_pure, hother,
        buildV1PasswordStoreRecorded_value]

theorem passwordStoreIsPasswordSetRecorded_value (env : PolicyEnv) (st : PasswordStore) :
    (passwordStoreIsPasswordSetRecorded env st).value = passwordStoreIsPasswordSet env st := by
  unfold passwordStoreIsPasswordSetRecorded passwordStoreIsPasswordSet
  simp only
  split_ifs with hmissing hread hsize
  · rfl
  · simp [bne_iff_ne.mpr hsize]
  · simp [not_not.mp hsize]
  · rfl

/-- **Recording changes nothing**: the functions below are the library's. -/
theorem passwordStoreAuthenticatePasswordRecorded_value (env : PolicyEnv) (st : PasswordStore)
    (password : Option Char16String) :
    (passwordStoreAuthenticatePasswordRecorded env st password).value =
      passwordStoreAuthenticatePassword env st password := by
  unfold passwordStoreAuthenticatePasswordRecorded passwordStoreAuthenticatePassword
  rw [Recorded.value_bind, passwordStoreIsPasswordSetRecorded_value]
  rcases passwordStoreIsPasswordSet env st with ⟨isSet, st⟩
  cases isSet with
  | false => rfl
  | true =>
      cases password with
      | none => rfl
      | some p =>
          simp only [Bool.not_true, Bool.false_eq_true, if_false, Recorded.value_ite,
            Recorded.value_bind, Recorded.value_pure, Recorded.value_read,
            passwordPolicyGeneratePasswordHashRecorded_value]

/-! ### What is looked at -/

/-- BuildV1PasswordStore looks at the salt of the old store. -/
theorem buildV1PasswordStoreRecorded_inBounds (env : PolicyEnv) (r : Bytes) (p : Char16String) :
    (buildV1PasswordStoreRecorded env (some r) p).InBounds ↔ 2 + saltSizeV1 ≤ r.length := by
  have hsalt : (Recorded.read env.beyond r 2 saltSizeV1).InBounds ↔ 2 + saltSizeV1 ≤ r.length :=
    Recorded.inBounds_read (by decide)
  simp only [buildV1PasswordStoreRecorded, getPasswordStoreParameters, ne_eq, not_true_eq_false,
    if_false, saltRecorded, Recorded.inBounds_bind, Recorded.value_bind, Recorded.value_pure,
    Recorded.inBounds_pure, and_true, Recorded.inBounds_ite, implies_true, hsalt]

/-- **GeneratePasswordHash** looks at the version, and at the salt when it is the right one. -/
theorem passwordPolicyGeneratePasswordHashRecorded_inBounds (env : PolicyEnv) {r : Bytes}
    (hversion : passwordHashHeaderSize ≤ r.length) (p : Char16String) :
    (passwordPolicyGeneratePasswordHashRecorded env (some r) (some p)).InBounds ↔
      (ValidPassword p → leNat (slice 0 2 r) = privateHashVer1Version → env.allocated = true →
        2 + saltSizeV1 ≤ r.length) := by
  have hhead : (Recorded.read env.beyond r 0 2).InBounds :=
    (Recorded.inBounds_read_start (by decide)).mpr hversion
  have hread : readPast env.beyond r 0 2 = slice 0 2 r := readPast_eq_slice hversion
  simp only [passwordPolicyGeneratePasswordHashRecorded, otherVersionRecorded,
    Recorded.inBounds_ite, Recorded.inBounds_bind, Recorded.inBounds_pure, Recorded.value_bind,
    Recorded.value_pure, Recorded.value_read, hread, hhead, implies_true, true_and, and_true,
    buildV1PasswordStoreRecorded_inBounds, Option.isNone_some, Option.isSome_some, Bool.false_and,
    Bool.false_or, Bool.true_and, Bool.not_eq_true', Bool.not_eq_false, isPwStringValid_iff,
    bne_iff_ne, ne_eq, not_not]

/-- **IsPasswordSet** compares a record with the no-password record, whose size it must have. -/
theorem passwordStoreIsPasswordSetRecorded_inBounds (env : PolicyEnv) {r : Bytes} (hr : r ≠ []) :
    (passwordStoreIsPasswordSetRecorded env (holding (stored r))).InBounds ↔
      passwordHashVerDeleteSize ≤ r.length := by
  have hsize : r.length ≠ 0 := fun h => hr (List.length_eq_zero_iff.mp h)
  have hread : (Recorded.read env.beyond r 0 passwordHashVerDeleteSize).InBounds ↔
      passwordHashVerDeleteSize ≤ r.length := Recorded.inBounds_read_start (by decide)
  simp only [passwordStoreIsPasswordSetRecorded, holding, getVariable2_stored hr,
    success_ne_notFound, hsize, or_self, if_false, efiError_success, Nat.pos_of_ne_zero hsize,
    and_self, if_true, Option.getD_some, length_deleteRecord, Recorded.inBounds_ite,
    Recorded.inBounds_bind, Recorded.inBounds_pure, and_true, implies_true, hread]
  constructor
  · intro h
    by_cases heq : r.length = passwordHashVerDeleteSize
    · exact heq.ge
    · exact h heq
  · exact fun h _ => h

/-! ### Records that are long enough -/

/-- The salt of the record is copied for the password: a password seems to be set, the policy
accepts this one, the version is right, and there is room for a new record. -/
structure SaltCopied (env : PolicyEnv) (r : Bytes) (p : Char16String) : Prop where
  set : r.length ≠ passwordHashVerDeleteSize
  valid : ValidPassword p
  version : leNat (slice 0 2 r) = privateHashVer1Version
  allocated : env.allocated = true

/-- A key is derived for the password with the salt of the record. -/
structure KeyDerived (env : PolicyEnv) (r : Bytes) (p : Char16String) : Prop where
  located : efiError env.locatePkcs5 = false
  hashed : efiError
    (env.hashPassword p.bytes (slice 2 saltSizeV1 r) 60000 32 keySizeV1).1 = false

/-- **The record is long enough** for what is done with it: for the comparison with the no-password
record, for the copy of its salt if that is made, and for the comparison with the new record if that
is built. -/
structure LongEnough (env : PolicyEnv) (r : Bytes) (password : Option Char16String) : Prop where
  mark : passwordHashVerDeleteSize ≤ r.length
  salt : ∀ p, password = some p → SaltCopied env r (tempPassword p) → 2 + saltSizeV1 ≤ r.length
  key : ∀ p, password = some p → SaltCopied env r (tempPassword p) →
    KeyDerived env r (tempPassword p) → privateHashVer1Size ≤ r.length

/-- A record that begins with the mark of a delete record has another version. -/
theorem version_ne_of_mark {r : Bytes} (h : slice 0 4 r = deleteRecord) :
    leNat (slice 0 2 r) ≠ privateHashVer1Version := by
  have hhead : slice 0 2 r = slice 0 2 deleteRecord := by
    rw [← h, slice_slice (by decide)]
  rw [hhead]
  decide

/-- IsPasswordSet on a record it can be compared with. -/
theorem isPasswordSet_comparable (env : PolicyEnv) {r : Bytes}
    (hmark : passwordHashVerDeleteSize ≤ r.length) :
    passwordStoreIsPasswordSet env (holding (stored r)) =
      (r.length != passwordHashVerDeleteSize && slice 0 4 r != deleteRecord,
        holding (stored r)) := by
  have hsize : r.length ≠ 0 := by
    simp only [passwordHashVerDeleteSize] at hmark
    omega
  have hr : r ≠ [] := fun h => hsize (List.length_eq_zero_iff.mpr h)
  have hread : readPast env.beyond r 0 passwordHashVerDeleteSize = slice 0 4 r :=
    readPast_eq_slice (by rw [Nat.zero_add]; exact hmark)
  simp only [passwordStoreIsPasswordSet, holding, getVariable2_stored hr, success_ne_notFound,
    hsize, or_self, if_false, efiError_success, Nat.pos_of_ne_zero hsize, and_self, if_true,
    Option.getD_some, length_deleteRecord, hread]

/-- BuildV1PasswordStore with an old store: when a key is derived, a whole record is built. -/
theorem buildV1PasswordStore_old {env : PolicyEnv} {r : Bytes} {p : Char16String}
    (hsalt : 2 + saltSizeV1 ≤ r.length) (hmax : p.length ≤ pwMaxLength) :
    (efiError (buildV1PasswordStore env (some r) p).1 = false ↔ KeyDerived env r p) ∧
      (KeyDerived env r p →
        (buildV1PasswordStore env (some r) p).2.length = privateHashVer1Size) := by
  have hold : saltFor env (some r) = some ⟨slice 2 saltSizeV1 r, length_slice hsalt⟩ :=
    congrArg some (Subtype.ext (readPast_eq_slice hsalt))
  by_cases hlocated : efiError env.locatePkcs5 = false
  · rw [buildV1PasswordStore_eq hlocated hold hmax]
    exact ⟨⟨fun h => ⟨hlocated, h⟩, fun h => h.hashed⟩, fun _ => (isV1Record_v1Record _ _).size⟩
  · have hlost : ¬ KeyDerived env r p := fun h => hlocated h.located
    have hstatus : (buildV1PasswordStore env (some r) p).1 = env.locatePkcs5 := by
      simp only [buildV1PasswordStore, getPasswordStoreParameters, ne_eq, not_true_eq_false,
        if_false, Bool.eq_true_of_not_eq_false hlocated, if_true]
    rw [hstatus]
    exact ⟨⟨fun h => absurd h hlocated, fun h => absurd h hlost⟩, fun h => absurd h hlost⟩

/-- GeneratePasswordHash with an old record whose salt is not copied: one of the tests in front of
the copy turns the request away. -/
theorem generatePasswordHash_refused {env : PolicyEnv} {r : Bytes} {p : Char16String}
    (hset : r.length ≠ passwordHashVerDeleteSize) (hhead : passwordHashHeaderSize ≤ r.length)
    (hno : ¬ SaltCopied env r p) :
    efiError (passwordPolicyGeneratePasswordHash env (some r) (some p)).1 = true := by
  have hread : readPast env.beyond r 0 2 = slice 0 2 r := readPast_eq_slice hhead
  by_cases hvalid : ValidPassword p
  · have hstring := (isPwStringValid_iff p).mpr hvalid
    simp only [passwordPolicyGeneratePasswordHash, hstring, Option.isNone_some, Bool.false_and,
      Bool.not_true, Bool.and_false, Bool.or_self, Bool.false_eq_true, if_false, Option.any_some,
      hread]
    by_cases hversion : leNat (slice 0 2 r) = privateHashVer1Version
    · have hroom : env.allocated ≠ true := fun h => hno ⟨hset, hvalid, hversion, h⟩
      simp only [hversion, bne_self_eq_false, Bool.false_eq_true, if_false,
        Bool.eq_false_of_not_eq_true hroom, Bool.not_false, if_true]
      decide
    · simp only [bne_iff_ne.mpr hversion, if_true, efiError_invalidParameter]
  · rw [generatePasswordHash_invalid env _ hvalid]
    exact efiError_invalidParameter

/-- GeneratePasswordHash with an old record: when there is a new record, it is a whole one. -/
theorem generatePasswordHash_old {env : PolicyEnv} {r : Bytes} {p : Char16String}
    (hset : r.length ≠ passwordHashVerDeleteSize) (hhead : passwordHashHeaderSize ≤ r.length)
    (hsalt : SaltCopied env r p → 2 + saltSizeV1 ≤ r.length) :
    (efiError (passwordPolicyGeneratePasswordHash env (some r) (some p)).1 = false ↔
        SaltCopied env r p ∧ KeyDerived env r p) ∧
      (SaltCopied env r p ∧ KeyDerived env r p →
        ((passwordPolicyGeneratePasswordHash env (some r) (some p)).2.getD []).length =
          privateHashVer1Size) := by
  have hread : readPast env.beyond r 0 2 = slice 0 2 r := readPast_eq_slice hhead
  by_cases hcopied : SaltCopied env r p
  · obtain ⟨hkey, hlength⟩ :=
      buildV1PasswordStore_old (hsalt hcopied) hcopied.valid.max
    have hvalid := (isPwStringValid_iff p).mpr hcopied.valid
    have hgen : passwordPolicyGeneratePasswordHash env (some r) (some p) =
        if efiError (buildV1PasswordStore env (some r) p).1 then (efiAborted, none)
        else (efiSuccess, some (buildV1PasswordStore env (some r) p).2) := by
      simp only [passwordPolicyGeneratePasswordHash, hvalid, Option.isNone_some, Bool.false_and,
        Bool.not_true, Bool.and_false, Bool.or_self, Bool.false_eq_true, if_false, Option.any_some,
        hread, hcopied.version, bne_self_eq_false, hcopied.allocated]
    rw [hgen]
    by_cases hderived : KeyDerived env r p
    · simp only [hkey.mpr hderived, Bool.false_eq_true, if_false, efiError_success, true_iff,
        Option.getD_some]
      exact ⟨⟨hcopied, hderived⟩, fun _ => hlength hderived⟩
    · have herror : efiError (buildV1PasswordStore env (some r) p).1 = true :=
        Bool.eq_true_of_not_eq_false fun h => hderived (hkey.mp h)
      simp only [herror, if_true, efiError_aborted, Bool.true_eq_false, false_iff]
      exact ⟨fun h => hderived h.2, fun h => absurd h.2 hderived⟩
  · rw [generatePasswordHash_refused hset hhead hcopied]
    exact ⟨⟨fun h => absurd h.symm Bool.false_ne_true, fun h => absurd h.1 hcopied⟩,
      fun h => absurd h.1 hcopied⟩

/-- An empty candidate is too short. -/
theorem not_saltCopied_of_empty {env : PolicyEnv} {r : Bytes} {p : Char16String}
    (hempty : p.chars = []) : ¬ SaltCopied env r (tempPassword p) := by
  intro h
  have hmin := h.valid.min
  rw [tempPassword_eq, Char16String.length_strnCpyS, Char16String.length, hempty] at hmin
  exact absurd hmin (by decide)

/-- A record that IsPasswordSet takes for the no-password record is no record to copy from. -/
theorem not_saltCopied_of_unset {env : PolicyEnv} {r : Bytes} {p : Char16String}
    (hunset : (r.length != passwordHashVerDeleteSize && slice 0 4 r != deleteRecord) = false) :
    ¬ SaltCopied env r p := by
  intro h
  have hother : slice 0 4 r ≠ deleteRecord := fun hmark => version_ne_of_mark hmark h.version
  rw [bne_iff_ne.mpr h.set, bne_iff_ne.mpr hother] at hunset
  exact Bool.false_ne_true hunset.symm

/-- Nothing but the mark is looked at unless a salt is copied for the password. -/
theorem longEnough_of_not_saltCopied {env : PolicyEnv} {r : Bytes} {password : Option Char16String}
    (hmark : passwordHashVerDeleteSize ≤ r.length)
    (hno : ∀ p, password = some p → ¬ SaltCopied env r (tempPassword p)) :
    LongEnough env r password where
  mark := hmark
  salt p hp h := absurd h (hno p hp)
  key p hp h := absurd h (hno p hp)

/-- What is looked at for a candidate: GeneratePasswordHash copies the salt, and the new record is
compared with the old one when it is built. -/
theorem candidate_inBounds_iff (env : PolicyEnv) {r : Bytes}
    (hmark : passwordHashVerDeleteSize ≤ r.length) (hset : r.length ≠ passwordHashVerDeleteSize)
    (p : Char16String) :
    ((passwordPolicyGeneratePasswordHashRecorded env (some r) (some (tempPassword p))).InBounds ∧
        (efiError (passwordPolicyGeneratePasswordHash env (some r)
            (some (tempPassword p))).1 = false →
          (Recorded.read env.beyond r 0 ((passwordPolicyGeneratePasswordHash env (some r)
            (some (tempPassword p))).2.getD []).length).InBounds)) ↔
      LongEnough env r (some p) := by
  have hhead : passwordHashHeaderSize ≤ r.length := le_trans (by decide) hmark
  have hwholeRead : (Recorded.read env.beyond r 0 privateHashVer1Size).InBounds ↔
      privateHashVer1Size ≤ r.length := Recorded.inBounds_read_start (by decide)
  rw [passwordPolicyGeneratePasswordHashRecorded_inBounds env hhead]
  constructor
  · rintro ⟨hcopy, hcompare⟩
    have hsalt : SaltCopied env r (tempPassword p) → 2 + saltSizeV1 ≤ r.length :=
      fun h => hcopy h.valid h.version h.allocated
    obtain ⟨hbuilt, hwhole⟩ := generatePasswordHash_old hset hhead hsalt
    refine ⟨hmark, fun q hq => Option.some.inj hq ▸ hsalt, fun q hq hc hk => ?_⟩
    cases hq
    have hlook := hcompare (hbuilt.mpr ⟨hc, hk⟩)
    rw [hwhole ⟨hc, hk⟩] at hlook
    exact hwholeRead.mp hlook
  · intro h
    obtain ⟨hbuilt, hwhole⟩ := generatePasswordHash_old hset hhead (h.salt p rfl)
    refine ⟨fun hv hver ha => h.salt p rfl ⟨hset, hv, hver, ha⟩, fun hok => ?_⟩
    obtain ⟨hc, hk⟩ := hbuilt.mp hok
    rw [hwhole ⟨hc, hk⟩]
    exact hwholeRead.mpr (h.key p rfl hc hk)

/-- **AuthenticatePassword looks at bytes of the record only**, when the record is long enough. -/
theorem passwordStoreAuthenticatePasswordRecorded_inBounds (env : PolicyEnv) {r : Bytes}
    (hr : r ≠ []) (password : Option Char16String) :
    (passwordStoreAuthenticatePasswordRecorded env (holding (stored r)) password).InBounds ↔
      LongEnough env r password := by
  rw [passwordStoreAuthenticatePasswordRecorded, Recorded.inBounds_bind,
    passwordStoreIsPasswordSetRecorded_inBounds env hr, passwordStoreIsPasswordSetRecorded_value]
  by_cases hmark : passwordHashVerDeleteSize ≤ r.length
  swap
  · exact ⟨fun h => absurd h.1 hmark, fun h => absurd h.mark hmark⟩
  rw [isPasswordSet_comparable env hmark]
  simp only [hmark, true_and]
  cases hset : (r.length != passwordHashVerDeleteSize && slice 0 4 r != deleteRecord) with
  | false =>
      have hlong : LongEnough env r password :=
        longEnough_of_not_saltCopied hmark fun _ _ => not_saltCopied_of_unset hset
      exact ⟨fun _ => hlong, fun _ => Recorded.inBounds_pure _⟩
  | true =>
      have hlength : r.length ≠ passwordHashVerDeleteSize :=
        bne_iff_ne.mp (Bool.and_eq_true_iff.mp hset).1
      cases password with
      | none =>
          have hlong : LongEnough env r none :=
            longEnough_of_not_saltCopied hmark fun p hp => nomatch hp
          exact ⟨fun _ => hlong, fun _ => Recorded.inBounds_pure _⟩
      | some p =>
          by_cases hempty : p.chars = []
          · simp only [Bool.not_true, Bool.false_eq_true, if_false, hempty, if_true,
              Recorded.inBounds_pure, true_iff]
            exact longEnough_of_not_saltCopied hmark fun q hq =>
              Option.some.inj hq ▸ not_saltCopied_of_empty hempty
          · rw [← candidate_inBounds_iff env hmark hlength p]
            simp only [Bool.not_true, Bool.false_eq_true, if_false, hempty, holding,
              getVariable2_stored hr, efiError_success, Recorded.inBounds_bind,
              passwordPolicyGeneratePasswordHashRecorded_value, Recorded.inBounds_ite,
              Recorded.inBounds_pure, implies_true, true_and, and_true, Bool.not_eq_true,
              Option.getD_some]

/-- **A stored record is handled within its bounds** exactly when it is long enough: every byte of
it that IsPasswordSet and AuthenticatePassword look at, or copy, lies below the size that
GetVariable2 returned. -/
theorem stored_record_within_bounds_iff (env : PolicyEnv) {r : Bytes} (hr : r ≠ [])
    (password : Option Char16String) :
    ((passwordStoreIsPasswordSetRecorded env (holding (stored r))).InBounds ∧
        (passwordStoreAuthenticatePasswordRecorded env (holding (stored r)) password).InBounds) ↔
      LongEnough env r password := by
  rw [passwordStoreIsPasswordSetRecorded_inBounds env hr,
    passwordStoreAuthenticatePasswordRecorded_inBounds env hr]
  exact ⟨fun h => h.2, fun h => ⟨h.mark, h⟩⟩

theorem stored_record_within_bounds_whole :
    (passwordStoreAuthenticatePasswordRecorded (singlingOut (lettersA 8))
      (holding (stored singledOutRecord)) (some (lettersA 8))).InBounds := by
  have hsize : singledOutRecord.length = privateHashVer1Size := isV1Record_singledOutRecord.size
  refine ((stored_record_within_bounds_iff (singlingOut (lettersA 8)) (r := singledOutRecord)
    (by decide) (some (lettersA 8))).mpr ⟨?_, ?_, ?_⟩).2
  · rw [hsize]
    decide
  · intro _ _ _
    rw [hsize]
    decide
  · intro _ _ _ _
    exact hsize.ge

/-- Five bytes that begin with version 1: the salt is copied from behind them. -/
theorem stored_record_overrun :
    ¬ ∀ (env : PolicyEnv) (r : Bytes), r ≠ [] → ∀ password : Option Char16String,
      (passwordStoreIsPasswordSetRecorded env (holding (stored r))).InBounds ∧
        (passwordStoreAuthenticatePasswordRecorded env (holding (stored r)) password).InBounds := by
  intro h
  have hnonempty : ([1, 0, 0, 0, 0] : Bytes) ≠ [] := by decide
  have hvalid : ValidPassword (tempPassword (lettersA 8)) := (isPwStringValid_iff _).mp (by decide)
  have hall := (h (singlingOut (lettersA 8)) [1, 0, 0, 0, 0] hnonempty (some (lettersA 8))).2
  rw [passwordStoreAuthenticatePasswordRecorded_inBounds _ hnonempty] at hall
  have hsalt := hall.salt (lettersA 8) rfl ⟨by decide, hvalid, by decide, rfl⟩
  exact absurd hsalt (by decide)

end OemPkg.Password
