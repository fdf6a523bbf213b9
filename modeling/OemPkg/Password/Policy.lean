/-
# OemPkg.Password.Policy — password strings, password records, and their validation

The model of `PasswordPolicyLib.c`. A password is a NUL-terminated CHAR16 string; what is stored for
it is a byte record, in one of two formats that overlay each other in `INTERNAL_PASSWORD_HASH`:

* the delete record, recognised by its first four bytes (`PASSWORD_HASH_VER_DELETE`), of any length;
* the version-1 record: two bytes of version, the salt, the key.

`passwordPolicyValidatePasswordHash` tells them apart for the store, and
`passwordPolicyGeneratePasswordHash` makes them: with a new salt for a new password, or with the
salt of an old record to compare a candidate with it. The random number generator and the PKCS5
hash are services the library locates, and so is the memory behind an allocated block: they are the
fields of `PolicyEnv`. Allocations succeed.
-/
import OemPkg.Lib.Bytes
import OemPkg.Uefi.Status

namespace OemPkg.Password

open OemPkg.Lib OemPkg.Uefi

/-! ## Password strings -/

/-- A NUL-terminated CHAR16 string: the characters before the terminator. -/
@[ext] structure Char16String where
  chars : List UInt16
  nonzero : 0 ∉ chars
  deriving DecidableEq

/-- PW_MIN_LENGTH -/
def pwMinLength : Nat := 6
/-- PW_MAX_LENGTH -/
def pwMaxLength : Nat := 128

def pwTestStringNull : BitVec 32 := 1#32 <<< 0
def pwTestStringTooShort : BitVec 32 := 1#32 <<< 1
def pwTestStringTooLong : BitVec 32 := 1#32 <<< 2
def pwTestStringInvalidChar : BitVec 32 := 1#32 <<< 3

/-- ValidChars -/
def validChars : List UInt16 :=
  ("ABCDEFGHIJKLMNOPQRSTUVWXYZabcdefghijklmnopqrstuvwxyz" ++
    "0123456789!@#$%^&*()?<>\x7b\x7d[]-_=+|.,;:'`~\"").toList.map
    fun c => UInt16.ofNat c.toNat

/-- IsValidChar -/
def isValidChar (c : UInt16) : Bool := validChars.any (c == ·)

namespace Char16String

def empty : Char16String := ⟨[], by simp⟩

def length (s : Char16String) : Nat := s.chars.length

/-- StrnCpyS: at most `n` characters of the source, and a terminator. -/
def strnCpyS (s : Char16String) (n : Nat) : Char16String :=
  ⟨s.chars.take n, fun h => s.nonzero (List.mem_of_mem_take h)⟩

/-- The bytes of the characters, without the terminator. -/
def bytes (s : Char16String) : Bytes := s.chars.flatMap fun c => leBytes 2 c.toNat

theorem strnCpyS_of_le {s : Char16String} {n : Nat} (h : s.length ≤ n) : s.strnCpyS n = s :=
  Char16String.ext (List.take_of_length_le h)

theorem length_strnCpyS (s : Char16String) (n : Nat) :
    (s.strnCpyS n).length = min n s.length := List.length_take

/-- Different strings have different bytes. -/
theorem bytes_injective : Function.Injective bytes := by
  have hchars : ∀ a b : List UInt16,
      (a.flatMap fun c => leBytes 2 c.toNat) = (b.flatMap fun c => leBytes 2 c.toNat) → a = b := by
    intro a
    induction a with
    | nil =>
        intro b h
        cases b with
        | nil => rfl
        | cons y b => simp [leBytes] at h
    | cons x a ih =>
        intro b h
        cases b with
        | nil => simp [leBytes] at h
        | cons y b =>
            simp only [List.flatMap_cons] at h
            rcases List.append_inj h (by simp) with ⟨hxy, hab⟩
            have hnat : x.toNat = y.toNat := by
              have hx := leNat_leBytes 2 (n := x.toNat) x.toNat_lt
              have hy := leNat_leBytes 2 (n := y.toNat) y.toNat_lt
              rw [← hx, hxy, hy]
            rw [UInt16.toNat_inj.mp hnat, ih b hab]
  intro a b h
  exact Char16String.ext (hchars _ _ h)

end Char16String

/-- PasswordPolicySafeCopyPassword: the status, and what the buffer holds afterwards. -/
def passwordPolicySafeCopyPassword (buffer : Char16String) (bufferLength : Nat)
    (password : Char16String) : EfiStatus × Char16String :=
  if bufferLength < pwMaxLength + 1 then (efiBufferTooSmall, buffer)
  else (efiSuccess, password.strnCpyS pwMaxLength)

/-- The local TempPassword of the functions below, PW_MAX_LENGTH + 1 characters long, after
PasswordPolicySafeCopyPassword. -/
def tempPassword (password : Char16String) : Char16String :=
  (passwordPolicySafeCopyPassword .empty (pwMaxLength + 1) password).2

@[simp] theorem tempPassword_eq (password : Char16String) :
    tempPassword password = password.strnCpyS pwMaxLength := rfl

/-- PasswordPolicyIsPwStringValid: the answer, and the bitmap it writes when the caller passes a
`Failures` pointer. -/
def passwordPolicyIsPwStringValid (string : Option Char16String) (failures : Bool) :
    Bool × BitVec 32 :=
  match string with
  | none => (false, pwTestStringNull)
  | some string =>
      let temp := tempPassword string
      let result := true
      let bits := 0#32
      -- Step 1: too long?
      let tooLong := string != temp
      let bits := if tooLong then bits ||| pwTestStringTooLong else bits
      let result := result && !tooLong
      -- Step 2: too short? Only when nothing failed yet, or a bitmap is wanted.
      let stringLen := if result || failures then temp.length else 0
      let tooShort := (result || failures) && decide (stringLen < pwMinLength)
      let bits := if tooShort then bits ||| pwTestStringTooShort else bits
      let result := result && !tooShort
      -- Step 3: an invalid character?
      let invalid := (result || failures) && (temp.chars.take stringLen).any (!isValidChar ·)
      let bits := if invalid then bits ||| pwTestStringInvalidChar else bits
      let result := result && !invalid
      (result, bits)

/-- A password the policy accepts. -/
structure ValidPassword (p : Char16String) : Prop where
  min : pwMinLength ≤ p.length
  max : p.length ≤ pwMaxLength
  chars : ∀ c ∈ p.chars, isValidChar c = true

/-- Without a `Failures` pointer the answer is whether the policy accepts the string. -/
theorem isPwStringValid_iff (p : Char16String) :
    (passwordPolicyIsPwStringValid (some p) false).1 = true ↔ ValidPassword p := by
  have hlong : (p != tempPassword p) = true ↔ ¬ p.length ≤ pwMaxLength := by
    simp only [bne_iff_ne, ne_eq, tempPassword_eq]
    refine not_congr ⟨fun h => ?_, fun h => (Char16String.strnCpyS_of_le h).symm⟩
    have hlen := congrArg Char16String.length h
    rw [Char16String.length_strnCpyS] at hlen
    omega
  simp only [passwordPolicyIsPwStringValid, Bool.or_false, Bool.true_and]
  by_cases hmax : p.length ≤ pwMaxLength
  · have htemp : tempPassword p = p := by
      rw [tempPassword_eq, Char16String.strnCpyS_of_le hmax]
    have htake : p.chars.take p.length = p.chars := List.take_length
    simp only [htemp, bne_self_eq_false, Bool.not_false, if_true, Bool.true_and, htake]
    by_cases hmin : pwMinLength ≤ p.length
    · have hchars : (p.chars.any (!isValidChar ·) = false) ↔
          ∀ c ∈ p.chars, isValidChar c = true := by
        simp
      simp only [Nat.not_lt.mpr hmin, decide_false, Bool.not_false, Bool.true_and,
        Bool.not_eq_true', hchars]
      exact ⟨fun h => ⟨hmin, hmax, h⟩, fun h => h.chars⟩
    · simp only [Nat.lt_of_not_le hmin, decide_true, Bool.not_true, Bool.false_and,
        Bool.false_eq_true, false_iff]
      exact fun h => hmin h.min
  · simp only [hlong.mpr hmax, Bool.not_true, Bool.false_and, Bool.false_eq_true, false_iff]
    exact fun h => hmax h.max

/-! ## Records -/

/-- PRIVATE_HASH_VER_1_VERSION -/
def privateHashVer1Version : Nat := 1
/-- PRIVATE_HASH_VER_1_SALT_SIZE -/
def saltSizeV1 : Nat := 32
/-- PRIVATE_HASH_VER_1_KEY_SIZE -/
def keySizeV1 : Nat := 40
/-- sizeof (PASSWORD_HASH_HEADER) -/
def passwordHashHeaderSize : Nat := 2
/-- PASSWORD_HASH_VER_DELETE -/
def passwordHashVerDelete : Nat := 0xADDEADDE
/-- PASSWORD_HASH_VER_DELETE_SIZE -/
def passwordHashVerDeleteSize : Nat := 4
/-- sizeof (PRIVATE_HASH_VER_1) -/
def privateHashVer1Size : Nat := passwordHashHeaderSize + saltSizeV1 + keySizeV1

/-- mPasswordHashVersions: each supported version with the size of its record. -/
def mPasswordHashVersions : List (Nat × Nat) := [(privateHashVer1Version, privateHashVer1Size)]

/-- PasswordPolicyValidatePasswordHash, on a hash of `PasswordHashSize` bytes. -/
def passwordPolicyValidatePasswordHash (passwordHash : Option Bytes) : EfiStatus :=
  match passwordHash with
  | none => efiInvalidParameter
  | some h =>
      if h.length < passwordHashHeaderSize then efiInvalidParameter
      else if passwordHashVerDeleteSize ≤ h.length ∧
          leNat (slice 0 4 h) = passwordHashVerDelete then
        efiSuccess
      else
        match mPasswordHashVersions.find? (fun v => leNat (slice 0 2 h) == v.1) with
        | some v => if h.length = v.2 then efiSuccess else efiInvalidParameter
        | none => efiInvalidParameter

/-- What the library locates. -/
structure PolicyEnv where
  /-- LocateProtocol for the random number generator -/
  locateRng : EfiStatus
  /-- GetRNG with the counter, the HMAC and the hash generator, in this order -/
  getRng : Fin 3 → EfiStatus × Block saltSizeV1
  /-- LocateProtocol for the PKCS5 hash -/
  locatePkcs5 : EfiStatus
  /-- HashPassword: password, salt, iteration count, digest size, output size -/
  hashPassword : (password salt : Bytes) → (iterationCount digestSize : Nat) → (outputSize : Nat) →
    EfiStatus × Block outputSize
  /-- AllocateZeroPool has room for a version-1 record -/
  allocated : Bool
  /-- the memory after an allocated block -/
  beyond : Nat → UInt8

/-- The parameters of one version of the record. -/
structure StoreParameters where
  digestSize : Nat
  saltSize : Nat
  keySize : Nat
  iterationCount : Nat

/-- GetPasswordStoreParameters -/
def getPasswordStoreParameters (version : Nat) : Option StoreParameters :=
  if version ≠ privateHashVer1Version then none else some ⟨32, saltSizeV1, keySizeV1, 60000⟩

/-- GenerateSalt: the salt of the first generator that works. -/
def generateSalt (env : PolicyEnv) : Option (Block saltSizeV1) :=
  if efiError env.locateRng then none
  else if !efiError (env.getRng 0).1 then some (env.getRng 0).2
  else if !efiError (env.getRng 1).1 then some (env.getRng 1).2
  else if !efiError (env.getRng 2).1 then some (env.getRng 2).2
  else none

/-- BuildV1PasswordStore: the status and the contents of `Store`, which the caller zeroed. -/
def buildV1PasswordStore (env : PolicyEnv) (oldStore : Option Bytes) (password : Char16String) :
    EfiStatus × Bytes :=
  let store := List.replicate privateHashVer1Size 0
  match getPasswordStoreParameters privateHashVer1Version with
  | none => (efiInvalidParameter, store)
  | some par =>
      let store := splice 0 (leBytes 2 privateHashVer1Version) store
      let salt :=
        match oldStore with
        | none => (generateSalt env).map (·.1)
        | some old => some (readPast env.beyond old 2 par.saltSize)
      match salt with
      | none => (efiOutOfResources, store)
      | some salt =>
          let store := splice 2 salt store
          if efiError env.locatePkcs5 then (env.locatePkcs5, store)
          -- the length of the password in bytes, as a UINTN
          else if (password.length * 2) % 2 ^ 64 < password.length then (efiAborted, store)
          else
            let (status, key) :=
              env.hashPassword password.bytes salt par.iterationCount par.digestSize par.keySize
            (status, splice (2 + saltSizeV1) key.1 store)

/-- PasswordPolicyGeneratePasswordHash: the status, and the record it allocates, if any. -/
def passwordPolicyGeneratePasswordHash (env : PolicyEnv) (oldSalt : Option Bytes)
    (password : Option Char16String) : EfiStatus × Option Bytes :=
  if (password.isNone && oldSalt.isSome) ||
      (password.isSome && !(passwordPolicyIsPwStringValid password false).1) then
    (efiInvalidParameter, none)
  else
    match password with
    -- the source does not stop when there is no room for a delete record
    | none => (efiSuccess, some (leBytes 4 passwordHashVerDelete))
    | some password =>
        if oldSalt.any fun old =>
            leNat (readPast env.beyond old 0 2) != privateHashVer1Version then
          (efiInvalidParameter, none)
        else if !env.allocated then (efiOutOfResources, none)
        else
          let (status, store) := buildV1PasswordStore env oldSalt password
          if efiError status then (efiAborted, none) else (efiSuccess, some store)

/-! ## What the formats look like from outside -/

/-- The bytes of a version-1 record. -/
def v1Record (salt : Block saltSizeV1) (key : Block keySizeV1) : Bytes :=
  leBytes 2 privateHashVer1Version ++ salt.1 ++ key.1

/-- The record that stands for "no password". -/
def deleteRecord : Bytes := leBytes 4 passwordHashVerDelete

@[simp] theorem length_deleteRecord : deleteRecord.length = passwordHashVerDeleteSize := rfl

/-- A version-1 record: its size, and its version field. -/
structure IsV1Record (r : Bytes) : Prop where
  size : r.length = privateHashVer1Size
  version : leNat (slice 0 2 r) = privateHashVer1Version

/-- A delete record, of any length that has room for its mark. -/
structure IsDeleteRecord (r : Bytes) : Prop where
  size : passwordHashVerDeleteSize ≤ r.length
  mark : leNat (slice 0 4 r) = passwordHashVerDelete

theorem isV1Record_v1Record (salt : Block saltSizeV1) (key : Block keySizeV1) :
    IsV1Record (v1Record salt key) where
  size := by
    simp only [v1Record, List.length_append, length_leBytes, salt.2, key.2]
    rfl
  version := by
    rw [v1Record, List.append_assoc, slice, List.drop_zero, List.take_left' (length_leBytes 2 _)]
    rfl

/-- The salt field of a version-1 record. -/
theorem slice_salt (salt : Block saltSizeV1) (key : Block keySizeV1) :
    slice 2 saltSizeV1 (v1Record salt key) = salt.1 := by
  rw [v1Record, List.append_assoc, slice, List.drop_left' (length_leBytes 2 _),
    List.take_left' salt.2]

/-- A version-1 record is made of its salt and its key. -/
theorem IsV1Record.eq_v1Record {r : Bytes} (h : IsV1Record r) :
    ∃ salt key, r = v1Record salt key := by
  have hsize := h.size
  simp only [privateHashVer1Size, passwordHashHeaderSize, saltSizeV1, keySizeV1] at hsize
  refine ⟨⟨slice 2 saltSizeV1 r, length_slice (by simp only [saltSizeV1]; omega)⟩,
    ⟨slice (2 + saltSizeV1) keySizeV1 r,
      length_slice (by simp only [saltSizeV1, keySizeV1]; omega)⟩, ?_⟩
  have hversion : leBytes 2 privateHashVer1Version = r.take 2 := by
    have hread := leBytes_leNat (slice 0 2 r)
    rw [h.version, length_slice (by omega)] at hread
    exact hread
  have hkey : (r.drop (2 + saltSizeV1)).take keySizeV1 = r.drop (2 + saltSizeV1) :=
    List.take_of_length_le (by simp only [List.length_drop, saltSizeV1, keySizeV1]; omega)
  rw [v1Record, hversion]
  show r = r.take 2 ++ (r.drop 2).take saltSizeV1 ++ (r.drop (2 + saltSizeV1)).take keySizeV1
  rw [hkey, ← List.drop_drop, List.append_assoc, List.take_append_drop, List.take_append_drop]

/-- Two version-1 records with one salt agree exactly when their keys do. -/
theorem v1Record_inj {salt : Block saltSizeV1} {key key' : Block keySizeV1} :
    v1Record salt key = v1Record salt key' ↔ key = key' := by
  refine ⟨fun h => ?_, fun h => by rw [h]⟩
  exact Subtype.ext (List.append_cancel_left h)

/-- The mark of a delete record cannot be mistaken for version 1. -/
theorem not_delete_of_v1 {r : Bytes} (h : IsV1Record r) : ¬ IsDeleteRecord r := by
  intro hd
  rcases h with ⟨hsize, hver⟩
  have hmark := hd.mark
  match r with
  | a :: b :: c :: d :: rest =>
      simp only [slice, List.drop_zero, List.take_succ_cons, List.take_zero, leNat_cons,
        leNat_nil, privateHashVer1Version, passwordHashVerDelete] at hver hmark
      omega
  | [] | [_] | [_, _] | [_, _, _] => simp [privateHashVer1Size] at hsize; contradiction

instance (r : Bytes) : Decidable (IsV1Record r) :=
  decidable_of_iff
    (r.length = privateHashVer1Size ∧ leNat (slice 0 2 r) = privateHashVer1Version)
    ⟨fun h => ⟨h.1, h.2⟩, fun h => ⟨h.size, h.version⟩⟩

instance (r : Bytes) : Decidable (IsDeleteRecord r) :=
  decidable_of_iff
    (passwordHashVerDeleteSize ≤ r.length ∧ leNat (slice 0 4 r) = passwordHashVerDelete)
    ⟨fun h => ⟨h.1, h.2⟩, fun h => ⟨h.size, h.mark⟩⟩

/-- **The validator accepts exactly the delete records and the version-1 records.** -/
theorem validatePasswordHash_iff (r : Bytes) :
    passwordPolicyValidatePasswordHash (some r) = efiSuccess ↔ IsDeleteRecord r ∨ IsV1Record r := by
  have hne : efiInvalidParameter ≠ efiSuccess := ne_success_of_error efiError_invalidParameter
  simp only [passwordPolicyValidatePasswordHash, mPasswordHashVersions, List.find?_cons,
    List.find?_nil]
  by_cases hlen : r.length < passwordHashHeaderSize
  · simp only [hlen, if_true, hne, false_iff, not_or]
    constructor
    · intro h
      have := h.size
      simp only [passwordHashVerDeleteSize, passwordHashHeaderSize] at this hlen
      omega
    · intro h
      have := h.size
      simp only [privateHashVer1Size, passwordHashHeaderSize, saltSizeV1, keySizeV1] at this hlen
      omega
  by_cases hdel : passwordHashVerDeleteSize ≤ r.length ∧ leNat (slice 0 4 r) = passwordHashVerDelete
  · simp only [hlen, if_false, hdel, and_self, if_true, true_iff]
    exact Or.inl ⟨hdel.1, hdel.2⟩
  have hnot : ¬ IsDeleteRecord r := fun h => hdel ⟨h.size, h.mark⟩
  simp only [hlen, if_false, hdel, hnot, false_or]
  by_cases hver : leNat (slice 0 2 r) = privateHashVer1Version
  · simp only [hver, beq_self_eq_true]
    by_cases hsize : r.length = privateHashVer1Size
    · simp only [hsize, if_true, true_iff]
      exact ⟨hsize, hver⟩
    · simp only [hsize, if_false, hne, false_iff]
      exact fun h => hsize h.size
  · simp only [beq_eq_false_iff_ne.mpr hver, hne, false_iff]
    exact fun h => hver h.version

/-! ## What GeneratePasswordHash makes -/

/-- The key HashPassword derives for a version-1 record, with its status. -/
def PolicyEnv.deriveKey (env : PolicyEnv) (password : Char16String) (salt : Block saltSizeV1) :
    EfiStatus × Block keySizeV1 :=
  env.hashPassword password.bytes salt.1 60000 32 keySizeV1

/-- There is room for a record, the hash service is there, and hashing does not fail. -/
structure PolicyEnv.Hashes (env : PolicyEnv) : Prop where
  allocated : env.allocated = true
  located : efiError env.locatePkcs5 = false
  succeeds : ∀ password salt, efiError (env.deriveKey password salt).1 = false

/-- Services that work, with a hash that tells one password from all the others. -/
def singlingOut (p : Char16String) : PolicyEnv where
  locateRng := efiSuccess
  getRng _ := (efiSuccess, ⟨List.replicate saltSizeV1 7, List.length_replicate⟩)
  locatePkcs5 := efiSuccess
  hashPassword password _ _ _ n :=
    (efiSuccess, ⟨List.replicate n (if password = p.bytes then 1 else 0), List.length_replicate⟩)
  allocated := true
  beyond _ := 0

/-- The record `singlingOut p` generates for `p`. -/
def singledOutRecord : Bytes :=
  v1Record ⟨List.replicate saltSizeV1 7, rfl⟩ ⟨List.replicate keySizeV1 1, rfl⟩

theorem isV1Record_singledOutRecord : IsV1Record singledOutRecord := isV1Record_v1Record _ _

theorem singlingOut_hashes (p : Char16String) : (singlingOut p).Hashes where
  allocated := rfl
  located := efiError_success
  succeeds _ _ := efiError_success

/-- The salt BuildV1PasswordStore uses. -/
def saltFor (env : PolicyEnv) : Option Bytes → Option (Block saltSizeV1)
  | none => generateSalt env
  | some old => some ⟨readPast env.beyond old 2 saltSizeV1, by simp [readPast]⟩

/-- The three writes of BuildV1PasswordStore fill the record from front to back. -/
theorem splice_v1Record (salt : Block saltSizeV1) (key : Block keySizeV1) :
    splice (2 + saltSizeV1) key.1 (splice 2 salt.1
        (splice 0 (leBytes 2 privateHashVer1Version) (List.replicate privateHashVer1Size 0))) =
      v1Record salt key := by
  have hversion : splice 0 (leBytes 2 privateHashVer1Version) (List.replicate privateHashVer1Size 0)
      = leBytes 2 privateHashVer1Version ++ List.replicate (saltSizeV1 + keySizeV1) 0 := by
    rw [← List.nil_append (List.replicate privateHashVer1Size 0),
      splice_append_zeros List.length_nil, length_leBytes]
    rfl
  have hsalt : splice 2 salt.1
        (leBytes 2 privateHashVer1Version ++ List.replicate (saltSizeV1 + keySizeV1) 0)
      = leBytes 2 privateHashVer1Version ++ salt.1 ++ List.replicate keySizeV1 0 := by
    rw [splice_append_zeros (length_leBytes 2 _), salt.2]
    rfl
  rw [hversion, hsalt, splice_append_zeros (by simp [salt.2]), key.2, Nat.sub_self,
    List.replicate_zero, List.append_nil, v1Record]

/-- **BuildV1PasswordStore builds the version-1 record** of the salt and of the key the hash
makes. -/
theorem buildV1PasswordStore_eq {env : PolicyEnv} (hlocate : efiError env.locatePkcs5 = false)
    {oldStore : Option Bytes} {salt : Block saltSizeV1} (hsalt : saltFor env oldStore = some salt)
    {p : Char16String} (hmax : p.length ≤ pwMaxLength) :
    buildV1PasswordStore env oldStore p =
      ((env.deriveKey p salt).1, v1Record salt (env.deriveKey p salt).2) := by
  have hsize : ¬ (p.length * 2) % 2 ^ 64 < p.length := by
    simp only [pwMaxLength] at hmax
    omega
  cases oldStore with
  | none =>
      simp only [saltFor] at hsalt
      simp only [buildV1PasswordStore, getPasswordStoreParameters, ne_eq, not_true_eq_false,
        if_false, hsalt, Option.map_some, hlocate, Bool.false_eq_true, hsize, splice_v1Record]
      rfl
  | some old =>
      simp only [saltFor, Option.some.injEq] at hsalt
      have hsalt' : readPast env.beyond old 2 saltSizeV1 = salt.1 := by rw [← hsalt]
      simp only [buildV1PasswordStore, getPasswordStoreParameters, ne_eq, not_true_eq_false,
        if_false, hsalt', hlocate, Bool.false_eq_true, hsize, splice_v1Record]
      rfl

/-- A password the policy refuses has no record. -/
theorem generatePasswordHash_invalid (env : PolicyEnv) (oldSalt : Option Bytes) {p : Char16String}
    (hp : ¬ ValidPassword p) :
    passwordPolicyGeneratePasswordHash env oldSalt (some p) = (efiInvalidParameter, none) := by
  have hvalid : (passwordPolicyIsPwStringValid (some p) false).1 = false := by
    rw [← Bool.not_eq_true]
    exact fun h => hp ((isPwStringValid_iff p).mp h)
  simp only [passwordPolicyGeneratePasswordHash, hvalid, Option.isSome_some, Bool.not_false,
    Bool.and_self, Bool.or_true, if_true]

/-- GeneratePasswordHash with the salt it uses made explicit. -/
theorem generatePasswordHash_eq {env : PolicyEnv} (henv : env.Hashes) {p : Char16String}
    (hp : ValidPassword p) {oldSalt : Option Bytes} {salt : Block saltSizeV1}
    (hsalt : saltFor env oldSalt = some salt)
    (hold : ∀ old, oldSalt = some old →
      leNat (readPast env.beyond old 0 2) = privateHashVer1Version) :
    passwordPolicyGeneratePasswordHash env oldSalt (some p) =
      (efiSuccess, some (v1Record salt (env.deriveKey p salt).2)) := by
  have hvalid := (isPwStringValid_iff p).mpr hp
  have hversion : (oldSalt.any fun old =>
      leNat (readPast env.beyond old 0 2) != privateHashVer1Version) = false := by
    cases oldSalt with
    | none => rfl
    | some old => simp [hold old rfl]
  simp only [passwordPolicyGeneratePasswordHash, hvalid, Option.isNone_some, Bool.false_and,
    Bool.not_true, Bool.and_false, Bool.or_self, Bool.false_eq_true, if_false, hversion,
    henv.allocated, buildV1PasswordStore_eq henv.located hsalt hp.max, henv.succeeds]

/-- The record of the password that is told from the others. -/
theorem generatePasswordHash_singlingOut {p : Char16String} (hp : ValidPassword p) :
    passwordPolicyGeneratePasswordHash (singlingOut p) none (some p) =
      (efiSuccess, some singledOutRecord) := by
  have hsalt : saltFor (singlingOut p) none =
      some ⟨List.replicate saltSizeV1 7, List.length_replicate⟩ := by
    simp only [saltFor, generateSalt, singlingOut, efiError_success, Bool.false_eq_true, if_false,
      Bool.not_false, if_true]
  have hkey : ∀ salt, ((singlingOut p).deriveKey p salt).2 =
      ⟨List.replicate keySizeV1 1, List.length_replicate⟩ := by
    intro salt
    simp only [PolicyEnv.deriveKey, singlingOut, if_true]
  rw [generatePasswordHash_eq (singlingOut_hashes p) hp hsalt (fun _ h => nomatch h), hkey]
  rfl

/-- **The record of a new password** has the salt the generator makes. -/
theorem generatePasswordHash_new {env : PolicyEnv} (henv : env.Hashes) {p : Char16String}
    (hp : ValidPassword p) {r : Bytes}
    (h : passwordPolicyGeneratePasswordHash env none (some p) = (efiSuccess, some r)) :
    ∃ salt, r = v1Record salt (env.deriveKey p salt).2 := by
  cases hsalt : generateSalt env with
  | some salt =>
      have hnone : saltFor env none = some salt := hsalt
      rw [generatePasswordHash_eq henv hp hnone (fun _ h => nomatch h)] at h
      exact ⟨salt, (Option.some.inj (congrArg Prod.snd h)).symm⟩
  | none =>
      have hvalid := (isPwStringValid_iff p).mpr hp
      simp [passwordPolicyGeneratePasswordHash, hvalid, henv.allocated, buildV1PasswordStore,
        getPasswordStoreParameters, hsalt] at h

/-- **The record a candidate is compared with** has the salt of the stored one. -/
theorem generatePasswordHash_again {env : PolicyEnv} (henv : env.Hashes) {p : Char16String}
    (hp : ValidPassword p) (salt : Block saltSizeV1) (key : Block keySizeV1) :
    passwordPolicyGeneratePasswordHash env (some (v1Record salt key)) (some p) =
      (efiSuccess, some (v1Record salt (env.deriveKey p salt).2)) := by
  have hlen := (isV1Record_v1Record salt key).size
  have hsalt : saltFor env (some (v1Record salt key)) = some salt := by
    rw [saltFor, Option.some.injEq, Subtype.ext_iff]
    show readPast env.beyond (v1Record salt key) 2 saltSizeV1 = salt.1
    rw [readPast_eq_slice (by rw [hlen]; decide), slice_salt]
  apply generatePasswordHash_eq henv hp hsalt
  rintro old hold
  cases hold
  rw [readPast_eq_slice (by rw [hlen]; decide), (isV1Record_v1Record salt key).version]

/-- `r` is the version-1 record of the password `p`, with some salt. -/
structure IsRecordOf (env : PolicyEnv) (p : Char16String) (r : Bytes) : Prop where
  valid : ValidPassword p
  record : ∃ salt, r = v1Record salt (env.deriveKey p salt).2

theorem IsRecordOf.isV1Record {env : PolicyEnv} {p : Char16String} {r : Bytes}
    (h : IsRecordOf env p r) : IsV1Record r := by
  rcases h.record with ⟨salt, rfl⟩
  exact isV1Record_v1Record salt _

/-- **What is generated for a new password is its record**, whatever made the salt. -/
theorem isRecordOf_generated {env : PolicyEnv} (henv : env.Hashes) {p : Char16String}
    (hp : ValidPassword p) {locateRng : EfiStatus} {getRng : Fin 3 → EfiStatus × Block saltSizeV1}
    {r : Bytes}
    (hgen : passwordPolicyGeneratePasswordHash { env with locateRng := locateRng, getRng := getRng }
      none (some p) = (efiSuccess, some r)) : IsRecordOf env p r := by
  have henv' : PolicyEnv.Hashes { env with locateRng := locateRng, getRng := getRng } :=
    ⟨henv.allocated, henv.located, henv.succeeds⟩
  rcases generatePasswordHash_new henv' hp hgen with ⟨salt, hsalt⟩
  exact ⟨hp, salt, hsalt⟩

end OemPkg.Password
