/-
# OemPkg.Smbios.DeviceId — the DFCI identifiers of the device

The model of `DfciDeviceIdSupportLib.c`: manufacturer, product name and serial number as strings
from SMBIOS records, and the serial number as the number that version 1 of the library returned.
All of them take their string from GetOptionalStringByIndex, which fills its buffer in three ways:
a zero for number 0, the string of that number, or "Not Found".

* `size_reported_iff`: the size comes with the string, except for number 0;
* `v1_serial_number_iff`: the eight bytes of the number lie in the buffer, except for short strings.
-/
import OemPkg.Smbios.StringArea

namespace OemPkg.Smbios

open OemPkg.Lib OemPkg.Uefi

/-! ## GetOptionalStringByIndex -/

def notFoundText : Bytes := "Not Found".toList.map fun c => UInt8.ofNat c.toNat

/-- ID_NOT_FOUND -/
def idNotFound : Bytes := zeroTerminated notFoundText

/-- What GetOptionalStringByIndex leaves: the buffer `*String` points to, NULL if there was no
memory for it, and `*Size` if a pointer was given. -/
structure FoundString where
  string : Option Bytes
  size : Option Nat
  deriving DecidableEq

/-- What is outside the library: the two records, AsciiStrSize, the memory beyond the string areas,
and whether there is memory for a buffer. -/
structure SmbiosEnv where
  type1 : GetNext SmbiosTableType1
  type3 : GetNext SmbiosTableType3
  asciiStrSize : AsciiStrSize
  beyond : Nat → UInt8
  allocated : Bool

section Functions

variable (env : SmbiosEnv)

/-- A buffer from AllocatePool with these contents. -/
def SmbiosEnv.buffer (contents : Bytes) : Option Bytes :=
  if env.allocated then some contents else none

/-- GetOptionalStringByIndex, for `*Size` before the call. -/
def getOptionalStringByIndex (optionalStrings : Bytes) (index : UInt8) (size : Option Nat) :
    Looking FoundString :=
  if index = 0 then pure ⟨env.buffer [0, 0], size⟩
  else do
    let s ← lookup env.asciiStrSize env.beyond optionalStrings index
    if s.notFound then
      -- the end of the set with a number left, or an empty string
      pure ⟨env.buffer idNotFound, size.map fun _ => idNotFound.length⟩
    else do
      let chars ← Looking.read env.beyond optionalStrings s.optionalStrStart s.strSize
      pure ⟨env.buffer chars, size.map fun _ => s.strSize⟩

/-! ## The functions of the library -/

/-- A record's string of some number, as the three functions below return it: the status, and the
outputs. `target` says that the pointer for the string is not NULL. -/
def getIdString (record : GetNext (UInt8 × List AreaString)) (target : Bool) (size : Option Nat) :
    Looking (EfiStatus × FoundString) :=
  if !target then pure (efiInvalidParameter, ⟨none, size⟩)
  else
    match record with
    | .error e => pure (e.1, ⟨none, size⟩)
    | .ok (index, strings) => do
        let found ← getOptionalStringByIndex env (areaBytes strings) index size
        pure (efiSuccess, found)

/-- DfciIdSupportGetManufacturer -/
def dfciIdSupportGetManufacturer : Bool → Option Nat → Looking (EfiStatus × FoundString) :=
  getIdString env (env.type1.map fun r => (r.manufacturer, r.strings))

/-- DfciIdSupportGetProductName -/
def dfciIdSupportGetProductName : Bool → Option Nat → Looking (EfiStatus × FoundString) :=
  getIdString env (env.type1.map fun r => (r.productName, r.strings))

/-- DfciIdSupportGetSerialNumber -/
def dfciIdSupportGetSerialNumber : Bool → Option Nat → Looking (EfiStatus × FoundString) :=
  getIdString env (env.type3.map fun r => (r.serialNumber, r.strings))

/-- DfciIdSupportV1GetSerialNumber: the status, and `*SerialNumber`. `past` is what memory holds
behind the string buffer, of which sizeof (UINTN) bytes are copied. -/
def dfciIdSupportV1GetSerialNumber (past : Nat → UInt8) (serialNumber : Nat) :
    Looking (EfiStatus × Nat) :=
  match env.type1 with
  | .error e => pure (e.1, serialNumber)
  | .ok r => do
      let found ← getOptionalStringByIndex env (areaBytes r.strings) r.serialNumber none
      let data ← Looking.read past (found.string.getD []) 0 8
      pure (efiSuccess, leNat data)

end Functions

/-! ## What the lookup returns -/

/-- The contents of the buffer: nothing but a zero for number 0, the string, or "Not Found". -/
def optionalString (strings : List AreaString) (index : UInt8) : Bytes :=
  if index = 0 then [0, 0]
  else
    match stringAt strings index with
    | some x => x.bytes
    | none => idNotFound

variable {env : SmbiosEnv}

/-- **One equation for the lookup**: it ends, stays in the area, and returns that string. The size
is left alone for number 0. -/
theorem yields_getOptionalString (h : env.asciiStrSize.Documented) (strings : List AreaString)
    (index : UInt8) (size : Option Nat) :
    (getOptionalStringByIndex env (areaBytes strings) index size).Yields
      ⟨env.buffer (optionalString strings index),
        if index = 0 then size else size.map fun _ => (optionalString strings index).length⟩ := by
  unfold getOptionalStringByIndex optionalString
  by_cases hzero : index = 0
  · simp only [if_pos hzero]
    exact Looking.yields_pure.mpr rfl
  simp only [if_neg hzero]
  have hlookup := yields_lookupString h env.beyond strings hzero
    (⟨env.buffer idNotFound, size.map fun _ => idNotFound.length⟩ : FoundString)
    fun strSize chars => ⟨env.buffer chars, size.map fun _ => strSize⟩
  cases hstring : stringAt strings index with
  | none =>
      rw [hstring] at hlookup
      exact hlookup
  | some x =>
      have hlength : x.bytes.length = x.chars.length + 1 := length_zeroTerminated x.chars
      rw [hstring] at hlookup
      simp only [hlength]
      exact hlookup

/-- Every buffer holds a string that ends in it, and but for number 0 it is as long as that. -/
theorem terminated_optionalString (strings : List AreaString) (index : UInt8) :
    ∃ k, Terminated 1 (optionalString strings index) 0 k ∧
      (index = 0 → k = 0) ∧ (index ≠ 0 → (optionalString strings index).length = k + 1) := by
  have hwhole : ∀ chars : Bytes, 0 ∉ chars → Terminated 1 (zeroTerminated chars) 0 chars.length :=
    fun chars hchars => by
      have hterminated := terminated_string [] [] hchars
      rwa [List.append_nil, List.nil_append] at hterminated
  unfold optionalString
  by_cases hzero : index = 0
  · simp only [if_pos hzero]
    have hempty : Terminated 1 ([] ++ (zeroTerminated [] ++ [0])) 0 0 :=
      terminated_string [] [0] List.not_mem_nil
    exact ⟨0, hempty, fun _ => rfl, fun hne => absurd hzero hne⟩
  simp only [if_neg hzero]
  cases stringAt strings index with
  | none =>
      exact ⟨notFoundText.length, hwhole notFoundText (by decide), fun hno => absurd hno hzero,
        fun _ => length_zeroTerminated notFoundText⟩
  | some x =>
      exact ⟨x.chars.length, hwhole x.chars x.nonzero, fun hno => absurd hno hzero,
        fun _ => length_zeroTerminated x.chars⟩

/-! ## One platform -/

/-- AsciiStrSize as a scan. -/
def asciiStrSize : AsciiStrSize := fun beyond b p => do
  let k ← scan 1 beyond b p
  pure (k + 1)

theorem asciiStrSize_documented : asciiStrSize.Documented := by
  intro beyond b p n
  show (scan 1 beyond b p >>= fun k => pure (k + 1)).Yields n ↔ _
  rw [Looking.yields_bind]
  apply exists_congr
  intro k
  rw [yields_scan beyond Nat.one_pos, Looking.yields_pure]
  exact and_congr_right' eq_comm

/-- The string "Acme". -/
def acme : AreaString := ⟨[0x41, 0x63, 0x6D, 0x65], by decide, by decide⟩

/-- The string "12345678". -/
def eightDigits : AreaString :=
  ⟨[0x31, 0x32, 0x33, 0x34, 0x35, 0x36, 0x37, 0x38], by decide, by decide⟩

/-- A record with the strings "Acme" and "12345678": the manufacturer is the first of them, and the
serial number has this number. -/
def acmePlatform (productName serialNumber : UInt8) : SmbiosEnv where
  type1 := .ok ⟨1, productName, serialNumber, ⟨List.replicate 16 7, rfl⟩, [acme, eightDigits]⟩
  type3 := .error ⟨efiNotFound, efiError_notFound⟩
  asciiStrSize := asciiStrSize
  beyond _ := 0xFF
  allocated := true

/-! ## The size of the string -/

/-- The three functions that return a string. -/
inductive IdGetter where
  | manufacturer
  | productName
  | serialNumber
  deriving DecidableEq

namespace IdGetter

variable (env)

/-- The record a function looks at: the number of its string, and the strings. -/
def record : IdGetter → GetNext (UInt8 × List AreaString)
  | .manufacturer => env.type1.map fun r => (r.manufacturer, r.strings)
  | .productName => env.type1.map fun r => (r.productName, r.strings)
  | .serialNumber => env.type3.map fun r => (r.serialNumber, r.strings)

/-- The call of a function with a pointer for the string. -/
def call : IdGetter → Option Nat → Looking (EfiStatus × FoundString)
  | .manufacturer => dfciIdSupportGetManufacturer env true
  | .productName => dfciIdSupportGetProductName env true
  | .serialNumber => dfciIdSupportGetSerialNumber env true

theorem call_eq (g : IdGetter) (size : Option Nat) :
    g.call env size = getIdString env (g.record env) true size := by
  cases g with
  | manufacturer => rfl
  | productName => rfl
  | serialNumber => rfl

end IdGetter

theorem yields_call_error {g : IdGetter} {e : { s : EfiStatus // efiError s = true }}
    (hrecord : g.record env = .error e) (size : Option Nat) :
    (g.call env size).Yields (e.1, ⟨none, size⟩) := by
  rw [g.call_eq]
  unfold getIdString
  rw [if_neg (by decide), hrecord]
  exact Looking.yields_pure.mpr rfl

theorem yields_call_ok (h : env.asciiStrSize.Documented) {g : IdGetter} {index : UInt8}
    {strings : List AreaString} (hrecord : g.record env = .ok (index, strings))
    (size : Option Nat) :
    (g.call env size).Yields (efiSuccess, ⟨env.buffer (optionalString strings index),
      if index = 0 then size else size.map fun _ => (optionalString strings index).length⟩) := by
  rw [g.call_eq]
  unfold getIdString
  rw [if_neg (by decide), hrecord]
  exact Looking.yields_bind.mpr ⟨_, yields_getOptionalString h strings index size,
    Looking.yields_pure.mpr rfl⟩

/-- A success comes with a buffer that holds a zero, and with the size of the string in it. -/
def SizeReported (out : EfiStatus × FoundString) : Prop :=
  out.1 = efiSuccess → ∃ buffer k, out.2.string = some buffer ∧ Terminated 1 buffer 0 k ∧
    out.2.size = some (k + 1)

/-- **When the size comes with the string.** A call with a pointer for the size ends in any case; it
reports the size of what it returns unless it finds a record and either this has no such string and
`*Size` was not 1 before, or there was no memory for the buffer. -/
theorem size_reported_iff (h : env.asciiStrSize.Documented) (g : IdGetter) (size : Nat) :
    (∃ out, (g.call env (some size)).Yields out ∧ SizeReported out) ↔
      ∀ index strings, g.record env = .ok (index, strings) →
        env.allocated = true ∧ (index ≠ 0 ∨ size = 1) := by
  cases hrecord : g.record env with
  | error e =>
      refine iff_of_true ⟨_, yields_call_error hrecord (some size), fun hsuccess => ?_⟩
        fun _ _ hok => nomatch hok
      exact absurd hsuccess (ne_success_of_error e.2)
  | ok r =>
      obtain ⟨index, strings⟩ := r
      have hcall := yields_call_ok h hrecord (some size)
      obtain ⟨k, hterminated, hzero, hlength⟩ := terminated_optionalString strings index
      constructor
      · rintro ⟨out, hout, hreported⟩ index' strings' hok
        cases hok
        rw [hout.unique hcall] at hreported
        obtain ⟨buffer, k', hbuffer, hterminated', hsize⟩ := hreported rfl
        unfold SmbiosEnv.buffer at hbuffer
        dsimp only at hbuffer hsize
        split_ifs at hbuffer with hallocated
        refine ⟨hallocated, ?_⟩
        by_cases hindex : index = 0
        · -- the size is the caller's, the string is empty
          rw [if_pos hindex, Option.some.injEq] at hsize
          rw [← Option.some.inj hbuffer] at hterminated'
          rw [hterminated'.unique hterminated, hzero hindex] at hsize
          exact Or.inr hsize
        · exact Or.inl hindex
      · intro hcond
        obtain ⟨hallocated, hsize⟩ := hcond index strings rfl
        refine ⟨_, hcall, fun _ => ⟨_, k, if_pos hallocated, hterminated, ?_⟩⟩
        dsimp only
        by_cases hindex : index = 0
        · rw [if_pos hindex, hzero hindex]
          rcases hsize with hne | rfl
          · exact absurd hindex hne
          · rfl
        · rw [if_neg hindex, Option.map_some, hlength hindex]

/-- The manufacturer "Acme" comes with its size, whatever `*Size` was. -/
theorem size_reported_acme :
    ∃ out, (IdGetter.manufacturer.call (acmePlatform 0 1) (some 99)).Yields out ∧
      SizeReported out := by
  apply (size_reported_iff asciiStrSize_documented .manufacturer 99).mpr
  intro index strings hrecord
  cases hrecord
  exact ⟨rfl, Or.inl (by decide)⟩

/-- A record without a product name: `*Size` is what it was. -/
theorem size_unreported :
    ¬ ∀ (env : SmbiosEnv), env.asciiStrSize.Documented → env.allocated = true →
      ∀ (g : IdGetter) (size : Nat),
        ∃ out, (g.call env (some size)).Yields out ∧ SizeReported out := by
  intro hall
  have hsize := (size_reported_iff asciiStrSize_documented .productName 0).mp
    (hall (acmePlatform 0 1) asciiStrSize_documented rfl .productName 0)
  rcases (hsize 0 _ rfl).2 with hne | hone
  · exact hne rfl
  · exact absurd hone (by decide)

/-! ## The serial number as a number -/

/-- The bytes that are copied lie in the string buffer. -/
def CopyInBuffer (env : SmbiosEnv) (serialNumber : Nat) : Prop :=
  ∀ past, ∃ out, (dfciIdSupportV1GetSerialNumber env past serialNumber).Yields out

/-- Two runs with the same records, and anything behind the string buffer, return the same. -/
def SameForAnyPast (env : SmbiosEnv) (serialNumber : Nat) : Prop :=
  ∀ past past' out out', (dfciIdSupportV1GetSerialNumber env past serialNumber).Ends out →
    (dfciIdSupportV1GetSerialNumber env past' serialNumber).Ends out' → out = out'

/-- The two are the same, and hold exactly when sizeof (UINTN) bytes fit in the buffer. -/
theorem copy_iff (h : env.asciiStrSize.Documented) {r : SmbiosTableType1}
    (hrecord : env.type1 = .ok r) (serialNumber : Nat) :
    (CopyInBuffer env serialNumber ↔
      8 ≤ ((env.buffer (optionalString r.strings r.serialNumber)).getD []).length) ∧
    (SameForAnyPast env serialNumber ↔
      8 ≤ ((env.buffer (optionalString r.strings r.serialNumber)).getD []).length) := by
  set buffer := (env.buffer (optionalString r.strings r.serialNumber)).getD [] with hbuffer
  have hfound := yields_getOptionalString h r.strings r.serialNumber none
  have hends : ∀ past, (dfciIdSupportV1GetSerialNumber env past serialNumber).Ends
      (efiSuccess, leNat (readPast past buffer 0 8)) := by
    intro past
    unfold dfciIdSupportV1GetSerialNumber
    rw [hrecord]
    exact hfound.ends.bind ((Looking.ends_read past _ 0 8).bind (Looking.ends_pure _))
  constructor
  · constructor
    · intro hcopy
      obtain ⟨out, hout⟩ := hcopy fun _ => 0
      unfold dfciIdSupportV1GetSerialNumber at hout
      rw [hrecord] at hout
      obtain ⟨found, hfound', hout⟩ := Looking.yields_bind.mp hout
      obtain ⟨data, hread, -⟩ := Looking.yields_bind.mp hout
      rw [hfound'.unique hfound] at hread
      have hinside := ((Looking.yields_read (Nat.succ_pos 7)).mp hread).1
      rwa [Nat.zero_add] at hinside
    · intro hroom past
      unfold dfciIdSupportV1GetSerialNumber
      rw [hrecord]
      have hread : (Looking.read past buffer 0 8).Yields (slice 0 8 buffer) :=
        (Looking.yields_read (Nat.succ_pos 7)).mpr ⟨by rw [Nat.zero_add]; exact hroom, rfl⟩
      exact ⟨_, Looking.yields_bind.mpr ⟨_, hfound, Looking.yields_bind.mpr ⟨_, hread,
        Looking.yields_pure.mpr rfl⟩⟩⟩
  · rw [← readPast_congr_iff (Nat.succ_pos 7)]
    constructor
    · intro hsame past past'
      have hvalue := congrArg Prod.snd (hsame past past' _ _ (hends past) (hends past'))
      exact (leNat_inj (by rw [length_readPast, length_readPast])).mp hvalue
    · intro hread past past' out out' hout hout'
      rw [hout.unique (hends past), hout'.unique (hends past'), hread past past']

/-- The buffer has sizeof (UINTN) bytes: it was allocated, and its contents are "Not Found" or a
string of seven characters at least. -/
def HasEightBytes (allocated : Bool) (strings : List AreaString) (index : UInt8) : Prop :=
  allocated = true ∧ index ≠ 0 ∧ ∀ x, stringAt strings index = some x → 7 ≤ x.chars.length

theorem eight_le_buffer_iff (strings : List AreaString) (index : UInt8) :
    8 ≤ ((env.buffer (optionalString strings index)).getD []).length ↔
      HasEightBytes env.allocated strings index := by
  unfold SmbiosEnv.buffer HasEightBytes optionalString
  cases env.allocated with
  | false =>
      rw [if_neg Bool.false_ne_true]
      exact iff_of_false (by decide) fun hno => Bool.false_ne_true hno.1
  | true =>
      rw [if_pos rfl, Option.getD_some]
      by_cases hzero : index = 0
      · rw [if_pos hzero]
        exact iff_of_false (by decide) fun hno => hno.2.1 hzero
      rw [if_neg hzero]
      cases stringAt strings index with
      | none => exact iff_of_true (by decide) ⟨rfl, hzero, fun _ hx => nomatch hx⟩
      | some x =>
          dsimp only
          rw [AreaString.bytes, length_zeroTerminated]
          constructor
          · intro hlong
            refine ⟨rfl, hzero, fun y hy => ?_⟩
            rw [← Option.some.inj hy]
            omega
          · rintro ⟨-, -, hlong⟩
            have := hlong x rfl
            omega

/-- **When the numeric serial number is that of the string alone.** Reading within the string
buffer, and returning the same whatever lies behind it, hold in the same cases: there is no record,
or the buffer has the eight bytes that are copied. -/
theorem v1_serial_number_iff (h : env.asciiStrSize.Documented) (serialNumber : Nat) :
    (CopyInBuffer env serialNumber ↔ ∀ r, env.type1 = .ok r →
      HasEightBytes env.allocated r.strings r.serialNumber) ∧
    (SameForAnyPast env serialNumber ↔ ∀ r, env.type1 = .ok r →
      HasEightBytes env.allocated r.strings r.serialNumber) := by
  cases hrecord : env.type1 with
  | error e =>
      have hrun : ∀ past, dfciIdSupportV1GetSerialNumber env past serialNumber =
          pure (e.1, serialNumber) := fun past => by
        unfold dfciIdSupportV1GetSerialNumber
        rw [hrecord]
      refine ⟨iff_of_true (fun past => ⟨(e.1, serialNumber), ?_⟩) fun r hr => (nomatch hr),
        iff_of_true (fun past past' out out' hout hout' => ?_) fun r hr => (nomatch hr)⟩
      · rw [hrun]
        exact Looking.yields_pure.mpr rfl
      · rw [hrun] at hout hout'
        exact hout.unique hout'
  | ok r =>
      have hall : (∀ r', (Except.ok r : GetNext SmbiosTableType1) = .ok r' →
          HasEightBytes env.allocated r'.strings r'.serialNumber) ↔
          HasEightBytes env.allocated r.strings r.serialNumber :=
        ⟨fun hall => hall r rfl, fun hone r' hr' => Except.ok.inj hr' ▸ hone⟩
      obtain ⟨hcopy, hsame⟩ := copy_iff h hrecord serialNumber
      rw [hall, ← eight_le_buffer_iff]
      exact ⟨hcopy, hsame⟩

/-- "12345678" fills the eight bytes. -/
theorem v1_serial_number_acme :
    CopyInBuffer (acmePlatform 0 2) 0 ∧ SameForAnyPast (acmePlatform 0 2) 0 := by
  have hlong : ∀ r, (acmePlatform 0 2).type1 = .ok r →
      HasEightBytes (acmePlatform 0 2).allocated r.strings r.serialNumber := by
    intro r hr
    cases hr
    refine ⟨rfl, by decide, fun x hx => ?_⟩
    rw [← Option.some.inj hx]
    decide
  have hsize : (acmePlatform 0 2).asciiStrSize.Documented := asciiStrSize_documented
  obtain ⟨hcopy, hsame⟩ := v1_serial_number_iff hsize 0
  exact ⟨hcopy.mpr hlong, hsame.mpr hlong⟩

/-- "Acme" as a serial number does not: three bytes are whatever lies behind the buffer. -/
theorem v1_serial_number_short :
    ¬ ∀ (env : SmbiosEnv), env.asciiStrSize.Documented → env.allocated = true →
      ∀ serialNumber, CopyInBuffer env serialNumber ∧ SameForAnyPast env serialNumber := by
  intro hall
  have hsize : (acmePlatform 0 1).asciiStrSize.Documented := asciiStrSize_documented
  obtain ⟨hcopy, -⟩ := hall (acmePlatform 0 1) hsize rfl 0
  obtain ⟨-, -, hlong⟩ := (v1_serial_number_iff hsize 0).1.mp hcopy _ rfl
  exact absurd (hlong _ rfl) (by decide)

end OemPkg.Smbios
