/-
# OemPkg.Version.VersionStrings — the version and the build date as strings

The model of `MuUefiVersionLib.c`. The firmware version and its build date are PCDs of 32 bits, each
of four bit-fields, that are printed in hexadecimal fields of a template. The length of the string
is predefined, and checked against the template each time.

The two strings differ in their template, length and arguments, and each of them can be had in
Unicode or, through the Unicode function, in ASCII: `getStringUnicode` and `getStringAscii`.
-/
import OemPkg.Uefi.PrintLib
import OemPkg.Uefi.Status

namespace OemPkg.Version

open OemPkg.Uefi

/-! ## Templates and bit-fields -/

/-- VERSION_YY_OFFSET -/
def versionYyOffset : BitVec 32 := 0x2000#32

/-- VERSION_STR_TEMPLATE -/
def versionStrTemplate : List Char := "%03X.%04X.%02X.%02X".toList

/-- VERSION_STR_LENGTH, with the terminator. -/
def versionStrLength : Nat := "GGG.YYYY.WW.RR".length + 1

/-- DATE_STR_TEMPLATE -/
def dateStrTemplate : List Char := "%02X/%02X/%04X".toList

/-- DATE_STR_LENGTH, with the terminator. -/
def dateStrLength : Nat := "MM/DD/YYYY".length + 1

/-- Bit-field `i` of eight bits, the lowest first, promoted to 32 bits. -/
def bitField (raw : BitVec 32) (i : Nat) : BitVec 32 := (raw.extractLsb' (8 * i) 8).setWidth 32

/-- OEM_BUILD_ID_VER -/
structure OemBuildIdVer where
  raw : BitVec 32

namespace OemBuildIdVer

def revisionBCD (ver : OemBuildIdVer) : BitVec 32 := bitField ver.raw 0
def workweekBCD (ver : OemBuildIdVer) : BitVec 32 := bitField ver.raw 1
def yearBCD (ver : OemBuildIdVer) : BitVec 32 := bitField ver.raw 2
def generationBCD (ver : OemBuildIdVer) : BitVec 32 := bitField ver.raw 3

/-- The arguments for the template. -/
def args (ver : OemBuildIdVer) : List (BitVec 32) :=
  [ver.generationBCD, ver.yearBCD ||| versionYyOffset, ver.workweekBCD, ver.revisionBCD]

end OemBuildIdVer

/-- OEM_BUILD_DATE_VER -/
structure OemBuildDateVer where
  raw : BitVec 32

namespace OemBuildDateVer

def dayBCD (date : OemBuildDateVer) : BitVec 32 := bitField date.raw 0
def monthBCD (date : OemBuildDateVer) : BitVec 32 := bitField date.raw 1
def yearBCD (date : OemBuildDateVer) : BitVec 32 := bitField date.raw 2

/-- The arguments for the template. -/
def args (date : OemBuildDateVer) : List (BitVec 32) :=
  [date.monthBCD, date.dayBCD, date.yearBCD ||| versionYyOffset]

end OemBuildDateVer

/-! ## The functions -/

/-- What a function leaves: Buffer and `*Length`, where they are not NULL, and whether the ASSERT
held, if it was reached. -/
structure StringOutcome (α : Type) where
  status : EfiStatus
  buffer : Option (List α)
  length : Option Nat
  asserted : Bool

/-- Write to the start of a buffer. -/
def overwrite {α : Type} (written buffer : List α) : List α := written ++ buffer.drop written.length

/-- What each function does first. A Length that is not NULL is always set, at Cleanup. -/
def checkLength {α : Type} (strLength : Nat) (buffer : Option (List α)) (length : Option Nat)
    (enough : Nat → StringOutcome α) : StringOutcome α :=
  match length with
  | none => ⟨efiInvalidParameter, buffer, none, true⟩
  | some n =>
      if n ≠ 0 ∧ buffer.isNone then ⟨efiInvalidParameter, buffer, some strLength, true⟩
      else if n < strLength then ⟨efiBufferTooSmall, buffer, some strLength, true⟩
      else enough n

section Functions

variable (lib : PrintLib)

/-- VerifyStringLength: the length, and whether the ASSERT holds. -/
def verifyStringLength (targetLength : Nat) (template : List Char) (args : List (BitVec 32)) :
    Nat × Bool :=
  let length := lib.sPrintLength template args + 1
  (length, length == targetLength)

/-- The Unicode function for a template. -/
def getStringUnicode (strLength : Nat) (template : List Char) (args : List (BitVec 32))
    (buffer : Option (List UInt16)) (length : Option Nat) : StringOutcome UInt16 :=
  checkLength strLength buffer length fun _ =>
    let verified := verifyStringLength lib strLength template args
    if verified.1 ≠ strLength then ⟨efiBadBufferSize, buffer, some strLength, verified.2⟩
    else
      ⟨efiSuccess, buffer.map (overwrite (lib.unicodeSPrint (strLength * 2) template args)),
        some strLength, verified.2⟩

/-- The ASCII function over a Unicode function. `uniBuffer` is the uninitialised local buffer. -/
def getStringAscii (strLength : Nat)
    (unicode : Option (List UInt16) → Option Nat → StringOutcome UInt16) (uniBuffer : List UInt16)
    (buffer : Option (List UInt8)) (length : Option Nat) : StringOutcome UInt8 :=
  checkLength strLength buffer length fun n =>
    let got := unicode (some uniBuffer) (some n)
    if efiError got.status then ⟨got.status, buffer, some strLength, got.asserted⟩
    else
      -- the Unicode function has set `*Length`
      let ascii := lib.unicodeStrToAsciiStrS (got.buffer.getD []) (got.length.getD 0)
      ⟨efiSuccess, buffer.map (overwrite ascii), some strLength, got.asserted⟩

/-- GetUefiVersionNumber -/
def getUefiVersionNumber (pcdUefiVersionNumber : BitVec 32) : BitVec 32 := pcdUefiVersionNumber

/-- GetUefiVersionStringUnicode -/
def getUefiVersionStringUnicode (pcdUefiVersionNumber : BitVec 32) :
    Option (List UInt16) → Option Nat → StringOutcome UInt16 :=
  getStringUnicode lib versionStrLength versionStrTemplate
    (OemBuildIdVer.args ⟨getUefiVersionNumber pcdUefiVersionNumber⟩)

/-- GetUefiVersionStringAscii -/
def getUefiVersionStringAscii (pcdUefiVersionNumber : BitVec 32) :
    List UInt16 → Option (List UInt8) → Option Nat → StringOutcome UInt8 :=
  getStringAscii lib versionStrLength (getUefiVersionStringUnicode lib pcdUefiVersionNumber)

/-- GetBuildDateStringUnicode -/
def getBuildDateStringUnicode (pcdUefiBuildDate : BitVec 32) :
    Option (List UInt16) → Option Nat → StringOutcome UInt16 :=
  getStringUnicode lib dateStrLength dateStrTemplate (OemBuildDateVer.args ⟨pcdUefiBuildDate⟩)

/-- GetBuildDateStringAscii -/
def getBuildDateStringAscii (pcdUefiBuildDate : BitVec 32) :
    List UInt16 → Option (List UInt8) → Option Nat → StringOutcome UInt8 :=
  getStringAscii lib dateStrLength (getBuildDateStringUnicode lib pcdUefiBuildDate)

end Functions

/-! ## One string -/

/-- The two functions give the string `s` to a caller who has room for it, whatever the buffers
held, and never find that the template and the predefined length do not match. -/
structure GivesString (strLength : Nat)
    (unicode : Option (List UInt16) → Option Nat → StringOutcome UInt16)
    (ascii : List UInt16 → Option (List UInt8) → Option Nat → StringOutcome UInt8)
    (s : List UInt16) : Prop where
  width : s.length + 1 = strLength
  nonzero : ∀ c ∈ s, c ≠ 0
  unicode_enough : ∀ mem n, strLength ≤ n → unicode (some mem) (some n) =
    ⟨efiSuccess, some (s ++ 0 :: mem.drop strLength), some strLength, true⟩
  ascii_enough : ∃ t : List UInt8, t.map UInt8.toUInt16 = s ∧ ∀ uniBuffer mem n, strLength ≤ n →
    ascii uniBuffer (some mem) (some n) =
      ⟨efiSuccess, some (t ++ 0 :: mem.drop strLength), some strLength, true⟩
  unicode_matches : ∀ buffer length, (unicode buffer length).asserted = true ∧
    (unicode buffer length).status ≠ efiBadBufferSize
  ascii_matches : ∀ uniBuffer buffer length, (ascii uniBuffer buffer length).asserted = true ∧
    (ascii uniBuffer buffer length).status ≠ efiBadBufferSize

section Checks

variable {α : Type} {strLength : Nat} {buffer : Option (List α)} {length : Option Nat}
  {enough enough' : Nat → StringOutcome α}

theorem checkLength_enough {mem : List α} {n : Nat} (hn : strLength ≤ n) :
    checkLength strLength (some mem) (some n) enough = enough n := by
  have hbuffer : ¬ (n ≠ 0 ∧ (some mem).isNone = true) := fun h => Bool.false_ne_true h.2
  show (if _ then _ else _) = enough n
  rw [if_neg hbuffer, if_neg (Nat.not_lt.mpr hn)]

theorem checkLength_congr (h : ∀ n, strLength ≤ n → enough n = enough' n) :
    checkLength strLength buffer length enough = checkLength strLength buffer length enough' := by
  unfold checkLength
  cases length with
  | none => rfl
  | some n =>
      dsimp only
      split_ifs with _ hshort
      · rfl
      · rfl
      · exact h n (Nat.not_lt.mp hshort)

/-- Neither check is about the template. -/
theorem checkLength_matches
    (h : ∀ n, (enough n).asserted = true ∧ (enough n).status ≠ efiBadBufferSize) :
    (checkLength strLength buffer length enough).asserted = true ∧
      (checkLength strLength buffer length enough).status ≠ efiBadBufferSize := by
  unfold checkLength
  cases length with
  | none => exact ⟨rfl, invalidParameter_ne_badBufferSize⟩
  | some n =>
      dsimp only
      split_ifs
      · exact ⟨rfl, invalidParameter_ne_badBufferSize⟩
      · exact ⟨rfl, bufferTooSmall_ne_badBufferSize⟩
      · exact h n

end Checks

section Strings

variable {lib : PrintLib} {strLength : Nat} {template : List Char} {ds : List Directive}
  {args : List (BitVec 32)} {s : List UInt16}

theorem overwrite_string {α : Type} {t mem : List α} (zero : α) (ht : t.length + 1 = strLength) :
    overwrite (t ++ [zero]) mem = t ++ zero :: mem.drop strLength := by
  rw [overwrite, List.length_append, List.length_singleton, ht, List.append_assoc,
    List.singleton_append]

/-- The Unicode function, where the template gives strings of the predefined length. -/
theorem getStringUnicode_eq (h : lib.Documented) (hs : formatString template args = some s)
    (hwidth : s.length + 1 = strLength) (hmax : strLength ≤ maximumStringLength)
    (buffer : Option (List UInt16)) (length : Option Nat) :
    getStringUnicode lib strLength template args buffer length =
      checkLength strLength buffer length fun _ =>
        ⟨efiSuccess, buffer.map (overwrite (s ++ [0])), some strLength, true⟩ := by
  have hlen : lib.sPrintLength template args = s.length := h.length template args s hs (by omega)
  have hverified : verifyStringLength lib strLength template args = (strLength, true) := by
    rw [verifyStringLength, hlen, hwidth, beq_self_eq_true]
  have hprint : lib.unicodeSPrint (strLength * 2) template args = s ++ [0] := by
    have hcut : strLength * 2 / 2 - 1 = s.length := by omega
    rw [h.print _ template args s hs (by omega) (by omega), hcut, List.take_length]
  apply checkLength_congr
  intro n hn
  dsimp only
  rw [hverified, hprint, if_neg (not_not_intro rfl)]

theorem zero_lt_of_printable {c : UInt16} (hc : 32 ≤ c ∧ c ≤ 126) : 0 < c ∧ c < 256 :=
  ⟨UInt16.lt_of_lt_of_le (by decide) hc.1, UInt16.lt_of_le_of_lt hc.2 (by decide)⟩

/-- The ASCII function, likewise. -/
theorem getStringAscii_eq (h : lib.Documented) (hs : formatString template args = some s)
    (hchars : ∀ c ∈ s, 0 < c ∧ c < 256) (hwidth : s.length + 1 = strLength)
    (hmax : strLength ≤ maximumStringLength) (uniBuffer : List UInt16)
    (buffer : Option (List UInt8)) (length : Option Nat) :
    getStringAscii lib strLength (getStringUnicode lib strLength template args) uniBuffer buffer
        length =
      checkLength strLength buffer length fun _ =>
        ⟨efiSuccess, buffer.map (overwrite (s.map UInt16.toUInt8 ++ [0])), some strLength,
          true⟩ := by
  apply checkLength_congr
  intro n hn
  have hgot : getStringUnicode lib strLength template args (some uniBuffer) (some n) =
      ⟨efiSuccess, some (s ++ 0 :: uniBuffer.drop strLength), some strLength, true⟩ := by
    rw [getStringUnicode_eq h hs hwidth hmax, checkLength_enough hn, Option.map_some,
      overwrite_string 0 hwidth]
  have hascii : lib.unicodeStrToAsciiStrS (s ++ 0 :: uniBuffer.drop strLength) strLength =
      s.map UInt16.toUInt8 ++ [0] := h.convert s _ strLength hchars (by omega) hmax
  rw [hgot]
  dsimp only
  rw [efiError_success, if_neg Bool.false_ne_true, Option.getD_some, Option.getD_some, hascii]

/-- **One string for both functions**, if its characters are those of ASCII. -/
theorem givesString_of_format (h : lib.Documented) (hs : formatString template args = some s)
    (hchars : ∀ c ∈ s, 0 < c ∧ c < 256) (hwidth : s.length + 1 = strLength)
    (hmax : strLength ≤ maximumStringLength) :
    GivesString strLength (getStringUnicode lib strLength template args)
      (getStringAscii lib strLength (getStringUnicode lib strLength template args)) s := by
  constructor
  · exact hwidth
  · exact fun c hc => (UInt16.ne_of_lt (hchars c hc).1).symm
  · intro mem n hn
    rw [getStringUnicode_eq h hs hwidth hmax, checkLength_enough hn, Option.map_some,
      overwrite_string 0 hwidth]
  · refine ⟨s.map UInt16.toUInt8, ?_, fun uniBuffer mem n hn => ?_⟩
    · rw [List.map_map]
      calc s.map (UInt8.toUInt16 ∘ UInt16.toUInt8) = s.map id :=
            List.map_congr_left fun c hc => UInt16.mod_eq_of_lt (hchars c hc).2
        _ = s := List.map_id s
    · rw [getStringAscii_eq h hs hchars hwidth hmax, checkLength_enough hn, Option.map_some,
        overwrite_string 0 (by rw [List.length_map, hwidth])]
  · intro buffer length
    rw [getStringUnicode_eq h hs hwidth hmax]
    exact checkLength_matches fun n => ⟨rfl, success_ne_badBufferSize⟩
  · intro uniBuffer buffer length
    rw [getStringAscii_eq h hs hchars hwidth hmax]
    exact checkLength_matches fun n => ⟨rfl, success_ne_badBufferSize⟩

end Strings

/-! ## The fields -/

/-- `.` -/
def dot : Printable := ⟨46, by decide⟩

/-- `/` -/
def slash : Printable := ⟨47, by decide⟩

def versionDirectives : List Directive :=
  [.hex 3, .text dot, .hex 4, .text dot, .hex 2, .text dot, .hex 2]

def dateDirectives : List Directive :=
  [.hex 2, .text slash, .hex 2, .text slash, .hex 4]

theorem parse_versionStrTemplate : parseTemplate versionStrTemplate = some versionDirectives := by
  decide

theorem parse_dateStrTemplate : parseTemplate dateStrTemplate = some dateDirectives := by decide

theorem toNat_bitField (raw : BitVec 32) (i : Nat) :
    (bitField raw i).toNat = raw.toNat / 2 ^ (8 * i) % 256 := by
  have hlt : raw.toNat / 2 ^ (8 * i) % 256 < 4294967296 := by omega
  rw [bitField, BitVec.toNat_setWidth, BitVec.extractLsb'_toNat, Nat.shiftRight_eq_div_pow]
  exact Nat.mod_eq_of_lt hlt

theorem toNat_bitField_lt (raw : BitVec 32) (i : Nat) : (bitField raw i).toNat < 256 := by
  rw [toNat_bitField]
  exact Nat.mod_lt _ (by omega)

theorem toNat_bitField_zero (raw : BitVec 32) : (bitField raw 0).toNat = raw.toNat % 256 := by
  rw [toNat_bitField, Nat.mul_zero, Nat.pow_zero, Nat.div_one]

theorem toNat_bitField_one (raw : BitVec 32) : (bitField raw 1).toNat = raw.toNat / 256 % 256 :=
  toNat_bitField raw 1

/-- The offset is above the bits of a year, so that the OR adds it. -/
theorem toNat_yearWithOffset (raw : BitVec 32) :
    (bitField raw 2 ||| versionYyOffset).toNat = 8192 + raw.toNat / 65536 % 256 := by
  have hor := Nat.two_pow_add_eq_or_of_lt (i := 13) (b := raw.toNat / 65536 % 256) (by omega) 1
  rw [BitVec.toNat_or, toNat_bitField, Nat.or_comm]
  exact hor.symm

theorem toNat_generationBCD (raw : BitVec 32) :
    (bitField raw 3).toNat = raw.toNat / 16777216 := by
  have hlt := raw.isLt
  rw [toNat_bitField]
  omega

theorem yearWithOffset_lt (raw : BitVec 32) :
    (bitField raw 2 ||| versionYyOffset).toNat < 65536 := by
  rw [toNat_yearWithOffset]
  omega

theorem fits_version (raw : BitVec 32) : Fits versionDirectives (OemBuildIdVer.args ⟨raw⟩) := by
  have hgeneration : (bitField raw 3).toNat < 4096 :=
    Nat.lt_of_lt_of_le (toNat_bitField_lt raw 3) (by omega)
  exact ⟨hgeneration, yearWithOffset_lt raw, toNat_bitField_lt raw 1, toNat_bitField_lt raw 0, rfl⟩

theorem fits_date (raw : BitVec 32) : Fits dateDirectives (OemBuildDateVer.args ⟨raw⟩) :=
  ⟨toNat_bitField_lt raw 1, toNat_bitField_lt raw 0, yearWithOffset_lt raw, rfl⟩

/-- Compare by the first argument, then by the others. -/
theorem lex_cons_of_le {x y : BitVec 32} {xs ys : List (BitVec 32)} (hle : x.toNat ≤ y.toNat)
    (h : x.toNat = y.toNat → List.Lex (· < ·) xs ys) : List.Lex (· < ·) (x :: xs) (y :: ys) := by
  rcases Nat.lt_or_eq_of_le hle with hlt | heq
  · exact List.Lex.rel (BitVec.lt_def.mpr hlt)
  · rw [BitVec.eq_of_toNat_eq heq]
    exact List.Lex.cons (h heq)

/-- **The arguments of a template are in the order of the version numbers**, the highest field
first. -/
theorem version_args_lex {a b : BitVec 32} (h : a < b) :
    List.Lex (· < ·) (OemBuildIdVer.args ⟨a⟩) (OemBuildIdVer.args ⟨b⟩) := by
  have hlt : a.toNat < b.toNat := BitVec.lt_def.mp h
  show List.Lex (· < ·) [bitField a 3, bitField a 2 ||| versionYyOffset, bitField a 1, bitField a 0]
    [bitField b 3, bitField b 2 ||| versionYyOffset, bitField b 1, bitField b 0]
  apply lex_cons_of_le
  · rw [toNat_generationBCD, toNat_generationBCD]
    omega
  intro hgeneration
  rw [toNat_generationBCD, toNat_generationBCD] at hgeneration
  apply lex_cons_of_le
  · rw [toNat_yearWithOffset, toNat_yearWithOffset]
    omega
  intro hyear
  rw [toNat_yearWithOffset, toNat_yearWithOffset] at hyear
  apply lex_cons_of_le
  · rw [toNat_bitField_one, toNat_bitField_one]
    omega
  intro hweek
  rw [toNat_bitField_one, toNat_bitField_one] at hweek
  apply List.Lex.rel
  rw [BitVec.lt_def, toNat_bitField_zero, toNat_bitField_zero]
  omega

/-- The version number with these fields. -/
def versionOfFields : List Nat → Option (BitVec 32)
  | [generation, year, workweek, revision] =>
      some (BitVec.ofNat 32
        (generation * 0x1000000 + (year - 0x2000) * 0x10000 + workweek * 0x100 + revision))
  | _ => none

/-- The date with these fields, of 24 bits. -/
def dateOfFields : List Nat → Option (BitVec 24)
  | [month, day, year] =>
      some (BitVec.ofNat 24 ((year - 0x2000) * 0x10000 + month * 0x100 + day))
  | _ => none

theorem versionOfFields_args (raw : BitVec 32) :
    versionOfFields ((OemBuildIdVer.args ⟨raw⟩).map BitVec.toNat) = some raw := by
  have hraw := raw.isLt
  show some (BitVec.ofNat 32 ((bitField raw 3).toNat * 16777216 +
    ((bitField raw 2 ||| versionYyOffset).toNat - 8192) * 65536 + (bitField raw 1).toNat * 256 +
      (bitField raw 0).toNat)) = some raw
  rw [toNat_generationBCD, toNat_yearWithOffset, toNat_bitField_one, toNat_bitField_zero]
  congr 1
  apply BitVec.eq_of_toNat_eq
  rw [BitVec.toNat_ofNat]
  omega

theorem dateOfFields_args (raw : BitVec 32) :
    dateOfFields ((OemBuildDateVer.args ⟨raw⟩).map BitVec.toNat) = some (raw.setWidth 24) := by
  show some (BitVec.ofNat 24 (((bitField raw 2 ||| versionYyOffset).toNat - 8192) * 65536 +
    (bitField raw 1).toNat * 256 + (bitField raw 0).toNat)) = _
  rw [toNat_yearWithOffset, toNat_bitField_one, toNat_bitField_zero]
  congr 1
  apply BitVec.eq_of_toNat_eq
  rw [BitVec.toNat_ofNat, BitVec.toNat_setWidth]
  omega

/-! ## Both strings -/

/-- Read a version number off its string, by the template. -/
def readVersion (s : List UInt16) : Option (BitVec 32) :=
  ((parseTemplate versionStrTemplate).bind (readFields · s)).bind versionOfFields

/-- Read a date off its string, by the template. -/
def readDate (s : List UInt16) : Option (BitVec 24) :=
  ((parseTemplate dateStrTemplate).bind (readFields · s)).bind dateOfFields

/-- **A template with arguments that fit**, one narrower than the predefined length. -/
theorem givesString_of_fits {lib : PrintLib} (h : lib.Documented) {template : List Char}
    {ds : List Directive} (hparse : parseTemplate template = some ds) {args : List (BitVec 32)}
    (hfits : Fits ds args) {strLength : Nat} (hwidth : formatWidth ds + 1 = strLength)
    (hmax : strLength ≤ maximumStringLength) :
    ∃ s, format ds args = some s ∧ readFields ds s = some (args.map BitVec.toNat) ∧
      GivesString strLength (getStringUnicode lib strLength template args)
        (getStringAscii lib strLength (getStringUnicode lib strLength template args)) s := by
  obtain ⟨s, hs, hlen, hread⟩ := format_of_fits hfits
  have hstring : formatString template args = some s := by
    rw [formatString, hparse, Option.bind_some, hs]
  have hchars : ∀ c ∈ s, 0 < c ∧ c < 256 := fun c hc =>
    zero_lt_of_printable (printable_of_mem_format hs c hc)
  refine ⟨s, hs, hread, givesString_of_format h hstring hchars ?_ hmax⟩
  rw [hlen, hwidth]

/-- The version string. -/
theorem version_string {lib : PrintLib} (h : lib.Documented) (version : BitVec 32) :
    ∃ s, format versionDirectives (OemBuildIdVer.args ⟨version⟩) = some s ∧
      readVersion s = some version ∧
      GivesString versionStrLength (getUefiVersionStringUnicode lib version)
        (getUefiVersionStringAscii lib version) s := by
  have hwidth : formatWidth versionDirectives + 1 = versionStrLength := rfl
  obtain ⟨s, hs, hread, hgives⟩ := givesString_of_fits h parse_versionStrTemplate
    (fits_version version) hwidth (by decide)
  refine ⟨s, hs, ?_, hgives⟩
  rw [readVersion, parse_versionStrTemplate, Option.bind_some, hread, Option.bind_some,
    versionOfFields_args]

/-- **Version and date strings are fixed-width and faithful.** For every version number and every
build date there is one string that both functions give to a caller with a length that is enough,
of the predefined length with its terminator; the version number can be read off its string again,
and the low 24 bits of the date off its own; and the strings of version numbers are in their
order. -/
theorem version_and_date_strings {lib : PrintLib} (h : lib.Documented) :
    (∃ str : BitVec 32 → List UInt16,
      (∀ version, GivesString versionStrLength (getUefiVersionStringUnicode lib version)
          (getUefiVersionStringAscii lib version) (str version) ∧
        readVersion (str version) = some version) ∧
      ∀ a b, a < b → List.Lex (· < ·) (str a) (str b)) ∧
    ∀ date, ∃ s, GivesString dateStrLength (getBuildDateStringUnicode lib date)
        (getBuildDateStringAscii lib date) s ∧
      readDate s = some (date.setWidth 24) := by
  constructor
  · choose str hformat hread hgives using version_string h
    refine ⟨str, fun version => ⟨hgives version, hread version⟩, fun a b hab => ?_⟩
    exact format_lex (fits_version a) (fits_version b) (hformat a) (hformat b)
      (version_args_lex hab)
  · intro date
    have hwidth : formatWidth dateDirectives + 1 = dateStrLength := rfl
    obtain ⟨s, -, hread, hgives⟩ := givesString_of_fits h parse_dateStrTemplate
      (fits_date date) hwidth (by decide)
    refine ⟨s, hgives, ?_⟩
    rw [readDate, parse_dateStrTemplate, Option.bind_some, hread, Option.bind_some,
      dateOfFields_args]

theorem version_and_date_strings_direct :
    ∃ s, GivesString 15 (getUefiVersionStringUnicode directPrintLib 0x01260502#32)
        (getUefiVersionStringAscii directPrintLib 0x01260502#32) s ∧
      readVersion s = some 0x01260502#32 := by
  obtain ⟨⟨str, hstr, -⟩, -⟩ := version_and_date_strings directPrintLib_documented
  exact ⟨str 0x01260502#32, hstr 0x01260502#32⟩

example : (getUefiVersionStringUnicode directPrintLib 0x01260502#32 (some []) (some 20)).buffer =
    some ("001.2026.05.02".toList.map (fun c => UInt16.ofNat c.toNat) ++ [0]) := by decide

end OemPkg.Version
