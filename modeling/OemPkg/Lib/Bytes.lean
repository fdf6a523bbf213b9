/-
# OemPkg.Lib.Bytes — byte buffers, little-endian fields, packed record layouts

A buffer is a list of bytes. `slice off w` reads `w` bytes at offset `off`, `splice off new` writes
`new` there; a write is read back (`slice_splice_self`) and disturbs nothing outside its window
(`slice_splice_disjoint`). On top of them:

* `leBytes w n` / `leNat` — the little-endian bytes of a number of `w` bytes, and back;
* `Layout ι` — a packed record: named fields at pairwise disjoint places inside a fixed size. The
  geometry is part of the structure, so an overlapping layout cannot be built;
* `Layout.Image` — the bytes of one such record. A field that is set reads back (`get_set_self`),
  every other field is as it was (`get_set_ne`);
* `Ram` — memory by address, of which `readRam` reads a stretch.
-/
import Mathlib.Data.Nat.Digits.Defs
import Mathlib.Data.List.Basic
import Mathlib.Tactic.Common

namespace OemPkg.Lib

/-- The contents of a buffer. -/
abbrev Bytes := List UInt8

/-- Exactly `n` bytes. -/
abbrev Block (n : Nat) := { b : Bytes // b.length = n }

/-! ## Windows of a buffer -/

/-- The `w` bytes at offset `off` (fewer when the buffer ends first). -/
def slice (off w : Nat) (b : Bytes) : Bytes := (b.drop off).take w

/-- The buffer with `new` written at offset `off`. -/
def splice (off : Nat) (new b : Bytes) : Bytes :=
  b.take off ++ new ++ b.drop (off + new.length)

theorem length_slice {off w : Nat} {b : Bytes} (h : off + w ≤ b.length) :
    (slice off w b).length = w := by
  simp only [slice, List.length_take, List.length_drop]
  omega

theorem length_splice {off : Nat} {new b : Bytes} (h : off + new.length ≤ b.length) :
    (splice off new b).length = b.length := by
  simp only [splice, List.length_append, List.length_take, List.length_drop]
  omega

theorem getElem?_slice (off w i : Nat) (b : Bytes) :
    (slice off w b)[i]? = if i < w then b[off + i]? else none := by
  simp only [slice, List.getElem?_take, List.getElem?_drop]

theorem getElem?_splice {off : Nat} {new b : Bytes} (h : off ≤ b.length) (i : Nat) :
    (splice off new b)[i]? =
      if i < off then b[i]? else if i < off + new.length then new[i - off]? else b[i]? := by
  have hlen : (b.take off).length = off := by simp [h]
  by_cases h1 : i < off
  · rw [splice, List.append_assoc, List.getElem?_append_left (by omega), List.getElem?_take]
    simp only [h1, if_true]
  · rw [splice, List.append_assoc, List.getElem?_append_right (by omega), hlen]
    by_cases h2 : i < off + new.length
    · rw [List.getElem?_append_left (by omega)]
      simp only [h1, h2, if_true, if_false]
    · rw [List.getElem?_append_right (by omega), List.getElem?_drop]
      simp only [h1, h2, if_false]
      congr 1
      omega

/-- Filling a zeroed buffer from the front: the next write goes right after what is there. -/
theorem splice_append_zeros {off n : Nat} {a new : Bytes} (ha : a.length = off) :
    splice off new (a ++ List.replicate n 0) =
      a ++ new ++ List.replicate (n - new.length) 0 := by
  subst ha
  rw [splice, List.take_left, ← List.drop_drop, List.drop_left, List.drop_replicate]

/-- Two writes side by side are one write. -/
theorem splice_splice_adjacent {off : Nat} {x y b : Bytes} (h : off + x.length ≤ b.length) :
    splice (off + x.length) y (splice off x b) = splice off (x ++ y) b := by
  have hlen : (b.take off ++ x).length = off + x.length := by
    rw [List.length_append, List.length_take, Nat.min_eq_left (by omega)]
  rw [splice, splice, List.take_left' hlen, ← List.drop_drop, List.drop_left' hlen,
    List.drop_drop, splice, List.length_append, Nat.add_assoc]
  simp only [List.append_assoc]

/-- The same write to two buffers that agree on their first `k` bytes. -/
theorem take_splice_congr {k off : Nat} {new b b' : Bytes} (h : off ≤ b.length)
    (h' : off ≤ b'.length) (heq : b.take k = b'.take k) :
    (splice off new b).take k = (splice off new b').take k := by
  apply List.ext_getElem?
  intro i
  have hi := congrArg (fun l => l[i]?) heq
  simp only [List.getElem?_take] at hi
  rw [List.getElem?_take, List.getElem?_take, getElem?_splice h, getElem?_splice h']
  by_cases hk : i < k
  · rw [if_pos hk, if_pos hk] at hi
    rw [hi]
  · rw [if_neg hk, if_neg hk]

/-- What lies below the end of a write. -/
theorem take_splice {off : Nat} {x b : Bytes} (h : off ≤ b.length) :
    (splice off x b).take (off + x.length) = b.take off ++ x := by
  have hlen : (b.take off ++ x).length = off + x.length := by
    rw [List.length_append, List.length_take, Nat.min_eq_left h]
  rw [splice, List.take_left' hlen]

/-- A write is read back. -/
theorem slice_splice_self {off : Nat} (new : Bytes) {b : Bytes} (h : off ≤ b.length) :
    slice off new.length (splice off new b) = new := by
  apply List.ext_getElem?
  intro i
  rw [getElem?_slice, getElem?_splice h]
  by_cases hi : i < new.length
  · rw [if_pos hi, if_neg (by omega), if_pos (by omega)]
    congr 1
    omega
  · rw [if_neg hi, List.getElem?_eq_none (by omega)]

/-- A write leaves a disjoint window as it was. -/
theorem slice_splice_disjoint {off off' w : Nat} {new b : Bytes} (h : off ≤ b.length)
    (hd : off' + w ≤ off ∨ off + new.length ≤ off') :
    slice off' w (splice off new b) = slice off' w b := by
  apply List.ext_getElem?
  intro i
  rw [getElem?_slice, getElem?_slice, getElem?_splice h]
  by_cases hi : i < w
  · rw [if_pos hi, if_pos hi]
    rcases hd with hd | hd
    · rw [if_pos (by omega)]
    · rw [if_neg (by omega), if_neg (by omega)]
  · rw [if_neg hi, if_neg hi]

/-- A read of `w` bytes at `off` from an allocated block: past the end of the block it returns
whatever memory holds there. -/
def readPast (beyond : Nat → UInt8) (b : Bytes) (off w : Nat) : Bytes :=
  (List.range w).map fun i => b.getD (off + i) (beyond (off + i))

@[simp] theorem length_readPast (beyond : Nat → UInt8) (b : Bytes) (off w : Nat) :
    (readPast beyond b off w).length = w := by
  rw [readPast, List.length_map, List.length_range]

/-- A read that stays inside the block returns the block's bytes. -/
theorem readPast_eq_slice {beyond : Nat → UInt8} {b : Bytes} {off w : Nat}
    (h : off + w ≤ b.length) : readPast beyond b off w = slice off w b := by
  apply List.ext_getElem?
  intro i
  rw [getElem?_slice]
  by_cases hi : i < w
  · have hb : off + i < b.length := by omega
    simp [readPast, hi, hb]
  · rw [if_neg hi, List.getElem?_eq_none (by simp [readPast]; omega)]

/-- **A read does not depend on the memory beyond the block** exactly if it stays in the block. -/
theorem readPast_congr_iff {b : Bytes} {w : Nat} (hw : 0 < w) :
    (∀ beyond beyond', readPast beyond b 0 w = readPast beyond' b 0 w) ↔ w ≤ b.length := by
  constructor
  · intro h
    -- the last byte of the window would be the memory's
    have hlast := congrArg (fun l : Bytes => l[w - 1]?) (h (fun _ => 0) (fun _ => 1))
    by_contra hshort
    have hlt : w - 1 < w := by omega
    have hbeyond : b[w - 1]? = none := List.getElem?_eq_none (by omega)
    simp only [readPast, List.getElem?_map, List.getElem?_range hlt, Option.map_some, Nat.zero_add,
      List.getD_eq_getElem?_getD, hbeyond, Option.getD_none] at hlast
    exact absurd (Option.some.inj hlast) (by decide)
  · intro h beyond beyond'
    rw [readPast_eq_slice (by omega), readPast_eq_slice (by omega)]

/-- A window inside a window. -/
theorem slice_slice {off w off' w' : Nat} {b : Bytes} (h : off' + w' ≤ w) :
    slice off' w' (slice off w b) = slice (off + off') w' b := by
  apply List.ext_getElem?
  intro i
  rw [getElem?_slice, getElem?_slice, getElem?_slice]
  by_cases hi : i < w'
  · rw [if_pos hi, if_pos (by omega), if_pos hi, Nat.add_assoc]
  · rw [if_neg hi, if_neg hi]

/-! ## Little-endian numbers -/

/-- The number a little-endian byte sequence stands for. -/
def leNat (b : Bytes) : Nat := Nat.ofDigits 256 (b.map UInt8.toNat)

/-- The `w` little-endian bytes of `n` (its residue modulo `256 ^ w`). -/
def leBytes : (w n : Nat) → Bytes
  | 0, _ => []
  | w + 1, n => UInt8.ofNat (n % 256) :: leBytes w (n / 256)

@[simp] theorem leNat_nil : leNat [] = 0 := rfl

@[simp] theorem leNat_cons (x : UInt8) (b : Bytes) : leNat (x :: b) = x.toNat + 256 * leNat b := by
  simp [leNat, Nat.ofDigits_cons]

@[simp] theorem length_leBytes (w n : Nat) : (leBytes w n).length = w := by
  induction w generalizing n with
  | zero => rfl
  | succ w ih => simp [leBytes, ih]

theorem leNat_leBytes (w : Nat) : ∀ {n : Nat}, n < 256 ^ w → leNat (leBytes w n) = n := by
  induction w with
  | zero => intro n h; simp only [Nat.pow_zero] at h; simp [leBytes]; omega
  | succ w ih =>
      intro n h
      have hdiv : n / 256 < 256 ^ w := by
        rw [Nat.div_lt_iff_lt_mul (by decide)]
        rwa [Nat.pow_succ] at h
      have hmod : (UInt8.ofNat (n % 256)).toNat = n % 256 := by
        simp
      rw [leBytes, leNat_cons, hmod, ih hdiv]
      exact Nat.mod_add_div n 256

theorem leNat_replicate_zero (n : Nat) : leNat (List.replicate n 0) = 0 := by
  induction n with
  | zero => rfl
  | succ n ih => rw [List.replicate_succ, leNat_cons, ih]; rfl

theorem leBytes_leNat (b : Bytes) : leBytes b.length (leNat b) = b := by
  induction b with
  | nil => rfl
  | cons x b ih =>
      have hx := x.toNat_lt
      have hmod : (x.toNat + 256 * leNat b) % 256 = x.toNat := by omega
      have hdiv : (x.toNat + 256 * leNat b) / 256 = leNat b := by omega
      rw [List.length_cons, leBytes, leNat_cons, hmod, hdiv, ih, UInt8.ofNat_toNat]

/-- Numbers of one size have the same bytes if they are the same. -/
theorem leNat_inj {b b' : Bytes} (hlength : b.length = b'.length) :
    leNat b = leNat b' ↔ b = b' := by
  refine ⟨fun h => ?_, fun h => by rw [h]⟩
  rw [← leBytes_leNat b, ← leBytes_leNat b', hlength, h]

/-! ## Packed records -/

/-- A packed record: fields `ι` at fixed places, none overlapping another, all inside `size`. -/
structure Layout (ι : Type*) where
  size : Nat
  offset : ι → Nat
  width : ι → Nat
  fits : ∀ i, offset i + width i ≤ size
  disjoint : ∀ i j, i ≠ j → offset i + width i ≤ offset j ∨ offset j + width j ≤ offset i

namespace Layout

variable {ι : Type*}

/-- The bytes of one record. -/
@[ext] structure Image (L : Layout ι) where
  bytes : Bytes
  length_bytes : bytes.length = L.size

namespace Image

variable {L : Layout ι}

/-- The number in field `i`. -/
def get (m : L.Image) (i : ι) : Nat := leNat (slice (L.offset i) (L.width i) m.bytes)

/-- The record with `n` stored in field `i`. -/
def set (m : L.Image) (i : ι) (n : Nat) : L.Image :=
  ⟨splice (L.offset i) (leBytes (L.width i) n) m.bytes, by
    rw [length_splice, m.length_bytes]
    rw [length_leBytes, m.length_bytes]
    exact L.fits i⟩

/-- The record all of whose bytes are zero. -/
def zero (L : Layout ι) : L.Image := ⟨List.replicate L.size 0, List.length_replicate⟩

/-- The record after `data` has been copied over its first bytes; the rest stays as it was. -/
def copyIn (m : L.Image) (data : Bytes) : L.Image :=
  ⟨data.take L.size ++ m.bytes.drop data.length, by
    have h := m.length_bytes
    simp only [List.length_append, List.length_take, List.length_drop]
    omega⟩

@[simp] theorem get_zero (L : Layout ι) (i : ι) : (zero L).get i = 0 := by
  simp [get, zero, slice, leNat_replicate_zero]

theorem get_set_self {m : L.Image} {i : ι} {n : Nat} (h : n < 256 ^ L.width i) :
    (m.set i n).get i = n := by
  have hoff : L.offset i ≤ m.bytes.length := by
    have := L.fits i
    rw [m.length_bytes]
    omega
  have hread := slice_splice_self (leBytes (L.width i) n) hoff
  rw [length_leBytes] at hread
  rw [get, set, hread, leNat_leBytes _ h]

theorem get_set_ne {m : L.Image} {i j : ι} {n : Nat} (hij : i ≠ j) :
    (m.set i n).get j = m.get j := by
  have hoff : L.offset i ≤ m.bytes.length := by
    have := L.fits i
    rw [m.length_bytes]
    omega
  have hsep : L.offset j + L.width j ≤ L.offset i ∨
      L.offset i + (leBytes (L.width i) n).length ≤ L.offset j := by
    rw [length_leBytes]
    exact (L.disjoint i j hij).symm
  rw [get, set, slice_splice_disjoint hoff hsep, get]

/-- A whole record copied in replaces everything. -/
theorem copyIn_self (m m' : L.Image) : m.copyIn m'.bytes = m' := by
  have h := m.length_bytes
  have h' := m'.length_bytes
  apply Image.ext
  simp only [copyIn]
  rw [List.drop_eq_nil_of_le (by omega), List.append_nil, List.take_of_length_le (by omega)]

/-- So does anything at least as long as a record. -/
theorem copyIn_congr {data : Bytes} (h : L.size ≤ data.length) (m m' : L.Image) :
    m.copyIn data = m'.copyIn data := by
  have hm := m.length_bytes
  have hm' := m'.length_bytes
  apply Image.ext
  simp only [copyIn]
  rw [List.drop_eq_nil_of_le (by omega), List.drop_eq_nil_of_le (by omega)]

/-- The bytes after a copy: the copied ones, and behind them those that were there. -/
theorem getElem?_copyIn {data : Bytes} (h : data.length ≤ L.size) (m : L.Image) (i : Nat) :
    (m.copyIn data).bytes[i]? = if i < data.length then data[i]? else m.bytes[i]? := by
  simp only [copyIn, List.take_of_length_le h]
  by_cases hi : i < data.length
  · rw [List.getElem?_append_left hi, if_pos hi]
  · rw [List.getElem?_append_right (by omega), List.getElem?_drop, if_neg hi]
    congr 1
    omega

end Image

end Layout

/-! ## Memory -/

/-- Memory: the byte at each address. -/
abbrev Ram := Nat → UInt8

/-- The `n` bytes from address `a` on. -/
def readRam (ram : Ram) (a n : Nat) : Bytes := (List.range n).map fun i => ram (a + i)

@[simp] theorem length_readRam (ram : Ram) (a n : Nat) : (readRam ram a n).length = n := by
  simp [readRam]

/-- `n + k` bytes are `n` bytes, and then `k` more. -/
theorem readRam_add (ram : Ram) (a n k : Nat) :
    readRam ram a (n + k) = readRam ram a n ++ readRam ram (a + n) k := by
  simp [readRam, List.range_add, Nat.add_assoc]

/-- The bytes `b` lie at address `a`. -/
def HoldsAt (ram : Ram) (a : Nat) (b : Bytes) : Prop := readRam ram a b.length = b

instance (ram : Ram) (a : Nat) (b : Bytes) : Decidable (HoldsAt ram a b) :=
  inferInstanceAs (Decidable (_ = _))

theorem holdsAt_append {ram : Ram} {a : Nat} {b c : Bytes} :
    HoldsAt ram a (b ++ c) ↔ HoldsAt ram a b ∧ HoldsAt ram (a + b.length) c := by
  unfold HoldsAt
  rw [List.length_append, readRam_add]
  constructor
  · intro h
    exact List.append_inj h (length_readRam _ _ _)
  · rintro ⟨hb, hc⟩
    rw [hb, hc]

theorem holdsAt_cons {ram : Ram} {a : Nat} {x : UInt8} {b : Bytes} :
    HoldsAt ram a (x :: b) ↔ ram a = x ∧ HoldsAt ram (a + 1) b := by
  rw [← List.singleton_append, holdsAt_append]
  simp [HoldsAt, readRam]

/-- A stretch of what lies at an address. -/
theorem HoldsAt.take {ram : Ram} {a : Nat} {b : Bytes} (h : HoldsAt ram a b) {n : Nat}
    (hn : n ≤ b.length) : readRam ram a n = b.take n := by
  have hsplit := h
  rw [← List.take_append_drop n b, holdsAt_append] at hsplit
  have hfirst := hsplit.1
  unfold HoldsAt at hfirst
  rwa [List.length_take, Nat.min_eq_left hn] at hfirst

end OemPkg.Lib
