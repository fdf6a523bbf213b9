/-
# OemPkg.Smbios.StringArea — the strings behind an SMBIOS record

The strings of a record follow it in memory, one behind the other, each with its zero and one more
zero behind the last; the record itself holds their numbers, from 1 on, and 0 for no string. Two
functions of the source look a string up by its number, both with the loop of `lookupRound`.
`lookup_yields` says where that loop ends, for every area and every number.
-/
import OemPkg.Lib.Strings
import OemPkg.Uefi.Status

namespace OemPkg.Smbios

open OemPkg.Lib OemPkg.Uefi

/-! ## Areas -/

/-- Characters with a zero behind them. -/
def zeroTerminated (chars : Bytes) : Bytes := chars ++ [0]

/-- A string of an area: it is not empty, and has no zero in it. -/
structure AreaString where
  chars : Bytes
  nonempty : chars ≠ []
  nonzero : 0 ∉ chars

/-- The string with its zero. -/
def AreaString.bytes (s : AreaString) : Bytes := zeroTerminated s.chars

/-- The strings of an area in memory: two zeros if there is none. -/
def areaBytes (strings : List AreaString) : Bytes :=
  if strings.isEmpty then [0, 0] else strings.flatMap AreaString.bytes ++ [0]

/-- String number `index`, if there is one. -/
def stringAt (strings : List AreaString) (index : UInt8) : Option AreaString :=
  strings[index.toNat - 1]?

/-! ## Records -/

/-- SMBIOS_TABLE_TYPE1 with the strings behind it. -/
structure SmbiosTableType1 where
  manufacturer : UInt8
  productName : UInt8
  serialNumber : UInt8
  uuid : Block 16
  strings : List AreaString

/-- SMBIOS_TABLE_TYPE3 with the strings behind it. -/
structure SmbiosTableType3 where
  serialNumber : UInt8
  assetTag : UInt8
  strings : List AreaString

/-- What SmbiosProtocol->GetNext answers: an error, or a record. -/
abbrev GetNext (ρ : Type) := Except { s : EfiStatus // efiError s = true } ρ

/-! ## The loop -/

/-- AsciiStrSize, on a block, the memory beyond it and an offset. -/
abbrev AsciiStrSize := (Nat → UInt8) → Bytes → Nat → Looking Nat

/-- What is documented about it: the size of the string with its zero, up to which it looks. -/
def AsciiStrSize.Documented (asciiStrSize : AsciiStrSize) : Prop :=
  ∀ beyond b p n, (asciiStrSize beyond b p).Yields n ↔ ∃ k, Terminated 1 b p k ∧ n = k + 1

/-- The locals of the loop: OptionalStrStart as an offset into the area, Index and StrSize. -/
structure Lookup where
  optionalStrStart : Nat
  index : UInt8
  strSize : Nat

section Loop

variable (asciiStrSize : AsciiStrSize) (beyond : Nat → UInt8) (b : Bytes)

/-- A round: on to the next string, and is it the last one or the one looked for? -/
def lookupRound (s : Lookup) : Looking (Round Lookup Lookup) := do
  let index := s.index - 1
  let optionalStrStart := s.optionalStrStart + s.strSize
  let strSize ← asciiStrSize beyond b optionalStrStart
  let next ← Looking.read beyond b (optionalStrStart + strSize) 1
  let s' : Lookup := ⟨optionalStrStart, index, strSize⟩
  pure (if leNat next ≠ 0 ∧ index ≠ 0 then .next s' else .done s')

/-- The loop, from the start of the area. -/
def lookup (index : UInt8) : Looking Lookup :=
  Looking.loop (lookupRound asciiStrSize beyond b) ⟨0, index, 0⟩

end Loop

/-! ## Where it ends -/

theorem charAt_one {b : Bytes} {p j : Nat} {c : UInt8} (h : b[p + j]? = some c) :
    charAt 1 b p j = c.toNat := by
  obtain ⟨hlt, rfl⟩ := List.getElem?_eq_some_iff.mp h
  have hslice : slice (p + 1 * j) 1 b = [b[p + j]] := by
    rw [Nat.one_mul, slice, List.drop_eq_getElem_cons hlt]
    rfl
  rw [charAt, hslice, leNat_cons, leNat_nil, Nat.mul_zero, Nat.add_zero]

theorem length_zeroTerminated (chars : Bytes) :
    (zeroTerminated chars).length = chars.length + 1 := by
  rw [zeroTerminated, List.length_append, List.length_singleton]

/-- A string in the middle of a block. -/
theorem terminated_string (pre rest : Bytes) {chars : Bytes} (hchars : 0 ∉ chars) :
    Terminated 1 (pre ++ (zeroTerminated chars ++ rest)) pre.length chars.length := by
  have hread : ∀ j, j ≤ chars.length →
      (pre ++ (zeroTerminated chars ++ rest))[pre.length + j]? = (zeroTerminated chars)[j]? :=
    fun j hj => by
      rw [List.getElem?_append_right (Nat.le_add_right _ _), Nat.add_sub_cancel_left,
        List.getElem?_append_left (by rw [length_zeroTerminated]; omega)]
  refine ⟨?_, fun j hj => ?_, ?_⟩
  · rw [List.length_append, List.length_append, length_zeroTerminated]
    omega
  · have hchar : (zeroTerminated chars)[j]? = some chars[j] := by
      rw [zeroTerminated, List.getElem?_append_left hj, List.getElem?_eq_getElem hj]
    rw [charAt_one ((hread j hj.le).trans hchar)]
    intro hzero
    have hmem : chars[j] ∈ chars := List.getElem_mem hj
    rw [UInt8.toNat_inj.mp (hzero.trans UInt8.toNat_zero.symm)] at hmem
    exact hchars hmem
  · have hchar : (zeroTerminated chars)[chars.length]? = some 0 := by
      rw [zeroTerminated, List.getElem?_append_right (le_refl _), Nat.sub_self]
      rfl
    rw [charAt_one ((hread _ (le_refl _)).trans hchar)]
    rfl

/-- What lies behind a string: the first character of the next one, or the zero of the area. -/
theorem slice_behind (pre rest chars : Bytes) (c : UInt8) :
    slice (pre.length + (chars.length + 1)) 1 (pre ++ (zeroTerminated chars ++ c :: rest)) =
      [c] := by
  rw [slice, ← List.drop_drop, List.drop_left, ← length_zeroTerminated, List.drop_left]
  rfl

/-- The string itself. -/
theorem slice_string (pre rest chars : Bytes) :
    slice pre.length (chars.length + 1) (pre ++ (zeroTerminated chars ++ rest)) =
      zeroTerminated chars := by
  rw [slice, List.drop_left, ← length_zeroTerminated, List.take_left]

theorem string_inside (pre rest chars : Bytes) :
    pre.length + (chars.length + 1) ≤ (pre ++ (zeroTerminated chars ++ rest)).length := by
  rw [List.length_append, List.length_append, length_zeroTerminated]
  omega

section Loop

variable {asciiStrSize : AsciiStrSize} (h : asciiStrSize.Documented) (beyond : Nat → UInt8)

include h in
/-- A round at a string. -/
theorem yields_lookupRound {s : Lookup} {pre : Bytes} (rest : Bytes) {chars : Bytes} (c : UInt8)
    (hchars : 0 ∉ chars) (hs : s.optionalStrStart + s.strSize = pre.length) :
    (lookupRound asciiStrSize beyond (pre ++ (zeroTerminated chars ++ c :: rest)) s).Yields
      (if c ≠ 0 ∧ s.index - 1 ≠ 0 then .next ⟨pre.length, s.index - 1, chars.length + 1⟩
        else .done ⟨pre.length, s.index - 1, chars.length + 1⟩) := by
  have hsize : (asciiStrSize beyond (pre ++ (zeroTerminated chars ++ c :: rest))
      pre.length).Yields (chars.length + 1) :=
    (h _ _ _ _).mpr ⟨_, terminated_string pre _ hchars, rfl⟩
  have hroom : pre.length + (chars.length + 1) + 1 ≤
      (pre ++ (zeroTerminated chars ++ c :: rest)).length := by
    rw [List.length_append, List.length_append, length_zeroTerminated, List.length_cons]
    omega
  have hzero : leNat [c] ≠ 0 ↔ c ≠ 0 := by
    rw [leNat_cons, leNat_nil, Nat.mul_zero, Nat.add_zero, ne_eq, ne_eq, ← UInt8.toNat_zero,
      UInt8.toNat_inj]
  unfold lookupRound
  rw [hs]
  refine Looking.yields_bind.mpr ⟨_, hsize, Looking.yields_bind.mpr ⟨[c], ?_, ?_⟩⟩
  · exact (Looking.yields_read Nat.one_pos).mpr ⟨hroom, (slice_behind pre rest chars c).symm⟩
  · apply Looking.yields_pure.mpr
    simp only [hzero]

/-- The loop has found string `x`, or has come to the last string before the number was used up. -/
def Lookup.Finds (s : Lookup) (b : Bytes) : Option AreaString → Prop
  | some x => s.index = 0 ∧ s.strSize = x.chars.length + 1 ∧
      s.optionalStrStart + s.strSize ≤ b.length ∧ slice s.optionalStrStart s.strSize b = x.bytes
  | none => s.index ≠ 0

/-- What follows the strings `xs` starts with a character of the next one, or is the last zero. -/
theorem exists_cons_rest (xs : List AreaString) :
    ∃ c rest, xs.flatMap AreaString.bytes ++ [0] = c :: rest ∧ (c = 0 ↔ xs = []) := by
  cases xs with
  | nil => exact ⟨0, [], rfl, iff_of_true rfl rfl⟩
  | cons y ys =>
      obtain ⟨c, cs, hchars⟩ := List.exists_cons_of_ne_nil y.nonempty
      refine ⟨c, cs ++ [0] ++ ys.flatMap AreaString.bytes ++ [0], ?_, ?_⟩
      · rw [List.flatMap_cons, AreaString.bytes, zeroTerminated, hchars]
        simp only [List.cons_append, List.append_assoc]
      · refine iff_of_false (fun hzero => y.nonzero ?_) (List.cons_ne_nil y ys)
        rw [hchars, ← hzero]
        exact List.mem_cons_self

theorem toNat_sub_one {index : UInt8} (hindex : index ≠ 0) :
    (index - 1).toNat = index.toNat - 1 := by
  have hpos : 1 ≤ index.toNat := by
    rcases Nat.eq_zero_or_pos index.toNat with hzero | hpos
    · exact absurd (UInt8.toNat_inj.mp hzero) hindex
    · exact hpos
  exact UInt8.toNat_sub_of_le _ _ (UInt8.le_iff_toNat_le.mpr hpos)

/-- The number of the first string is 1. -/
theorem stringAt_first {x : AreaString} {xs : List AreaString} {index : UInt8}
    (hindex : index ≠ 0) (hlast : index - 1 = 0) : stringAt (x :: xs) index = some x := by
  have hone := toNat_sub_one hindex
  rw [hlast, UInt8.toNat_zero] at hone
  rw [stringAt, ← hone]
  rfl

/-- The others are counted from the second one on. -/
theorem stringAt_next {x : AreaString} {xs : List AreaString} {index : UInt8}
    (hindex : index ≠ 0) (hnext : index - 1 ≠ 0) :
    stringAt (x :: xs) index = stringAt xs (index - 1) := by
  have hpos : 0 < (index - 1).toNat := Nat.pos_of_ne_zero fun hzero =>
    hnext (UInt8.toNat_inj.mp hzero)
  have hsplit : index.toNat - 1 = index.toNat - 1 - 1 + 1 := by
    rw [← toNat_sub_one hindex]
    omega
  rw [stringAt, stringAt, toNat_sub_one hindex, hsplit, List.getElem?_cons_succ,
    Nat.add_sub_cancel]

include h in
/-- **Where the loop ends**, by induction on the strings still to come: at the string with that
number among them, or behind the last one. -/
theorem loop_finds (xs : List AreaString) :
    ∀ (x : AreaString) (pre : Bytes) (s : Lookup), s.index ≠ 0 →
      s.optionalStrStart + s.strSize = pre.length →
      ∃ s', (Looking.loop (lookupRound asciiStrSize beyond
          (pre ++ ((x :: xs).flatMap AreaString.bytes ++ [0]))) s).Yields s' ∧
        s'.Finds (pre ++ ((x :: xs).flatMap AreaString.bytes ++ [0]))
          (stringAt (x :: xs) s.index) := by
  induction xs with
  | nil =>
      intro x pre s hindex hs
      have hround := yields_lookupRound h beyond [] 0 x.nonzero hs
      rw [if_neg (fun hno => hno.1 rfl)] at hround
      rw [List.flatMap_singleton]
      refine ⟨_, Looking.yields_loop.mpr (Or.inl hround), ?_⟩
      by_cases hlast : s.index - 1 = 0
      · rw [stringAt_first hindex hlast]
        exact ⟨hlast, rfl, string_inside pre [0] x.chars, slice_string pre [0] x.chars⟩
      · rw [stringAt_next hindex hlast]
        exact hlast
  | cons y ys ih =>
      intro x pre s hindex hs
      obtain ⟨c, rest, hrest, hc⟩ := exists_cons_rest (y :: ys)
      have hb : pre ++ ((x :: y :: ys).flatMap AreaString.bytes ++ [0]) =
          pre ++ (zeroTerminated x.chars ++ c :: rest) := by
        rw [List.flatMap_cons, List.append_assoc, hrest, AreaString.bytes]
      have hnonzero : c ≠ 0 := fun hzero => List.cons_ne_nil y ys (hc.mp hzero)
      have hround := yields_lookupRound h beyond rest c x.nonzero hs
      by_cases hlast : s.index - 1 = 0
      · rw [if_neg (fun hno => hno.2 hlast), ← hb] at hround
        refine ⟨_, Looking.yields_loop.mpr (Or.inl hround), ?_⟩
        rw [stringAt_first hindex hlast, hb]
        exact ⟨hlast, rfl, string_inside pre _ x.chars, slice_string pre _ x.chars⟩
      · rw [if_pos ⟨hnonzero, hlast⟩, ← hb] at hround
        have hpre : pre ++ ((x :: y :: ys).flatMap AreaString.bytes ++ [0]) =
            (pre ++ x.bytes) ++ ((y :: ys).flatMap AreaString.bytes ++ [0]) := by
          rw [List.flatMap_cons, List.append_assoc, List.append_assoc]
        obtain ⟨s', hloop, hfinds⟩ := ih y (pre ++ x.bytes)
          ⟨pre.length, s.index - 1, x.chars.length + 1⟩ hlast
          (by rw [List.length_append, AreaString.bytes, length_zeroTerminated])
        rw [← hpre] at hloop hfinds
        rw [stringAt_next hindex hlast]
        exact ⟨s', Looking.yields_loop.mpr (Or.inr ⟨_, hround, hloop⟩), hfinds⟩

/-- What both functions test behind the loop: the end of the set came first, or an empty string. -/
def Lookup.notFound (s : Lookup) : Bool := s.index != 0 || s.strSize == 1

include h in
/-- **The lookup in a whole area** ends inside it, and finds the string if there is one with that
number. -/
theorem lookup_yields (strings : List AreaString) {index : UInt8} (hindex : index ≠ 0) :
    ∃ s, (lookup asciiStrSize beyond (areaBytes strings) index).Yields s ∧
      match stringAt strings index with
      | some x => s.notFound = false ∧ s.strSize = x.chars.length + 1 ∧
          s.optionalStrStart + s.strSize ≤ (areaBytes strings).length ∧
          slice s.optionalStrStart s.strSize (areaBytes strings) = x.bytes
      | none => s.notFound = true := by
  cases strings with
  | nil =>
      -- the first zero is taken for an empty string
      have hround := yields_lookupRound h beyond (s := ⟨0, index, 0⟩) [] 0
        (List.not_mem_nil : 0 ∉ ([] : Bytes)) (show 0 + 0 = ([] : Bytes).length from rfl)
      rw [if_neg (fun hno => hno.1 rfl)] at hround
      exact ⟨_, Looking.yields_loop.mpr (Or.inl hround), Bool.or_true _⟩
  | cons x xs =>
      obtain ⟨s, hloop, hfinds⟩ := loop_finds h beyond xs x [] ⟨0, index, 0⟩ hindex rfl
      refine ⟨s, hloop, ?_⟩
      dsimp only at hfinds
      cases hstring : stringAt (x :: xs) index with
      | none =>
          rw [hstring] at hfinds
          exact Bool.or_eq_true_iff.mpr (Or.inl (bne_iff_ne.mpr hfinds))
      | some y =>
          rw [hstring] at hfinds
          obtain ⟨hzero, hsize, hinside, hslice⟩ := hfinds
          refine ⟨?_, hsize, hinside, hslice⟩
          have hlong := List.length_pos_of_ne_nil y.nonempty
          rw [Lookup.notFound, hzero, Bool.or_eq_false_iff]
          exact ⟨rfl, beq_eq_false_iff_ne.mpr (by omega)⟩

include h in
/-- **The string with a number**, as both functions go on: they return one thing if there is no such
string, and else something made of its size and its bytes. -/
theorem yields_lookupString {α : Type} (strings : List AreaString) {index : UInt8}
    (hindex : index ≠ 0) (missing : α) (found : Nat → Bytes → α) :
    (do let s ← lookup asciiStrSize beyond (areaBytes strings) index
        if s.notFound then pure missing
        else do
          let chars ← Looking.read beyond (areaBytes strings) s.optionalStrStart s.strSize
          pure (found s.strSize chars) : Looking α).Yields
      (match stringAt strings index with
        | some x => found (x.chars.length + 1) x.bytes
        | none => missing) := by
  obtain ⟨s, hlookup, hspec⟩ := lookup_yields h beyond strings hindex
  refine Looking.yields_bind.mpr ⟨s, hlookup, ?_⟩
  cases hstring : stringAt strings index with
  | none =>
      rw [hstring] at hspec
      dsimp only at hspec ⊢
      rw [if_pos hspec]
      exact Looking.yields_pure.mpr rfl
  | some x =>
      rw [hstring] at hspec
      obtain ⟨hfound, hsize, hinside, hslice⟩ := hspec
      have hread : (Looking.read beyond (areaBytes strings) s.optionalStrStart
          s.strSize).Yields x.bytes :=
        (Looking.yields_read (by omega)).mpr ⟨hinside, hslice.symm⟩
      dsimp only
      rw [if_neg (by rw [hfound]; exact Bool.false_ne_true), ← hsize]
      exact Looking.yields_bind.mpr ⟨_, hread, Looking.yields_pure.mpr rfl⟩

end Loop

end OemPkg.Smbios
