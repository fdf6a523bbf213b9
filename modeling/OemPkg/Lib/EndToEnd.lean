/-
# OemPkg.Lib.EndToEnd — blocks of any size, one after another

A buffer filled from the front: each block is written where the one before it ends. `endToEnd` lists
the pieces this makes. The offset of a piece is the sum of the sizes before it, the pieces leave no
gap and do not overlap (`existsUnique_covers`), and each of them is read back from the concatenation
of the blocks (`slice_endToEnd`), which is what the buffer then holds.
-/
import OemPkg.Lib.Bytes

namespace OemPkg.Lib

/-- Some bytes, and where they are. -/
structure Piece where
  offset : Nat
  bytes : Bytes
  deriving DecidableEq, Repr

/-- Position `p` belongs to the piece. -/
def Piece.Covers (s : Piece) (p : Nat) : Prop := s.offset ≤ p ∧ p < s.offset + s.bytes.length

/-- The blocks as pieces, the first one at `off`. -/
def endToEnd : (off : Nat) → List Bytes → List Piece
  | _, [] => []
  | off, b :: bs => ⟨off, b⟩ :: endToEnd (off + b.length) bs

/-- The sum of the sizes of some blocks. -/
def totalLength (bs : List Bytes) : Nat := (bs.map List.length).sum

@[simp] theorem totalLength_nil : totalLength [] = 0 := rfl

@[simp] theorem totalLength_cons (b : Bytes) (bs : List Bytes) :
    totalLength (b :: bs) = b.length + totalLength bs := rfl

/-- Blocks of one size. -/
theorem totalLength_of_width {w : Nat} {bs : List Bytes} (hw : ∀ b ∈ bs, b.length = w) :
    totalLength bs = w * bs.length := by
  rw [totalLength, List.map_congr_left hw, List.map_const', List.sum_replicate_nat, Nat.mul_comm]

theorem length_flatten_eq (bs : List Bytes) : bs.flatten.length = totalLength bs :=
  List.length_flatten

/-- **A piece lies behind the blocks before it.** -/
theorem getElem?_endToEnd (bs : List Bytes) :
    ∀ (off i : Nat), (endToEnd off bs)[i]? =
      bs[i]?.map fun b => ⟨off + totalLength (bs.take i), b⟩ := by
  induction bs with
  | nil => intro off i; rfl
  | cons b bs ih =>
      intro off i
      cases i with
      | zero => rfl
      | succ i =>
          show (endToEnd (off + b.length) bs)[i]? =
            bs[i]?.map fun b' => ⟨off + totalLength (b :: bs.take i), b'⟩
          rw [ih, totalLength_cons, Nat.add_assoc]

/-- The pieces hold the blocks. -/
theorem flatMap_endToEnd (bs : List Bytes) :
    ∀ off, (endToEnd off bs).flatMap Piece.bytes = bs.flatten := by
  induction bs with
  | nil => intro off; rfl
  | cons b bs ih =>
      intro off
      rw [endToEnd, List.flatMap_cons, ih, List.flatten_cons]

/-- **No gap and no overlap**: every position up to the end of the last piece belongs to exactly one
of them. -/
theorem existsUnique_covers (bs : List Bytes) :
    ∀ (off p : Nat), off ≤ p → p < off + totalLength bs →
      ∃! i : Nat, ∃ s : Piece, (endToEnd off bs)[i]? = some s ∧ s.Covers p := by
  induction bs with
  | nil =>
      intro off p hoff hend
      rw [totalLength_nil] at hend
      omega
  | cons b bs ih =>
      intro off p hoff hend
      by_cases hfirst : p < off + b.length
      · refine ⟨0, ⟨⟨off, b⟩, rfl, hoff, hfirst⟩, ?_⟩
        -- what comes later begins behind the first block
        rintro i ⟨s, hs, hcovers⟩
        cases i with
        | zero => rfl
        | succ i =>
            have hlater : (endToEnd (off + b.length) bs)[i]? = some s := hs
            rw [getElem?_endToEnd] at hlater
            obtain ⟨b', -, rfl⟩ := Option.map_eq_some_iff.mp hlater
            have := hcovers.1
            simp only at this
            omega
      · rw [totalLength_cons] at hend
        obtain ⟨i, ⟨s, hs, hcovers⟩, hunique⟩ :=
          ih (off + b.length) p (by omega) (by omega)
        refine ⟨i + 1, ⟨s, hs, hcovers⟩, ?_⟩
        rintro j ⟨s', hs', hcovers'⟩
        cases j with
        | zero =>
            have hs' : some (⟨off, b⟩ : Piece) = some s' := hs'
            cases hs'
            exact absurd hcovers'.2 hfirst
        | succ j => rw [hunique j ⟨s', hs', hcovers'⟩]

/-- **A block is read back** from the concatenation, behind the blocks before it. -/
theorem slice_flatten_at {bs : List Bytes} {i : Nat} {b : Bytes} (hb : bs[i]? = some b) :
    slice (totalLength (bs.take i)) b.length bs.flatten = b := by
  obtain ⟨hi, rfl⟩ := List.getElem?_eq_some_iff.mp hb
  have hsplit : bs.flatten = (bs.take i).flatten ++ (bs[i] ++ (bs.drop (i + 1)).flatten) := by
    rw [← List.flatten_cons, ← List.drop_eq_getElem_cons hi, ← List.flatten_append,
      List.take_append_drop]
  rw [hsplit, slice, List.drop_left' (length_flatten_eq _), List.take_left]

/-- Item `j` of a concatenation of items of `w` bytes each. -/
theorem slice_flatten {w : Nat} {items : List Bytes} (hw : ∀ x ∈ items, x.length = w) {j : Nat}
    {x : Bytes} (hj : items[j]? = some x) : slice (w * j) w items.flatten = x := by
  have hx : x.length = w := hw x (List.mem_of_getElem? hj)
  have hbefore : totalLength (items.take j) = w * j := by
    have hle : j ≤ items.length := (List.getElem?_eq_some_iff.mp hj).1.le
    rw [totalLength_of_width fun y hy => hw y (List.mem_of_mem_take hy), List.length_take,
      Nat.min_eq_left hle]
  have hread := slice_flatten_at hj
  rw [hbefore, hx] at hread
  exact hread

/-- All of them are read back. -/
theorem map_slice_flatten {w : Nat} {items : List Bytes} (hw : ∀ x ∈ items, x.length = w) :
    (List.range items.length).map (fun i => slice (w * i) w items.flatten) = items := by
  apply List.ext_getElem?
  intro i
  by_cases hi : i < items.length
  · have hitem : items[i]? = some items[i] := List.getElem?_eq_getElem hi
    rw [List.getElem?_map, List.getElem?_range hi, Option.map_some, slice_flatten hw hitem, hitem]
  · rw [List.getElem?_eq_none (by simpa using hi), List.getElem?_eq_none (by omega)]

/-- So is a piece. -/
theorem slice_endToEnd {bs : List Bytes} {i : Nat} {s : Piece}
    (hs : (endToEnd 0 bs)[i]? = some s) :
    slice s.offset s.bytes.length bs.flatten = s.bytes := by
  rw [getElem?_endToEnd] at hs
  obtain ⟨b, hb, rfl⟩ := Option.map_eq_some_iff.mp hs
  show slice (0 + totalLength (bs.take i)) b.length bs.flatten = b
  rw [Nat.zero_add]
  exact slice_flatten_at hb

/-! ## Writing pieces -/

/-- The buffer after the pieces have been written to it, one after another. -/
def writeAll (pieces : List Piece) (b : Bytes) : Bytes :=
  pieces.foldl (fun b s => splice s.offset s.bytes b) b

@[simp] theorem writeAll_nil (b : Bytes) : writeAll [] b = b := rfl

@[simp] theorem writeAll_cons (s : Piece) (pieces : List Piece) (b : Bytes) :
    writeAll (s :: pieces) b = writeAll pieces (splice s.offset s.bytes b) := rfl

theorem writeAll_append (pieces pieces' : List Piece) (b : Bytes) :
    writeAll (pieces ++ pieces') b = writeAll pieces' (writeAll pieces b) := List.foldl_append

end OemPkg.Lib
