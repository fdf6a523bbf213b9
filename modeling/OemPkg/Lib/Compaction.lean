/-
# OemPkg.Lib.Compaction — compacting an array of records in place

An array of fixed-size records is turned into the concatenation of what `select` makes of each of
them, on top of the array itself: a cursor runs behind the entry being read and never passes it, as
no record yields more bytes than it has. `compact_spec` says that what is left below the cursor is
exactly what a compaction into a second buffer would have written.
-/
import OemPkg.Lib.EndToEnd

namespace OemPkg.Lib

section Compaction

variable (stride : Nat) (select : Bytes → Option Bytes)

/-- Compact the next `count` records, the first of them at `entry`, to the place `cursor`. The
result is the cursor and the buffer afterwards. -/
def compact : (count entry cursor : Nat) → Bytes → Nat × Bytes
  | 0, _, cursor, b => (cursor, b)
  | count + 1, entry, cursor, b =>
      match select (slice entry stride b) with
      | none => compact count (entry + stride) cursor b
      | some out => compact count (entry + stride) (cursor + out.length) (splice cursor out b)

variable {stride select}

/-- **Compaction in place equals compaction into a second buffer.** -/
theorem compact_spec (hselect : ∀ r out, select r = some out → out.length ≤ stride)
    (records : List Bytes) (hrecords : ∀ r ∈ records, r.length = stride) :
    ∀ {entry cursor : Nat} {b : Bytes}, cursor ≤ entry →
      entry + stride * records.length ≤ b.length →
      slice entry (stride * records.length) b = records.flatten →
      let r := compact stride select records.length entry cursor b
      r.2.take r.1 = b.take cursor ++ (records.filterMap select).flatten := by
  induction records with
  | nil => intro entry cursor b _ _ _; simp [compact]
  | cons d records ih =>
      intro entry cursor b hle hroom hwin
      have hd : d.length = stride := hrecords d List.mem_cons_self
      have hrest : ∀ r ∈ records, r.length = stride := fun r hr =>
        hrecords r (List.mem_cons_of_mem _ hr)
      rw [List.length_cons, Nat.mul_succ] at hroom hwin
      -- the window starts with the record and goes on with the others
      have hfirst : slice entry stride b = d := by
        have h : slice 0 stride (slice entry (stride * records.length + stride) b) =
            slice (entry + 0) stride b := slice_slice (by omega)
        rw [hwin, Nat.add_zero, slice, List.drop_zero, List.flatten_cons, List.take_left' hd] at h
        exact h.symm
      have hnext : slice (entry + stride) (stride * records.length) b = records.flatten := by
        have h : slice stride (stride * records.length)
            (slice entry (stride * records.length + stride) b) =
              slice (entry + stride) (stride * records.length) b := slice_slice (by omega)
        have hlength : records.flatten.length ≤ stride * records.length := by
          rw [length_flatten_eq, totalLength_of_width hrest]
        rw [hwin, slice, List.flatten_cons, List.drop_left' hd, List.take_of_length_le hlength] at h
        exact h.symm
      simp only [List.length_cons, compact, hfirst]
      cases hsel : select d with
      | none =>
          simp only [List.filterMap_cons, hsel]
          exact ih hrest (by omega) (by omega) hnext
      | some out =>
          have hout := hselect d out hsel
          have hlen : (splice cursor out b).length = b.length := length_splice (by omega)
          have hwin' : slice (entry + stride) (stride * records.length) (splice cursor out b) =
              records.flatten := by
            rw [slice_splice_disjoint (by omega) (Or.inr (by omega)), hnext]
          have h := ih hrest (show cursor + out.length ≤ entry + stride by omega)
            (show entry + stride + stride * records.length ≤ (splice cursor out b).length by
              rw [hlen]
              omega) hwin'
          simp only [List.filterMap_cons, hsel, List.flatten_cons]
          rw [h, take_splice (by omega), List.append_assoc]

/-- **The cursor stays behind the entry**, and the buffer keeps its size. -/
theorem compact_bounds (hselect : ∀ r out, select r = some out → out.length ≤ stride)
    (count : Nat) :
    ∀ {entry cursor : Nat} {b : Bytes}, cursor ≤ entry → entry + stride * count ≤ b.length →
      let r := compact stride select count entry cursor b
      r.1 ≤ entry + stride * count ∧ r.2.length = b.length := by
  induction count with
  | zero =>
      intro entry cursor b hle _
      exact ⟨Nat.le_add_right_of_le hle, rfl⟩
  | succ count ih =>
      intro entry cursor b hle hroom
      rw [Nat.mul_succ] at hroom ⊢
      cases hsel : select (slice entry stride b) with
      | none =>
          simp only [compact, hsel]
          obtain ⟨hcursor, hlength⟩ := ih (show cursor ≤ entry + stride by omega)
            (show entry + stride + stride * count ≤ b.length by omega)
          exact ⟨by omega, hlength⟩
      | some out =>
          simp only [compact, hsel]
          have hout := hselect _ out hsel
          have hlen : (splice cursor out b).length = b.length := length_splice (by omega)
          obtain ⟨hcursor, hlength⟩ := ih (show cursor + out.length ≤ entry + stride by omega)
            (show entry + stride + stride * count ≤ (splice cursor out b).length by
              rw [hlen]
              omega)
          exact ⟨by omega, hlength.trans hlen⟩

/-- Where the cursor ends: behind what has been written. -/
theorem compact_cursor (hselect : ∀ r out, select r = some out → out.length ≤ stride)
    (records : List Bytes) (hrecords : ∀ r ∈ records, r.length = stride) {entry cursor : Nat}
    {b : Bytes} (hle : cursor ≤ entry) (hroom : entry + stride * records.length ≤ b.length)
    (hwin : slice entry (stride * records.length) b = records.flatten) :
    (compact stride select records.length entry cursor b).1 =
      cursor + totalLength (records.filterMap select) := by
  have htake := congrArg List.length
    (compact_spec hselect records hrecords hle hroom hwin)
  obtain ⟨hcursor, hlength⟩ := compact_bounds hselect records.length hle hroom
  rw [List.length_take, List.length_append, List.length_take, length_flatten_eq, hlength] at htake
  omega

/-! ## Records in a buffer -/

/-- The `count` records of `stride` bytes each from position `entry` on. -/
def recordsAt (stride count entry : Nat) (b : Bytes) : List Bytes :=
  (List.range count).map fun i => slice (entry + stride * i) stride b

theorem length_recordsAt (stride count entry : Nat) (b : Bytes) :
    (recordsAt stride count entry b).length = count := by
  rw [recordsAt, List.length_map, List.length_range]

theorem length_of_mem_recordsAt {count entry : Nat} {b : Bytes}
    (hroom : entry + stride * count ≤ b.length) :
    ∀ r ∈ recordsAt stride count entry b, r.length = stride := by
  intro r hr
  obtain ⟨i, hi, rfl⟩ := List.mem_map.mp hr
  have hend : stride * (i + 1) ≤ stride * count :=
    Nat.mul_le_mul_left stride (List.mem_range.mp hi)
  rw [Nat.mul_succ] at hend
  exact length_slice (by omega)

/-- The records, one after another, are the window they come from. -/
theorem flatten_recordsAt (stride count entry : Nat) (b : Bytes) :
    slice entry (stride * count) b = (recordsAt stride count entry b).flatten := by
  induction count with
  | zero => rfl
  | succ count ih =>
      have hlast : recordsAt stride (count + 1) entry b =
          recordsAt stride count entry b ++ [slice (entry + stride * count) stride b] := by
        rw [recordsAt, List.range_succ, List.map_append]
        rfl
      rw [hlast, List.flatten_append, List.flatten_singleton, ← ih, Nat.mul_succ, slice, slice,
        slice, List.take_add, List.drop_drop]

/-- **What a compaction leaves of the records in a buffer**: below the cursor there is what was
there before, and then what `select` makes of them. -/
theorem compact_recordsAt (hselect : ∀ r out, select r = some out → out.length ≤ stride)
    {count entry cursor : Nat} {b : Bytes} (hle : cursor ≤ entry)
    (hroom : entry + stride * count ≤ b.length) :
    let selected := (recordsAt stride count entry b).filterMap select
    let r := compact stride select count entry cursor b
    r.1 = cursor + totalLength selected ∧ r.2.take r.1 = b.take cursor ++ selected.flatten := by
  have hrecords := length_of_mem_recordsAt hroom
  have hcount := length_recordsAt stride count entry b
  have hroom' : entry + stride * (recordsAt stride count entry b).length ≤ b.length := by
    rw [hcount]
    exact hroom
  have hwin : slice entry (stride * (recordsAt stride count entry b).length) b =
      (recordsAt stride count entry b).flatten := by
    rw [hcount]
    exact flatten_recordsAt stride count entry b
  have hcursor := compact_cursor hselect _ hrecords hle hroom' hwin
  have htake := compact_spec hselect _ hrecords hle hroom' hwin
  rw [hcount] at hcursor htake
  exact ⟨hcursor, htake⟩

end Compaction

end OemPkg.Lib
