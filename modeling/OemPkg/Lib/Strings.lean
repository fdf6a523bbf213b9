/-
# OemPkg.Lib.Strings — strings in memory that end with a zero

A string of characters of `w` bytes each starts at an offset of a block and goes on up to a
character that is zero. `Terminated w b off k` says that it has `k` characters and that its zero
lies in the block with them; `scan` is the loop that looks for the zero, and it stays in the block
exactly when there is one (`yields_scan`).
-/
import OemPkg.Lib.Looking

namespace OemPkg.Lib

/-- Character `j` of the string at `off`. -/
def charAt (w : Nat) (b : Bytes) (off j : Nat) : Nat := leNat (slice (off + w * j) w b)

/-- The string at `off` has `k` characters, and ends inside the block. -/
structure Terminated (w : Nat) (b : Bytes) (off k : Nat) : Prop where
  inside : off + w * (k + 1) ≤ b.length
  nonzero : ∀ j < k, charAt w b off j ≠ 0
  zero : charAt w b off k = 0

/-- A string has one length. -/
theorem Terminated.unique {w : Nat} {b : Bytes} {off k k' : Nat} (h : Terminated w b off k)
    (h' : Terminated w b off k') : k = k' := by
  rcases Nat.lt_trichotomy k k' with hlt | heq | hlt
  · exact absurd h.zero (h'.nonzero k hlt)
  · exact heq
  · exact absurd h'.zero (h.nonzero k' hlt)

section Scan

variable (w : Nat) (beyond : Nat → UInt8) (b : Bytes) (off : Nat)

/-- A look at character `k`. -/
def scanRound (k : Nat) : Looking (Round Nat Nat) := do
  let c ← Looking.read beyond b (off + w * k) w
  pure (if leNat c = 0 then .done k else .next (k + 1))

/-- The number of characters before the zero. -/
def scan : Looking Nat := Looking.loop (scanRound w beyond b off) 0

variable {w b off}

theorem yields_scanRound (hw : 0 < w) {k : Nat} {r : Round Nat Nat} :
    (scanRound w beyond b off k).Yields r ↔ off + w * (k + 1) ≤ b.length ∧
      r = if charAt w b off k = 0 then .done k else .next (k + 1) := by
  rw [scanRound, Looking.yields_bind, Nat.mul_succ, ← Nat.add_assoc]
  constructor
  · rintro ⟨c, hread, hr⟩
    obtain ⟨hin, rfl⟩ := (Looking.yields_read hw).mp hread
    exact ⟨hin, (Looking.yields_pure.mp hr).symm⟩
  · rintro ⟨hin, rfl⟩
    exact ⟨_, (Looking.yields_read hw).mpr ⟨hin, rfl⟩, Looking.yields_pure.mpr rfl⟩

/-- From character `j` on the scan ends where the first zero is. -/
theorem yields_scan_from (hw : 0 < w) {j k : Nat} :
    (Looking.loop (scanRound w beyond b off) j).Yields k ↔
      j ≤ k ∧ off + w * (k + 1) ≤ b.length ∧ (∀ i, j ≤ i → i < k → charAt w b off i ≠ 0) ∧
        charAt w b off k = 0 := by
  constructor
  · intro h
    refine Looking.Yields.loop_induction (P := fun j k => j ≤ k ∧ off + w * (k + 1) ≤ b.length ∧
      (∀ i, j ≤ i → i < k → charAt w b off i ≠ 0) ∧ charAt w b off k = 0) ?_ ?_ h
    · intro j k hround
      obtain ⟨hin, hk⟩ := (yields_scanRound beyond hw).mp hround
      split_ifs at hk with hzero
      cases hk
      exact ⟨le_refl j, hin, fun i hle hlt => absurd hle (Nat.not_le.mpr hlt), hzero⟩
    · rintro j j' k hround ⟨hle, hin, hnonzero, hzero⟩
      obtain ⟨-, hj'⟩ := (yields_scanRound beyond hw).mp hround
      split_ifs at hj' with hj
      cases hj'
      refine ⟨by omega, hin, fun i hi hlt => ?_, hzero⟩
      rcases Nat.eq_or_lt_of_le hi with rfl | hi
      · exact hj
      · exact hnonzero i hi hlt
  · rintro ⟨hle, hin, hnonzero, hzero⟩
    -- by induction on the distance to the zero
    obtain ⟨d, rfl⟩ := Nat.exists_eq_add_of_le hle
    clear hle
    induction d generalizing j with
    | zero =>
        refine Looking.yields_loop.mpr (Or.inl ((yields_scanRound beyond hw).mpr ⟨hin, ?_⟩))
        exact (if_pos hzero).symm
    | succ d ih =>
        have hstep : j + (d + 1) = j + 1 + d := by omega
        have hfits : w * (j + 1) ≤ w * (j + (d + 1) + 1) := Nat.mul_le_mul_left w (by omega)
        refine Looking.yields_loop.mpr (Or.inr ⟨j + 1, ?_, ?_⟩)
        · refine (yields_scanRound beyond hw).mpr ⟨by omega, ?_⟩
          exact (if_neg (hnonzero j (le_refl j) (by omega))).symm
        · rw [hstep] at hin hnonzero hzero ⊢
          exact ih hin (fun i hi hlt => hnonzero i (by omega) hlt) hzero

/-- **The scan stays in the block exactly when the string ends in it.** -/
theorem yields_scan (hw : 0 < w) {k : Nat} :
    (scan w beyond b off).Yields k ↔ Terminated w b off k := by
  rw [scan, yields_scan_from beyond hw]
  constructor
  · rintro ⟨-, hin, hnonzero, hzero⟩
    exact ⟨hin, fun i hi => hnonzero i (Nat.zero_le i) hi, hzero⟩
  · intro h
    exact ⟨Nat.zero_le k, h.inside, fun i _ hi => h.nonzero i hi, h.zero⟩

end Scan

end OemPkg.Lib
