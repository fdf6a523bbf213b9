/-
# OemPkg.Lib.Accesses — computations that record the bytes they look at

A buffer whose size nobody checks is read by an offset and a width. `Recorded α` is a value together
with the bytes that were looked at for it, each with the size of its block, and `InBounds` says that
every one of them lies in its block. The rules follow the operations: nothing is looked at for a
`pure` value, a bind looks at what its two parts look at, and a read is in bounds exactly when its
window ends inside the block.
-/
import OemPkg.Lib.Bytes

namespace OemPkg.Lib

universe u

/-- A byte that was looked at: its offset in a block, and the size of the block. -/
structure Access where
  offset : Nat
  size : Nat
  deriving DecidableEq, Repr

/-- A value, and the bytes looked at to compute it. -/
structure Recorded (α : Type u) where
  value : α
  accesses : List Access

namespace Recorded

variable {α β : Type u}

instance : Monad Recorded where
  pure a := ⟨a, []⟩
  bind x f := ⟨(f x.value).value, x.accesses ++ (f x.value).accesses⟩

/-- A read of `w` bytes at `off`. -/
def read (beyond : Nat → UInt8) (b : Bytes) (off w : Nat) : Recorded Bytes :=
  ⟨readPast beyond b off w, (List.range w).map fun i => ⟨off + i, b.length⟩⟩

/-- **Every byte that is looked at lies in its block.** -/
def InBounds (x : Recorded α) : Prop := ∀ a ∈ x.accesses, a.offset < a.size

@[simp] theorem value_pure (a : α) : (pure a : Recorded α).value = a := rfl

@[simp] theorem value_bind (x : Recorded α) (f : α → Recorded β) :
    (x >>= f).value = (f x.value).value := rfl

@[simp] theorem value_read (beyond : Nat → UInt8) (b : Bytes) (off w : Nat) :
    (read beyond b off w).value = readPast beyond b off w := rfl

@[simp] theorem value_ite (c : Prop) [Decidable c] (x y : Recorded α) :
    (if c then x else y).value = if c then x.value else y.value :=
  apply_ite value c x y

@[simp] theorem inBounds_pure (a : α) : (pure a : Recorded α).InBounds := by
  intro x hx
  cases hx

@[simp] theorem inBounds_bind (x : Recorded α) (f : α → Recorded β) :
    (x >>= f).InBounds ↔ x.InBounds ∧ (f x.value).InBounds := by
  show (∀ a ∈ x.accesses ++ (f x.value).accesses, a.offset < a.size) ↔ _
  simp only [List.mem_append, or_imp, forall_and]
  rfl

@[simp] theorem inBounds_ite (c : Prop) [Decidable c] (x y : Recorded α) :
    (if c then x else y).InBounds ↔ (c → x.InBounds) ∧ (¬ c → y.InBounds) := by
  by_cases hc : c
  · simp only [hc, if_true, forall_true_left, not_true_eq_false, IsEmpty.forall_iff, and_true]
  · simp only [hc, if_false, IsEmpty.forall_iff, not_false_eq_true, forall_true_left, true_and]

theorem inBounds_read {beyond : Nat → UInt8} {b : Bytes} {off w : Nat} (hw : 0 < w) :
    (read beyond b off w).InBounds ↔ off + w ≤ b.length := by
  constructor
  · intro h
    -- the last byte of the window
    have hlast := h ⟨off + (w - 1), b.length⟩
      (List.mem_map.mpr ⟨w - 1, List.mem_range.mpr (by omega), rfl⟩)
    simp only at hlast
    omega
  · intro h a ha
    obtain ⟨i, hi, rfl⟩ := List.mem_map.mp ha
    have := List.mem_range.mp hi
    show off + i < b.length
    omega

/-- A read from the start of a block. -/
theorem inBounds_read_start {beyond : Nat → UInt8} {b : Bytes} {w : Nat} (hw : 0 < w) :
    (read beyond b 0 w).InBounds ↔ w ≤ b.length := by
  rw [inBounds_read hw, Nat.zero_add]

end Recorded

end OemPkg.Lib
