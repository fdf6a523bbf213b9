/-
# OemPkg.Lib.Fallible — operations that may fail, and what a failure leaves behind

An operation takes a state to a status and a state. `AllOrNothingAt` says that at a given state a
failure is harmless: whenever the operation fails, the state is the one it started from. Operations
with that property do not compose: `andThen_allOrNothing_iff` names the one way in which the
sequence of two of them goes wrong, the second failing after the first has changed something.
-/
import Mathlib.Tactic.Common

namespace OemPkg.Lib

section Fallible

variable {ε σ : Type*} (failed : ε → Bool)

/-- At `s`, the operation either succeeds or changes nothing. -/
def AllOrNothingAt (op : σ → ε × σ) (s : σ) : Prop :=
  failed (op s).1 = true → (op s).2 = s

/-- First `a`; then `b`, unless `a` failed. -/
def andThen (a b : σ → ε × σ) (s : σ) : ε × σ :=
  if failed (a s).1 then a s else b (a s).2

variable {failed} {a b : σ → ε × σ} {s : σ}

/-- **The one way a sequence of all-or-nothing operations breaks.** -/
theorem andThen_allOrNothing_iff (ha : AllOrNothingAt failed a s)
    (hb : AllOrNothingAt failed b (a s).2) :
    AllOrNothingAt failed (andThen failed a b) s ↔
      ¬ (failed (a s).1 = false ∧ failed (b (a s).2).1 = true ∧ (a s).2 ≠ s) := by
  unfold AllOrNothingAt andThen
  cases hfail : failed (a s).1 with
  | true =>
      simp only [if_true, Bool.true_eq_false, false_and, not_false_eq_true, iff_true]
      exact fun _ => ha hfail
  | false =>
      simp only [Bool.false_eq_true, if_false, true_and]
      constructor
      · rintro hsafe ⟨hsecond, hchanged⟩
        exact hchanged ((hb hsecond).symm.trans (hsafe hsecond))
      · intro hno hsecond
        have hsame : (a s).2 = s := by
          by_contra hchanged
          exact hno ⟨hsecond, hchanged⟩
        exact (hb hsecond).trans hsame

/-- An operation that leaves the state alone is all-or-nothing. -/
theorem allOrNothingAt_of_unchanged {op : σ → ε × σ} (h : (op s).2 = s) :
    AllOrNothingAt failed op s := fun _ => h

end Fallible

end OemPkg.Lib
