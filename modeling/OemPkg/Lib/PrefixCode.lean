/-
# OemPkg.Lib.PrefixCode — sequences of self-delimiting items

An encoding of items whose codewords are not empty and of which none begins with another. A sequence
of items is encoded by its codewords one after the other; the encodings then begin with each other
exactly when the sequences do (`PrefixCode.flatMap_prefix_iff`). A comparison of raw symbols up to
the end of the shorter encoding therefore compares whole items.
-/
import Mathlib.Data.List.Basic
import Mathlib.Tactic.Common

namespace OemPkg.Lib

variable {α β : Type*}

/-- No codeword is empty, and none begins with another. -/
structure PrefixCode (enc : α → List β) : Prop where
  nonempty : ∀ a, enc a ≠ []
  eq_of_prefix : ∀ {a b}, enc a <+: enc b → a = b

namespace PrefixCode

variable {enc : α → List β}

/-- Two sequences that both begin with a codeword begin with the same one. -/
theorem head_eq (h : PrefixCode enc) {a b : α} {rest : List β} (hb : enc b <+: enc a ++ rest) :
    a = b := by
  rcases List.prefix_or_prefix_of_prefix (List.prefix_append (enc a) rest) hb with hab | hba
  · exact h.eq_of_prefix hab
  · exact (h.eq_of_prefix hba).symm

/-- **A prefix of the symbols is a prefix of the items**, by induction on the shorter sequence. -/
theorem flatMap_prefix_iff (h : PrefixCode enc) {as bs : List α} :
    as.flatMap enc <+: bs.flatMap enc ↔ as <+: bs := by
  refine ⟨fun hpre => ?_, fun ⟨rest, hrest⟩ => ?_⟩
  · induction as generalizing bs with
    | nil => exact List.nil_prefix
    | cons a as ih =>
        rw [List.flatMap_cons] at hpre
        cases bs with
        | nil =>
            have hnil := List.prefix_nil.mp hpre
            exact absurd (List.append_eq_nil_iff.mp hnil).1 (h.nonempty a)
        | cons b bs =>
            rw [List.flatMap_cons] at hpre
            obtain rfl : b = a := h.head_eq ((List.prefix_append _ _).trans hpre)
            exact List.cons_prefix_cons.mpr
              ⟨rfl, ih ((List.prefix_append_right_inj (enc b)).mp hpre)⟩
  · rw [← hrest, List.flatMap_append]
    exact List.prefix_append _ _

end PrefixCode

end OemPkg.Lib
