/-
# OemPkg.Password.StringPolicy — what is wrong with a password string

PasswordPolicyIsPwStringValid tests a copy of the string, cut off after PW_MAX_LENGTH characters,
and a string that differs from its copy is too long. With a `Failures` pointer it runs all its
tests, without one it stops at the first failure. `isPwStringValid_reports` says that both ways give
the policy's answer, and that the bitmap names the rules that are broken.
-/
import OemPkg.Password.Policy

namespace OemPkg.Password

open OemPkg.Lib OemPkg.Uefi

/-- The string differs from its copy when it is too long. -/
theorem ne_tempPassword_iff (s : Char16String) :
    (s != tempPassword s) = decide (pwMaxLength < s.length) := by
  by_cases hmax : s.length ≤ pwMaxLength
  · rw [tempPassword_eq, Char16String.strnCpyS_of_le hmax, bne_self_eq_false,
      decide_eq_false (Nat.not_lt.mpr hmax)]
  · rw [decide_eq_true (Nat.lt_of_not_le hmax), bne_iff_ne, tempPassword_eq]
    intro heq
    have hlength := congrArg Char16String.length heq
    rw [Char16String.length_strnCpyS] at hlength
    omega

/-- The copy is too short when the string is. -/
theorem length_tempPassword_lt_iff (s : Char16String) :
    (tempPassword s).length < pwMinLength ↔ s.length < pwMinLength := by
  rw [tempPassword_eq, Char16String.length_strnCpyS]
  unfold pwMaxLength pwMinLength
  omega

/-- One of the characters that are looked at is invalid. -/
def hasInvalidChar (s : Char16String) : Bool := (s.chars.take pwMaxLength).any (!isValidChar ·)

/-- The characters of the copy. -/
theorem any_tempPassword (s : Char16String) :
    ((tempPassword s).chars.take (tempPassword s).length).any (!isValidChar ·) =
      hasInvalidChar s := by
  unfold Char16String.length
  rw [List.take_length]
  rfl

theorem hasInvalidChar_iff (s : Char16String) :
    hasInvalidChar s = true ↔ ∃ c ∈ s.chars.take pwMaxLength, c ∉ validChars := by
  have hvalid : ∀ c, (!isValidChar c) = true ↔ c ∉ validChars := by
    intro c
    rw [isValidChar, List.any_beq, Bool.not_eq_true', List.contains_eq_mem,
      decide_eq_false_iff_not]
  rw [hasInvalidChar, List.any_eq_true]
  exact exists_congr fun c => and_congr_right fun _ => hvalid c

/-! ## The bitmap -/

/-- The bits of the tests that failed. -/
def failureBits (tooLong tooShort invalidChar : Bool) : BitVec 32 :=
  (if tooLong then pwTestStringTooLong else 0) |||
    (if tooShort then pwTestStringTooShort else 0) |||
    (if invalidChar then pwTestStringInvalidChar else 0)

theorem failureBits_tooLong : ∀ tooLong tooShort invalidChar,
    failureBits tooLong tooShort invalidChar &&& pwTestStringTooLong ≠ 0 ↔ tooLong = true := by
  decide

theorem failureBits_tooShort : ∀ tooLong tooShort invalidChar,
    failureBits tooLong tooShort invalidChar &&& pwTestStringTooShort ≠ 0 ↔ tooShort = true := by
  decide

theorem failureBits_invalidChar : ∀ tooLong tooShort invalidChar,
    failureBits tooLong tooShort invalidChar &&& pwTestStringInvalidChar ≠ 0 ↔
      invalidChar = true := by
  decide

theorem failureBits_others : ∀ tooLong tooShort invalidChar,
    failureBits tooLong tooShort invalidChar &&&
      ~~~(pwTestStringTooShort ||| pwTestStringTooLong ||| pwTestStringInvalidChar) = 0 := by
  decide

theorem failureBits_eq_zero : ∀ tooLong tooShort invalidChar,
    failureBits tooLong tooShort invalidChar = 0 ↔
      (!tooLong && !tooShort && !invalidChar) = true := by
  decide

/-- **The three tests**, and the bit that each of them sets. -/
theorem isPwStringValid_failures (s : Char16String) :
    passwordPolicyIsPwStringValid (some s) true =
      (!decide (pwMaxLength < s.length) && !decide (s.length < pwMinLength) && !hasInvalidChar s,
        failureBits (decide (pwMaxLength < s.length)) (decide (s.length < pwMinLength))
          (hasInvalidChar s)) := by
  simp only [passwordPolicyIsPwStringValid, ne_tempPassword_iff, Bool.or_true, if_true,
    Bool.true_and, length_tempPassword_lt_iff, any_tempPassword]
  cases decide (pwMaxLength < s.length) <;> cases decide (s.length < pwMinLength) <;>
    cases hasInvalidChar s <;> rfl

/-- **Without a `Failures` pointer** the answer is the same. -/
theorem isPwStringValid_failFast (s : Char16String) :
    (passwordPolicyIsPwStringValid (some s) false).1 =
      (passwordPolicyIsPwStringValid (some s) true).1 := by
  rw [isPwStringValid_failures]
  simp only [passwordPolicyIsPwStringValid, ne_tempPassword_iff, Bool.or_false, Bool.true_and]
  by_cases hlong : pwMaxLength < s.length
  · simp [hlong]
  · simp only [hlong, decide_false, Bool.not_false, if_true, Bool.true_and,
      length_tempPassword_lt_iff]
    by_cases hshort : s.length < pwMinLength
    · simp [hshort]
    · simp only [hshort, decide_false, Bool.not_false, Bool.true_and, any_tempPassword]

/-- **Password validation reports exactly what is wrong**, for strings of every length: the answer
with a `Failures` pointer, each bit behind it, and the answer without one. -/
theorem isPwStringValid_reports (s : Char16String) :
    let r := passwordPolicyIsPwStringValid (some s) true
    (r.1 = true ↔
        (pwMinLength ≤ s.length ∧ s.length ≤ pwMaxLength) ∧ ∀ c ∈ s.chars, c ∈ validChars) ∧
      (r.2 &&& pwTestStringTooShort ≠ 0 ↔ s.length < pwMinLength) ∧
      (r.2 &&& pwTestStringTooLong ≠ 0 ↔ pwMaxLength < s.length) ∧
      (r.2 &&& pwTestStringInvalidChar ≠ 0 ↔
        ∃ c ∈ s.chars.take pwMaxLength, c ∉ validChars) ∧
      r.2 &&& ~~~(pwTestStringTooShort ||| pwTestStringTooLong ||| pwTestStringInvalidChar) = 0 ∧
      (r.2 = 0 ↔ r.1 = true) ∧
      (passwordPolicyIsPwStringValid (some s) false).1 = r.1 := by
  intro r
  have hr : r = _ := isPwStringValid_failures s
  rw [hr, failureBits_tooShort, failureBits_tooLong, failureBits_invalidChar, failureBits_others,
    failureBits_eq_zero, decide_eq_true_eq, decide_eq_true_eq, hasInvalidChar_iff,
    isPwStringValid_failFast, isPwStringValid_failures]
  refine ⟨?_, Iff.rfl, Iff.rfl, Iff.rfl, rfl, Iff.rfl, rfl⟩
  simp only [Bool.and_eq_true, Bool.not_eq_true', decide_eq_false_iff_not, Nat.not_lt]
  by_cases hmax : s.length ≤ pwMaxLength
  · -- a string that is not too long is looked at whole
    have hwhole : s.chars.take pwMaxLength = s.chars := List.take_of_length_le hmax
    rw [← Bool.not_eq_true, hasInvalidChar_iff, hwhole]
    simp only [not_exists, not_and, not_not]
    tauto
  · simp [hmax]

end OemPkg.Password
