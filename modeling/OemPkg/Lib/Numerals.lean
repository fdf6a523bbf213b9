/-
# OemPkg.Lib.Numerals — numbers in digits, of a least width

`digitsOf b n v` are the digits of `v`, the most significant first, with zeros in front up to `n`
digits. Read back they are the number again (`readDigits_digitsOf`), and when two numbers need no
more than `n` digits, the smaller one comes first in lexicographic order (`digitsOf_lex`).

An `Alphabet` has a character for each digit, in the order of the digits. What holds of digits then
holds of the characters: `read_print` and `print_lex`.
-/
import Mathlib.Data.List.Lex
import Mathlib.Data.Nat.Digits.Lemmas

namespace OemPkg.Lib

/-! ## Digits -/

section Digits

variable {b n v w : Nat}

/-- The digits of `v` in base `b`, at least `n` of them. -/
def digitsOf (b n v : Nat) : List Nat := (b.digits v).reverse.leftpad n 0

/-- The number that has these digits. -/
def readDigits (b : Nat) (ds : List Nat) : Nat := Nat.ofDigits b ds.reverse

/-- **Reading back.** -/
theorem readDigits_digitsOf : readDigits b (digitsOf b n v) = v := by
  rw [readDigits, digitsOf, List.leftpad, List.reverse_append, List.reverse_reverse,
    List.reverse_replicate, Nat.ofDigits_append_replicate_zero, Nat.ofDigits_digits]

/-- A number that needs no more digits gets `n` of them. -/
theorem length_digitsOf (hb : 1 < b) (hv : v < b ^ n) : (digitsOf b n v).length = n := by
  have hle : (b.digits v).length ≤ n := (Nat.digits_length_le_iff hb v).mpr hv
  rw [digitsOf, List.length_leftpad, List.length_reverse, Nat.max_eq_left hle]

theorem lt_base_of_mem_digitsOf (hb : 1 < b) {d : Nat} (hd : d ∈ digitsOf b n v) : d < b := by
  rw [digitsOf, List.leftpad, List.mem_append, List.mem_reverse] at hd
  rcases hd with hzero | hdigit
  · rw [List.eq_of_mem_replicate hzero]
    exact Nat.lt_of_succ_lt hb
  · exact Nat.digits_lt_base hb hdigit

theorem readDigits_cons (d : Nat) (ds : List Nat) :
    readDigits b (d :: ds) = readDigits b ds + b ^ ds.length * d := by
  rw [readDigits, List.reverse_cons, Nat.ofDigits_append, Nat.ofDigits_singleton,
    List.length_reverse]
  rfl

theorem readDigits_lt (hb : 1 < b) {ds : List Nat} (hds : ∀ d ∈ ds, d < b) :
    readDigits b ds < b ^ ds.length := by
  have hrev : ∀ d ∈ ds.reverse, d < b := fun d hd => hds d (List.mem_reverse.mp hd)
  have hlt := Nat.ofDigits_lt_base_pow_length hb hrev
  rwa [List.length_reverse] at hlt

/-- **Lexicographic order is numeric order**, among digits of one width: by induction on them, and
by cases on how the first ones compare. -/
theorem lex_of_readDigits_lt (hb : 1 < b) {ds : List Nat} :
    ∀ {es : List Nat}, ds.length = es.length → (∀ d ∈ ds, d < b) → (∀ e ∈ es, e < b) →
      readDigits b ds < readDigits b es → List.Lex (· < ·) ds es := by
  induction ds with
  | nil =>
      intro es hlen _ _ hlt
      rw [List.eq_nil_of_length_eq_zero hlen.symm] at hlt
      exact absurd hlt (Nat.lt_irrefl _)
  | cons d ds ih =>
      intro es hlen hds hes hlt
      cases es with
      | nil => exact absurd hlen (Nat.succ_ne_zero _)
      | cons e es =>
          have hlen' : ds.length = es.length := Nat.succ.inj hlen
          rw [readDigits_cons, readDigits_cons, hlen'] at hlt
          rcases Nat.lt_trichotomy d e with hde | rfl | hed
          · exact List.Lex.rel hde
          · apply List.Lex.cons
            apply ih hlen' (fun d' h => hds d' (List.mem_cons_of_mem d h))
              (fun e' h => hes e' (List.mem_cons_of_mem d h))
            exact Nat.lt_of_add_lt_add_right hlt
          · -- what `d` is ahead of `e` the rest of `es` cannot make up for
            have hes' : readDigits b es < b ^ es.length :=
              readDigits_lt hb fun e' h => hes e' (List.mem_cons_of_mem e h)
            have hstep : b ^ es.length * (e + 1) ≤ b ^ es.length * d :=
              Nat.mul_le_mul_left _ hed
            rw [Nat.mul_succ] at hstep
            omega

theorem digitsOf_lex (hb : 1 < b) (hw : w < b ^ n) (h : v < w) :
    List.Lex (· < ·) (digitsOf b n v) (digitsOf b n w) := by
  apply lex_of_readDigits_lt hb
  · rw [length_digitsOf hb (Nat.lt_trans h hw), length_digitsOf hb hw]
  · exact fun d hd => lt_base_of_mem_digitsOf hb hd
  · exact fun e he => lt_base_of_mem_digitsOf hb he
  · rwa [readDigits_digitsOf, readDigits_digitsOf]

end Digits

/-! ## Characters -/

/-- Characters for the digits of a base, in order. -/
structure Alphabet (σ : Type*) [LT σ] (b : Nat) where
  symbol : Nat → σ
  value : σ → Option Nat
  base : 1 < b
  value_symbol : ∀ d < b, value (symbol d) = some d
  symbol_lt : ∀ d e, d < e → e < b → symbol d < symbol e

/-- Lists of one length that differ in order, whatever follows them. -/
theorem lex_append_of_length_eq {σ : Type*} {r : σ → σ → Prop} {xs ys : List σ}
    (h : List.Lex r xs ys) (hlen : xs.length = ys.length) (us vs : List σ) :
    List.Lex r (xs ++ us) (ys ++ vs) := by
  induction h with
  | nil => exact absurd hlen.symm (Nat.succ_ne_zero _)
  | rel hab => exact List.Lex.rel hab
  | cons _ ih => exact List.Lex.cons (ih (Nat.succ.inj hlen))

namespace Alphabet

variable {σ : Type*} [LT σ] {b n v w : Nat} (A : Alphabet σ b)

/-- The number `v`, in at least `n` characters. -/
def print (n v : Nat) : List σ := (digitsOf b n v).map A.symbol

/-- The number that some characters stand for, if they are all digits. -/
def read (s : List σ) : Option Nat := (s.mapM A.value).map (readDigits b)

theorem length_print (hv : v < b ^ n) : (A.print n v).length = n := by
  rw [print, List.length_map, length_digitsOf A.base hv]

theorem mem_print {c : σ} (hc : c ∈ A.print n v) : ∃ d < b, A.symbol d = c := by
  obtain ⟨d, hd, rfl⟩ := List.mem_map.mp hc
  exact ⟨d, lt_base_of_mem_digitsOf A.base hd, rfl⟩

theorem mapM_value_symbol {ds : List Nat} (hds : ∀ d ∈ ds, d < b) :
    (ds.map A.symbol).mapM A.value = some ds := by
  induction ds with
  | nil => rfl
  | cons d ds ih =>
      have hd : A.value (A.symbol d) = some d := A.value_symbol d (hds d List.mem_cons_self)
      have hrest := ih fun d' h => hds d' (List.mem_cons_of_mem d h)
      rw [List.map_cons, List.mapM_cons, hd, hrest]
      rfl

/-- **What is printed can be read.** -/
theorem read_print : A.read (A.print n v) = some v := by
  rw [read, print, A.mapM_value_symbol fun d hd => lt_base_of_mem_digitsOf A.base hd,
    Option.map_some, readDigits_digitsOf]

theorem lex_map_symbol {ds es : List Nat} (h : List.Lex (· < ·) ds es) (hes : ∀ e ∈ es, e < b) :
    List.Lex (· < ·) (ds.map A.symbol) (es.map A.symbol) := by
  induction h with
  | nil => exact List.Lex.nil
  | rel hde => exact List.Lex.rel (A.symbol_lt _ _ hde (hes _ List.mem_cons_self))
  | cons _ ih => exact List.Lex.cons (ih fun e he => hes e (List.mem_cons_of_mem _ he))

/-- **The smaller number comes first**, if neither needs more than `n` characters. -/
theorem print_lex (hw : w < b ^ n) (h : v < w) :
    List.Lex (· < ·) (A.print n v) (A.print n w) :=
  A.lex_map_symbol (digitsOf_lex A.base hw h) fun _ he => lt_base_of_mem_digitsOf A.base he

end Alphabet

end OemPkg.Lib
