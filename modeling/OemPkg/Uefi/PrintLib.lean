/-
# OemPkg.Uefi.PrintLib — templates with hexadecimal fields

The part of the format language that is used here: printable characters stand for themselves, and
`%0nX` for the next argument in upper-case hexadecimal, with at least `n` digits. A template whose
arguments all fit in their fields gives strings of one length, from which the arguments can be read
again (`format_of_fits`), and which are in the order of the arguments (`format_lex`).

PrintLib and BaseLib themselves are parts of another package: they are a `PrintLib`, and what is
documented of them is `PrintLib.Documented`.
-/
import OemPkg.Lib.Numerals

namespace OemPkg.Uefi

open OemPkg.Lib

/-! ## Templates -/

/-- The character of a hexadecimal digit, 0 to 9 or A to F. -/
def hexSymbol (d : Nat) : UInt16 := if d < 10 then UInt16.ofNat (48 + d) else UInt16.ofNat (55 + d)

def hexValue (c : UInt16) : Option Nat :=
  if 48 ≤ c ∧ c ≤ 57 then some (c.toNat - 48)
  else if 65 ≤ c ∧ c ≤ 70 then some (c.toNat - 55)
  else none

/-- Upper-case hexadecimal. -/
def hexAlphabet : Alphabet UInt16 16 where
  symbol := hexSymbol
  value := hexValue
  base := by omega
  value_symbol := by decide
  symbol_lt d e hde he := by
    have hall : ∀ e d : Fin 16, d < e → hexSymbol d < hexSymbol e := by decide
    exact hall ⟨e, he⟩ ⟨d, Nat.lt_trans hde he⟩ hde

/-- A character that stands for itself. -/
abbrev Printable := { c : UInt16 // 32 ≤ c ∧ c ≤ 126 }

/-- A part of a template. -/
inductive Directive where
  | text (c : Printable)
  /-- `%0nX` -/
  | hex (n : Nat)
  deriving DecidableEq

/-- The parts of a template, if it is one of printable characters and `%0nX`. -/
def parseTemplate : List Char → Option (List Directive)
  | [] => some []
  | '%' :: '0' :: n :: 'X' :: rest =>
      if '1' ≤ n ∧ n ≤ '9' then (parseTemplate rest).map (.hex (n.toNat - 48) :: ·) else none
  | '%' :: _ => none
  | c :: rest =>
      if h : 32 ≤ UInt16.ofNat c.toNat ∧ UInt16.ofNat c.toNat ≤ 126 then
        (parseTemplate rest).map (.text ⟨UInt16.ofNat c.toNat, h⟩ :: ·)
      else none

example : parseTemplate "%02X/".toList = some [.hex 2, .text ⟨47, by decide⟩] := by decide

/-- The arguments, which are 32 bits each, in the places of a template. There must be enough. -/
def format : List Directive → List (BitVec 32) → Option (List UInt16)
  | [], _ => some []
  | .text c :: ds, args => (format ds args).map (c.1 :: ·)
  | .hex n :: ds, arg :: args => (format ds args).map (hexAlphabet.print n arg.toNat ++ ·)
  | .hex _ :: _, [] => none

/-- The string that a template and arguments stand for. -/
def formatString (template : List Char) (args : List (BitVec 32)) : Option (List UInt16) :=
  (parseTemplate template).bind (format · args)

/-! ## Fields that fit -/

/-- The characters a template gives when its arguments fit. -/
def formatWidth : List Directive → Nat
  | [] => 0
  | .text _ :: ds => formatWidth ds + 1
  | .hex n :: ds => n + formatWidth ds

/-- There is an argument for each field, and each is of no more digits than its field. -/
def Fits : List Directive → List (BitVec 32) → Prop
  | [], args => args = []
  | .text _ :: ds, args => Fits ds args
  | .hex n :: ds, arg :: args => arg.toNat < 16 ^ n ∧ Fits ds args
  | .hex _ :: _, [] => False

/-- Read the fields of a string by their places in the template. -/
def readFields : List Directive → List UInt16 → Option (List Nat)
  | [], s => if s = [] then some [] else none
  | .text _ :: _, [] => none
  | .text c :: ds, c' :: s => if c' = c.1 then readFields ds s else none
  | .hex n :: ds, s =>
      (hexAlphabet.read (s.take n)).bind fun v => (readFields ds (s.drop n)).map (v :: ·)

variable {ds : List Directive} {args args' : List (BitVec 32)} {s s' : List UInt16}

/-- **The width**, and that the fields can be read again. The induction is on the template. -/
theorem format_of_fits (h : Fits ds args) : ∃ s, format ds args = some s ∧
    s.length = formatWidth ds ∧ readFields ds s = some (args.map BitVec.toNat) := by
  induction ds generalizing args with
  | nil =>
      rw [show args = [] from h]
      exact ⟨[], rfl, rfl, rfl⟩
  | cons d ds ih =>
      cases d with
      | text c =>
          obtain ⟨s, hs, hlen, hread⟩ := ih (show Fits ds args from h)
          refine ⟨c.1 :: s, ?_, ?_, ?_⟩
          · rw [format, hs, Option.map_some]
          · rw [List.length_cons, hlen, formatWidth]
          · rw [readFields, if_pos rfl, hread]
      | hex n =>
          cases args with
          | nil => exact absurd h not_false
          | cons arg args =>
              obtain ⟨s, hs, hlen, hread⟩ := ih (show Fits ds args from h.2)
              have hwidth : (hexAlphabet.print n arg.toNat).length = n :=
                hexAlphabet.length_print h.1
              refine ⟨hexAlphabet.print n arg.toNat ++ s, ?_, ?_, ?_⟩
              · rw [format, hs, Option.map_some]
              · rw [List.length_append, hwidth, hlen, formatWidth]
              · rw [readFields, List.take_left' hwidth, List.drop_left' hwidth,
                  hexAlphabet.read_print, hread]
                rfl

/-- **The order of the arguments is that of the strings.** -/
theorem format_lex (h : Fits ds args) (h' : Fits ds args') (hs : format ds args = some s)
    (hs' : format ds args' = some s') (hlex : List.Lex (· < ·) args args') :
    List.Lex (· < ·) s s' := by
  induction ds generalizing args args' s s' with
  | nil =>
      rw [show args = [] from h, show args' = [] from h'] at hlex
      cases hlex
  | cons d ds ih =>
      cases d with
      | text c =>
          obtain ⟨t, ht, rfl⟩ := Option.map_eq_some_iff.mp hs
          obtain ⟨t', ht', rfl⟩ := Option.map_eq_some_iff.mp hs'
          exact List.Lex.cons (ih h h' ht ht' hlex)
      | hex n =>
          cases hlex with
          | nil => exact absurd h not_false
          | rel hlt =>
              obtain ⟨t, ht, rfl⟩ := Option.map_eq_some_iff.mp hs
              obtain ⟨t', ht', rfl⟩ := Option.map_eq_some_iff.mp hs'
              apply lex_append_of_length_eq (hexAlphabet.print_lex h'.1 hlt)
              rw [hexAlphabet.length_print h.1, hexAlphabet.length_print h'.1]
          | cons hrest =>
              obtain ⟨t, ht, rfl⟩ := Option.map_eq_some_iff.mp hs
              obtain ⟨t', ht', rfl⟩ := Option.map_eq_some_iff.mp hs'
              exact List.Lex.append_left _ (ih h.2 h'.2 ht ht' hrest) _

/-- Hexadecimal digits are printable. -/
theorem hexSymbol_printable {d : Nat} (hd : d < 16) : 32 ≤ hexSymbol d ∧ hexSymbol d ≤ 126 := by
  have hall : ∀ d : Fin 16, 32 ≤ hexSymbol d ∧ hexSymbol d ≤ 126 := by decide
  exact hall ⟨d, hd⟩

/-- A string has printable characters only. -/
theorem printable_of_mem_format (hs : format ds args = some s) :
    ∀ c ∈ s, 32 ≤ c ∧ c ≤ 126 := by
  induction ds generalizing args s with
  | nil =>
      cases hs
      exact fun c hc => absurd hc List.not_mem_nil
  | cons d ds ih =>
      cases d with
      | text c =>
          obtain ⟨t, ht, rfl⟩ := Option.map_eq_some_iff.mp hs
          exact List.forall_mem_cons.mpr ⟨c.2, ih ht⟩
      | hex n =>
          cases args with
          | nil => cases hs
          | cons arg args =>
              obtain ⟨t, ht, rfl⟩ := Option.map_eq_some_iff.mp hs
              intro c hc
              rcases List.mem_append.mp hc with hdigit | hrest
              · obtain ⟨d, hd, rfl⟩ := hexAlphabet.mem_print hdigit
                exact hexSymbol_printable hd
              · exact ih ht c hrest

/-! ## The libraries -/

/-- PrintLib and BaseLib. -/
structure PrintLib where
  sPrintLength : (template : List Char) → (args : List (BitVec 32)) → Nat
  /-- UnicodeSPrint: what it writes to the start of a buffer of `bufferSize` bytes -/
  unicodeSPrint : (bufferSize : Nat) → (template : List Char) → (args : List (BitVec 32)) →
    List UInt16
  /-- UnicodeStrToAsciiStrS: what it writes to the start of a destination of `destMax` characters -/
  unicodeStrToAsciiStrS : (source : List UInt16) → (destMax : Nat) → List UInt8

/-- PcdMaximumUnicodeStringLength and PcdMaximumAsciiStringLength, by default: longer strings are
refused. -/
def maximumStringLength : Nat := 1000000

/-- What is documented of them, for templates as above: a string that is too long for the buffer is
cut off, and it always ends in a zero. -/
structure PrintLib.Documented (lib : PrintLib) : Prop where
  length : ∀ template args s, formatString template args = some s →
    s.length ≤ maximumStringLength → lib.sPrintLength template args = s.length
  print : ∀ bufferSize template args s, formatString template args = some s →
    2 ≤ bufferSize → bufferSize ≤ 2 * maximumStringLength →
      lib.unicodeSPrint bufferSize template args = s.take (bufferSize / 2 - 1) ++ [0]
  convert : ∀ (s rest : List UInt16) destMax, (∀ c ∈ s, 0 < c ∧ c < 256) → s.length < destMax →
    destMax ≤ maximumStringLength →
      lib.unicodeStrToAsciiStrS (s ++ 0 :: rest) destMax = s.map UInt16.toUInt8 ++ [0]

/-- Libraries that do this and nothing else. -/
def directPrintLib : PrintLib where
  sPrintLength template args := ((formatString template args).getD []).length
  unicodeSPrint bufferSize template args :=
    ((formatString template args).getD []).take (bufferSize / 2 - 1) ++ [0]
  unicodeStrToAsciiStrS source destMax :=
    let s := source.takeWhile (· ≠ 0)
    if s.length < destMax then s.map UInt16.toUInt8 ++ [0] else []

theorem directPrintLib_documented : directPrintLib.Documented where
  length template args s hs _ := by
    show ((formatString template args).getD []).length = s.length
    rw [hs, Option.getD_some]
  print bufferSize template args s hs _ _ := by
    show ((formatString template args).getD []).take (bufferSize / 2 - 1) ++ [0] = _
    rw [hs, Option.getD_some]
  convert s rest destMax hs hlen _ := by
    have hsource : (s ++ 0 :: rest).takeWhile (fun c => decide (c ≠ 0)) = s := by
      rw [List.takeWhile_append_of_pos fun c hc => ?_]
      · simp
      · exact decide_eq_true (UInt16.ne_of_lt (hs c hc).1).symm
    show (if ((s ++ 0 :: rest).takeWhile _).length < destMax then _ else _) = _
    rw [hsource, if_pos hlen]

end OemPkg.Uefi
