/-
# OemPkg.Boot.AltBoot — the flag for an alternate boot

The model of `MsAltBootLib.c`. AltBootFlag is a variable that holds 1 after a boot from USB or PXE.
SetAltBoot turns a 0 into a 1 and ClearAltBoot a 1 into a 0; neither does anything to another value,
or to a variable that does not exist. `set_and_clear_work_iff` says of every sequence of the two
when each of them has its effect.
-/
import OemPkg.Lib.Machine
import OemPkg.Uefi.Variable

namespace OemPkg.Boot

open OemPkg.Lib OemPkg.Uefi

/-! ## The two functions -/

/-- The attributes SetAltBoot writes. -/
def altBootAttributes : Attributes :=
  efiVariableBootserviceAccess ||| efiVariableNonVolatile ||| efiVariableRuntimeAccess

/-- The local AltBootFlag, a UINTN, after GetVariable into it. -/
def altBootLocal (uninitialized : Block 8) (read : ReadOutcome) : Nat :=
  leNat (read.data ++ uninitialized.1.drop read.data.length)

/-- ClearAltBoot: does its ASSERT hold, and the variable afterwards. `uninitialized` is what the
local holds before the read. -/
def clearAltBoot (uninitialized : Block 8) (var : Option Variable) : Bool × Option Variable :=
  let read := readVariable var 8
  if read.status = efiSuccess ∧ altBootLocal uninitialized read = 1 then
    let write := writeVariable var (read.attributes.getD 0#32) ((leBytes 8 0).take read.dataSize)
    (!efiError write.1 || write.1 == efiNotFound, write.2)
  else (true, var)

/-- SetAltBoot: the status it returns, and the variable afterwards. -/
def setAltBoot (uninitialized : Block 8) (var : Option Variable) : EfiStatus × Option Variable :=
  let read := readVariable var 8
  -- an error is reported if it is not EFI_NOT_FOUND, and nothing else
  if read.status = efiSuccess ∧ altBootLocal uninitialized read = 0 then
    writeVariable var altBootAttributes ((leBytes 8 1).take read.dataSize)
  else (read.status, var)

/-- A call of one of them. -/
inductive AltBootCall where
  | setAltBoot (uninitialized : Block 8)
  | clearAltBoot (uninitialized : Block 8)

/-- The library as a machine: the state is the variable, the answer SetAltBoot's status. -/
def altBootLib : Machine (Option Variable) AltBootCall (Option EfiStatus) where
  step var
    | .setAltBoot uninitialized =>
        ((setAltBoot uninitialized var).2, some (setAltBoot uninitialized var).1)
    | .clearAltBoot uninitialized => ((clearAltBoot uninitialized var).2, none)

/-! ## The flag -/

/-- AltBootFlag with the standard attributes and a UINTN as its value, or no variable. -/
def altBootVariable (flag : Option (BitVec 64)) : Option Variable :=
  flag.map fun v => ⟨altBootAttributes, leBytes 8 v.toNat⟩

/-- The value that is stored. -/
def storedFlag (var : Option Variable) : Option Nat := var.map fun v => leNat v.data

/-- A call does what it is for: the flag is 1 after SetAltBoot, and not 1 after ClearAltBoot. -/
def AltBootCall.Works (var : Option Variable) (call : AltBootCall) : Prop :=
  match call with
  | .setAltBoot _ => storedFlag (altBootLib.step var call).1 = some 1
  | .clearAltBoot _ => storedFlag (altBootLib.step var call).1 ≠ some 1

theorem storedFlag_altBootVariable (flag : Option (BitVec 64)) :
    storedFlag (altBootVariable flag) = flag.map BitVec.toNat := by
  cases flag with
  | none => rfl
  | some v => exact congrArg some (leNat_leBytes 8 v.isLt)

section Present

variable {v : BitVec 64}

theorem readVariable_altBoot :
    readVariable (altBootVariable (some v)) 8 =
      ⟨efiSuccess, 8, some altBootAttributes, leBytes 8 v.toNat⟩ := by
  have hlength : (leBytes 8 v.toNat).length = 8 := length_leBytes 8 _
  show readVariable (some ⟨altBootAttributes, leBytes 8 v.toNat⟩) 8 = _
  rw [readVariable_fits (show (leBytes 8 v.toNat).length ≤ 8 from hlength.le)]
  exact congrArg (fun n => ReadOutcome.mk efiSuccess n _ _) hlength

/-- The read fills the whole local. -/
theorem altBootLocal_read (uninitialized : Block 8) :
    altBootLocal uninitialized (readVariable (altBootVariable (some v)) 8) = v.toNat := by
  rw [readVariable_altBoot, altBootLocal, length_leBytes,
    List.drop_of_length_le uninitialized.2.le, List.append_nil, leNat_leBytes 8 v.isLt]

theorem writeVariable_altBoot (w : BitVec 64) :
    writeVariable (altBootVariable (some v)) altBootAttributes ((leBytes 8 w.toNat).take 8) =
      (efiSuccess, altBootVariable (some w)) := by
  have hlength : (leBytes 8 w.toNat).length = 8 := length_leBytes 8 _
  have hdata : leBytes 8 w.toNat ≠ [] := by
    intro hnil
    rw [hnil] at hlength
    cases hlength
  rw [List.take_of_length_le hlength.le]
  exact writeVariable_rewrite (by decide) (by decide) hdata rfl

end Present

/-- **SetAltBoot turns a 0 into a 1**, and leaves everything else. -/
theorem setAltBoot_altBootVariable (uninitialized : Block 8) (flag : Option (BitVec 64)) :
    (setAltBoot uninitialized (altBootVariable flag)).2 =
      altBootVariable (if flag = some 0#64 then some 1#64 else flag) := by
  cases flag with
  | none => rfl
  | some v =>
      unfold setAltBoot
      dsimp only
      rw [altBootLocal_read, readVariable_altBoot]
      by_cases hzero : v = 0#64
      · rw [if_pos ⟨rfl, by rw [hzero]; rfl⟩, if_pos (congrArg some hzero)]
        exact congrArg Prod.snd (writeVariable_altBoot 1#64)
      · have hne : v.toNat ≠ 0 := fun hno => hzero (BitVec.eq_of_toNat_eq hno)
        rw [if_neg fun hno => hne hno.2, if_neg fun hno => hzero (Option.some.inj hno)]

/-- **ClearAltBoot turns a 1 into a 0**, and leaves everything else. -/
theorem clearAltBoot_altBootVariable (uninitialized : Block 8) (flag : Option (BitVec 64)) :
    clearAltBoot uninitialized (altBootVariable flag) =
      (true, altBootVariable (if flag = some 1#64 then some 0#64 else flag)) := by
  cases flag with
  | none => rfl
  | some v =>
      unfold clearAltBoot
      dsimp only
      rw [altBootLocal_read, readVariable_altBoot]
      by_cases hone : v = 1#64
      · rw [if_pos ⟨rfl, by rw [hone]; rfl⟩, if_pos (congrArg some hone)]
        have hwrite := writeVariable_altBoot (v := v) 0#64
        dsimp only [Option.getD_some]
        rw [show (0 : Nat) = (0#64 : BitVec 64).toNat from rfl, hwrite]
        rfl
      · have hne : v.toNat ≠ 1 := fun hno => hone (BitVec.eq_of_toNat_eq hno)
        rw [if_neg fun hno => hne hno.2, if_neg fun hno => hone (Option.some.inj hno)]

/-! ## Sequences of calls -/

namespace AltBootCall

/-- The flag after a call. -/
def flagAfter (flag : Option (BitVec 64)) : AltBootCall → Option (BitVec 64)
  | .setAltBoot _ => if flag = some 0#64 then some 1#64 else flag
  | .clearAltBoot _ => if flag = some 1#64 then some 0#64 else flag

/-- It is a call of ClearAltBoot. -/
def Clears : AltBootCall → Prop
  | .setAltBoot _ => False
  | .clearAltBoot _ => True

end AltBootCall

/-- The flag is one that the library knows. -/
def FlagUsable (flag : Option (BitVec 64)) : Prop := flag = some 0#64 ∨ flag = some 1#64

theorem step_altBootVariable (flag : Option (BitVec 64)) (call : AltBootCall) :
    (altBootLib.step (altBootVariable flag) call).1 = altBootVariable (call.flagAfter flag) := by
  cases call with
  | setAltBoot uninitialized => exact setAltBoot_altBootVariable uninitialized flag
  | clearAltBoot uninitialized =>
      exact congrArg Prod.snd (clearAltBoot_altBootVariable uninitialized flag)

/-- A flag becomes usable by no call, and stops being so by none. -/
theorem flagUsable_flagAfter (flag : Option (BitVec 64)) (call : AltBootCall) :
    FlagUsable (call.flagAfter flag) ↔ FlagUsable flag := by
  cases call with
  | setAltBoot uninitialized =>
      by_cases hzero : flag = some 0#64
      · rw [AltBootCall.flagAfter, if_pos hzero]
        exact iff_of_true (Or.inr rfl) (Or.inl hzero)
      · rw [AltBootCall.flagAfter, if_neg hzero]
  | clearAltBoot uninitialized =>
      by_cases hone : flag = some 1#64
      · rw [AltBootCall.flagAfter, if_pos hone]
        exact iff_of_true (Or.inl rfl) (Or.inr hone)
      · rw [AltBootCall.flagAfter, if_neg hone]

theorem storedFlag_eq_one_iff (flag : Option (BitVec 64)) :
    storedFlag (altBootVariable flag) = some 1 ↔ flag = some 1#64 := by
  rw [storedFlag_altBootVariable, Option.map_eq_some_iff]
  constructor
  · rintro ⟨v, rfl, hv⟩
    exact congrArg some (BitVec.eq_of_toNat_eq hv)
  · rintro rfl
    exact ⟨1#64, rfl, rfl⟩

/-- **One call**: ClearAltBoot always does what it is for, SetAltBoot only on a usable flag. -/
theorem works_iff (flag : Option (BitVec 64)) (call : AltBootCall) :
    call.Works (altBootVariable flag) ↔ call.Clears ∨ FlagUsable flag := by
  unfold AltBootCall.Works
  rw [step_altBootVariable]
  cases call with
  | setAltBoot uninitialized =>
      show storedFlag (altBootVariable (AltBootCall.flagAfter flag (.setAltBoot uninitialized))) =
        some 1 ↔ False ∨ FlagUsable flag
      rw [storedFlag_eq_one_iff, false_or, AltBootCall.flagAfter]
      by_cases hzero : flag = some 0#64
      · rw [if_pos hzero]
        exact iff_of_true rfl (Or.inl hzero)
      · rw [if_neg hzero]
        exact ⟨Or.inr, fun husable => husable.resolve_left hzero⟩
  | clearAltBoot uninitialized =>
      refine iff_of_true ?_ (Or.inl trivial)
      show storedFlag (altBootVariable (AltBootCall.flagAfter flag (.clearAltBoot uninitialized))) ≠
        some 1
      rw [ne_eq, storedFlag_eq_one_iff, AltBootCall.flagAfter]
      by_cases hone : flag = some 1#64
      · rw [if_pos hone]
        decide
      · rw [if_neg hone]
        exact hone

/-- **When a sequence of calls works**, each call at its time, from any state of the variable: the
flag is 0 or 1 at first, or nobody sets it. By induction on the calls, along which a flag stays
usable or stays unusable. -/
theorem set_and_clear_work_iff (flag : Option (BitVec 64)) (calls : List AltBootCall) :
    altBootLib.Along (fun var call => call.Works var) (altBootVariable flag) calls ↔
      (flag = some 0#64 ∨ flag = some 1#64) ∨ ∀ call ∈ calls, call.Clears := by
  induction calls generalizing flag with
  | nil => exact iff_of_true trivial (Or.inr fun call hcall => (nomatch hcall))
  | cons call calls ih =>
      have hrest : altBootLib.Along (fun var call => call.Works var)
          (altBootLib.step (altBootVariable flag) call).1 calls ↔
            FlagUsable flag ∨ ∀ call ∈ calls, call.Clears := by
        rw [step_altBootVariable, ih]
        exact or_congr_left (flagUsable_flagAfter flag call)
      refine (and_congr (works_iff flag call) hrest).trans ?_
      rw [List.forall_mem_cons, or_comm (a := call.Clears), ← or_and_left]
      exact Iff.rfl

/-- A local that holds zeros. -/
def zeroedLocal : Block 8 := ⟨leBytes 8 0, length_leBytes 8 0⟩

theorem not_works_of_unusable {flag : Option (BitVec 64)} (h : ¬ FlagUsable flag) :
    ¬ altBootLib.Along (fun var call => call.Works var) (altBootVariable flag)
      [.setAltBoot zeroedLocal] := by
  intro halong
  rcases (works_iff flag _).mp halong.1 with hclears | husable
  · exact hclears
  · exact h husable

/-- SetAltBoot leaves a value other than 0 and 1 as it is, and says EFI_SUCCESS; and it does nothing
where there is no variable yet. -/
theorem set_alt_boot_without_effect :
    (setAltBoot zeroedLocal (altBootVariable (some 5#64))).1 = efiSuccess ∧
    ¬ altBootLib.Along (fun var call => call.Works var) (altBootVariable (some 5#64))
      [.setAltBoot zeroedLocal] ∧
    ¬ altBootLib.Along (fun var call => call.Works var) (altBootVariable none)
      [.setAltBoot zeroedLocal] := by
  refine ⟨by decide, not_works_of_unusable ?_, not_works_of_unusable ?_⟩
  · rintro (hzero | hone)
    · exact absurd (Option.some.inj hzero) (by decide)
    · exact absurd (Option.some.inj hone) (by decide)
  · rintro (hzero | hone)
    · cases hzero
    · cases hone

end OemPkg.Boot
