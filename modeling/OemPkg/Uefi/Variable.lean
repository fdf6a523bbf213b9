/-
# OemPkg.Uefi.Variable — UEFI variables: one cell, one cell with failing calls, a named store

The variable services as the UEFI specification states them, for a single variable:

* `readVariable` — GetVariable into a buffer of a given size. A buffer that is too small is
  reported with the size needed, and nothing is copied;
* `writeVariable` — SetVariable. No data, or attributes without any access, is a deletion; data
  written over an existing variable with *other* attributes is refused and changes nothing.

`VarService` adds schedules of failing calls, for the components that must survive them, and the two
allocating reads of UefiLib, GetVariable2 and GetVariable3. `VarStore` is a family of variables
under names, with the reset that forgets the volatile ones.
-/
import OemPkg.Lib.Bytes
import OemPkg.Uefi.Status
import Mathlib.Logic.Function.Basic

namespace OemPkg.Uefi

open OemPkg.Lib

/-- The attributes of a variable: a `UINT32` of flags. -/
abbrev Attributes := BitVec 32

def efiVariableNonVolatile : Attributes := 0x1#32
def efiVariableBootserviceAccess : Attributes := 0x2#32
def efiVariableRuntimeAccess : Attributes := 0x4#32

/-- A variable that exists. -/
structure Variable where
  attributes : Attributes
  data : Bytes
  deriving DecidableEq, Repr

/-- What GetVariable hands back: the status, the caller's `DataSize` afterwards, the attributes if
it reported them, and the bytes it copied to the start of the caller's buffer. -/
structure ReadOutcome where
  status : EfiStatus
  dataSize : Nat
  attributes : Option Attributes
  data : Bytes
  deriving DecidableEq, Repr

/-! ## One variable -/

/-- GetVariable on one variable, with a buffer of `dataSize` bytes. -/
def readVariable (v : Option Variable) (dataSize : Nat) : ReadOutcome :=
  match v with
  | none => ⟨efiNotFound, dataSize, none, []⟩
  | some v =>
      if v.data.length ≤ dataSize then
        ⟨efiSuccess, v.data.length, some v.attributes, v.data⟩
      else
        ⟨efiBufferTooSmall, v.data.length, some v.attributes, []⟩

/-- Do the attributes give access at boot time or at run time? -/
def hasAccess (a : Attributes) : Bool :=
  a &&& (efiVariableBootserviceAccess ||| efiVariableRuntimeAccess) != 0#32

/-- Run-time access requires boot-service access. -/
def validAttributes (a : Attributes) : Bool :=
  a &&& efiVariableRuntimeAccess == 0#32 || a &&& efiVariableBootserviceAccess != 0#32

/-- SetVariable on one variable. -/
def writeVariable (v : Option Variable) (a : Attributes) (data : Bytes) :
    EfiStatus × Option Variable :=
  if !validAttributes a then (efiInvalidParameter, v)
  else if !hasAccess a || data.isEmpty then
    match v with
    | none => (efiNotFound, none)
    | some _ => (efiSuccess, none)
  else
    match v with
    | none => (efiSuccess, some ⟨a, data⟩)
    | some old =>
        if old.attributes = a then (efiSuccess, some ⟨a, data⟩) else (efiInvalidParameter, v)

@[simp] theorem readVariable_none (n : Nat) :
    readVariable none n = ⟨efiNotFound, n, none, []⟩ := rfl

theorem readVariable_fits {v : Variable} {n : Nat} (h : v.data.length ≤ n) :
    readVariable (some v) n = ⟨efiSuccess, v.data.length, some v.attributes, v.data⟩ := by
  rw [readVariable, if_pos h]

theorem readVariable_large {v : Variable} {n : Nat} (h : ¬ v.data.length ≤ n) :
    readVariable (some v) n = ⟨efiBufferTooSmall, v.data.length, some v.attributes, []⟩ := by
  rw [readVariable, if_neg h]

/-- The deletion every driver writes: attributes 0, no data. -/
theorem writeVariable_delete (v : Option Variable) :
    (writeVariable v 0#32 []).2 = none := by
  cases v <;> rfl

section Write

variable {a : Attributes} {data : Bytes}
  (hvalid : validAttributes a = true) (haccess : hasAccess a = true) (hdata : data ≠ [])
include hvalid haccess hdata

theorem writeVariable_create : writeVariable none a data = (efiSuccess, some ⟨a, data⟩) := by
  cases data with
  | nil => exact absurd rfl hdata
  | cons x xs => simp [writeVariable, hvalid, haccess]

theorem writeVariable_rewrite {old : Variable} (h : old.attributes = a) :
    writeVariable (some old) a data = (efiSuccess, some ⟨a, data⟩) := by
  cases data with
  | nil => exact absurd rfl hdata
  | cons x xs => simp [writeVariable, hvalid, haccess, h]

/-- Other attributes than the variable has are refused. -/
theorem writeVariable_refused {old : Variable} (h : old.attributes ≠ a) :
    writeVariable (some old) a data = (efiInvalidParameter, some old) := by
  cases data with
  | nil => exact absurd rfl hdata
  | cons x xs => simp [writeVariable, hvalid, haccess, h]

end Write

/-! ## One variable, some calls failing -/

/-- The variable services as a component with a single variable meets them: the variable, and for
the coming reads and the coming writes the status each will fail with, if it is to fail. A schedule
that has run out fails no more calls. -/
structure VarService where
  var : Option Variable
  readFaults : List (Option EfiStatus)
  writeFaults : List (Option EfiStatus)
  deriving DecidableEq, Repr

namespace VarService

/-- Services that never fail. -/
def reliable (v : Option Variable) : VarService := ⟨v, [], []⟩

/-- GetVariable. A failing call leaves the caller's outputs alone; the one status that is an answer
about the buffer, `EFI_BUFFER_TOO_SMALL`, comes with the size and the attributes it must report. -/
def getVariable (s : VarService) (dataSize : Nat) : ReadOutcome × VarService :=
  let s' := { s with readFaults := s.readFaults.tail }
  match s.readFaults.head?.join with
  | none => (readVariable s.var dataSize, s')
  | some e =>
      if e = efiBufferTooSmall then ({ readVariable s.var 0 with status := e, data := [] }, s')
      else (⟨e, dataSize, none, []⟩, s')

/-- SetVariable. A failing call changes nothing. -/
def setVariable (s : VarService) (a : Attributes) (data : Bytes) : EfiStatus × VarService :=
  let s' := { s with writeFaults := s.writeFaults.tail }
  match s.writeFaults.head?.join with
  | none => ((writeVariable s.var a data).1, { s' with var := (writeVariable s.var a data).2 })
  | some e => (e, s')

@[simp] theorem reliable_var (v : Option Variable) : (reliable v).var = v := rfl

@[simp] theorem getVariable_reliable (v : Option Variable) (n : Nat) :
    (reliable v).getVariable n = (readVariable v n, reliable v) := rfl

@[simp] theorem setVariable_reliable (v : Option Variable) (a : Attributes) (data : Bytes) :
    (reliable v).setVariable a data =
      ((writeVariable v a data).1, reliable (writeVariable v a data).2) := rfl

/-! ### UefiLib's GetVariable2 and GetVariable3 -/

/-- What GetVariable2 and GetVariable3 hand back: the value in a buffer they allocated (absent for a
NULL pointer), its size, and for GetVariable3 the attributes. -/
structure Fetched where
  status : EfiStatus
  value : Option Bytes
  size : Nat
  attributes : Attributes
  deriving DecidableEq, Repr

/-- GetVariable3: size and attributes are zeroed first; one call asks for the size, a second one
fills a buffer of that size. -/
def getVariable3 (s : VarService) : Fetched × VarService :=
  let (sizing, s) := s.getVariable 0
  let attributes := sizing.attributes.getD 0#32
  if sizing.status ≠ efiBufferTooSmall then (⟨sizing.status, none, 0, attributes⟩, s)
  else
    let (fill, s) := s.getVariable sizing.dataSize
    (⟨fill.status, if efiError fill.status then none else some fill.data, fill.dataSize,
      fill.attributes.getD attributes⟩, s)

/-- GetVariable2: the same without the attributes. -/
def getVariable2 (s : VarService) : Fetched × VarService :=
  let (f, s) := s.getVariable3
  ({ f with attributes := 0#32 }, s)

/-- The sizing call answers: nothing fails it, or it "fails" with the answer it should give. -/
def SizingAnswers (s : VarService) : Prop :=
  ∀ e, s.readFaults.head?.join = some e → e = efiBufferTooSmall

/-- What GetVariable2 and GetVariable3 do about a variable that does not exist. -/
theorem getVariable3_reliable_none :
    (reliable none).getVariable3 = (⟨efiNotFound, none, 0, 0#32⟩, reliable none) := by
  decide

section Fetch

variable {v : Variable} (hdata : v.data ≠ []) {f : Option EfiStatus}
  {fs ws : List (Option EfiStatus)}

/-- A sizing call that fails: nothing is fetched, size and attributes stay zero. -/
theorem getVariable3_sizing_fails {e : EfiStatus} (he : e ≠ efiBufferTooSmall) :
    (⟨some v, some e :: fs, ws⟩ : VarService).getVariable3 =
      (⟨e, none, 0, 0#32⟩, ⟨some v, fs, ws⟩) := by
  simp [getVariable3, getVariable, he]

include hdata

theorem getVariable_sizing (h : SizingAnswers ⟨some v, fs, ws⟩) :
    (⟨some v, fs, ws⟩ : VarService).getVariable 0 =
      (⟨efiBufferTooSmall, v.data.length, some v.attributes, []⟩, ⟨some v, fs.tail, ws⟩) := by
  have hlarge : ¬ v.data.length ≤ 0 := by
    have := List.length_pos_of_ne_nil hdata
    omega
  unfold getVariable
  cases hf : fs.head?.join with
  | none => simp only [readVariable_large hlarge]
  | some e => simp only [h e hf, if_true, readVariable_large hlarge]

/-- A filling call that fails: nothing is fetched, but the size and the attributes the sizing call
reported are. -/
theorem getVariable3_fill_fails {e : EfiStatus} (herr : efiError e = true)
    (h : SizingAnswers ⟨some v, f :: some e :: fs, ws⟩) :
    (⟨some v, f :: some e :: fs, ws⟩ : VarService).getVariable3 =
      (⟨e, none, v.data.length, v.attributes⟩, ⟨some v, fs, ws⟩) := by
  have hlarge : ¬ v.data.length ≤ 0 := by
    have := List.length_pos_of_ne_nil hdata
    omega
  have hfill : (⟨some v, some e :: fs, ws⟩ : VarService).getVariable v.data.length =
      (⟨e, v.data.length, if e = efiBufferTooSmall then some v.attributes else none, []⟩,
        ⟨some v, fs, ws⟩) := by
    by_cases he : e = efiBufferTooSmall
    · simp [getVariable, he, readVariable_large hlarge]
    · simp [getVariable, he]
  unfold getVariable3
  rw [getVariable_sizing hdata h]
  simp only [List.tail_cons, ne_eq, not_true_eq_false, if_false, hfill, herr, if_true]
  split_ifs <;> rfl

/-- Neither call fails: the variable is fetched. -/
theorem getVariable3_fetches (h : SizingAnswers ⟨some v, fs, ws⟩)
    (hfill : fs.tail.head?.join = none) :
    (⟨some v, fs, ws⟩ : VarService).getVariable3 =
      (⟨efiSuccess, some v.data, v.data.length, v.attributes⟩, ⟨some v, fs.tail.tail, ws⟩) := by
  unfold getVariable3
  rw [getVariable_sizing hdata h]
  simp only [ne_eq, not_true_eq_false, if_false]
  rw [getVariable, hfill]
  simp only [readVariable_fits (le_refl _), efiError_success, Bool.false_eq_true, if_false,
    Option.getD_some]

end Fetch

end VarService

/-! ## A family of variables -/

/-- Variables under names. -/
abbrev VarStore (ν : Type*) := ν → Option Variable

namespace VarStore

variable {ν : Type*} [DecidableEq ν]

/-- GetVariable by name. -/
def getVariable (st : VarStore ν) (name : ν) (dataSize : Nat) : ReadOutcome :=
  readVariable (st name) dataSize

/-- SetVariable by name. -/
def setVariable (st : VarStore ν) (name : ν) (a : Attributes) (data : Bytes) :
    EfiStatus × VarStore ν :=
  ((writeVariable (st name) a data).1, Function.update st name (writeVariable (st name) a data).2)

/-- A reset: only non-volatile variables survive. -/
def reset (st : VarStore ν) : VarStore ν := fun name =>
  (st name).filter fun v => v.attributes &&& efiVariableNonVolatile != 0#32

section Reset

omit [DecidableEq ν]

variable {st : VarStore ν} {name : ν}

/-- Nothing appears in a reset. -/
theorem of_reset {v : Variable} (h : st.reset name = some v) : st name = some v :=
  (Option.filter_eq_some_iff.mp h).1

/-- A non-volatile variable survives. -/
theorem reset_nonVolatile
    (h : ∀ v, st name = some v → (v.attributes &&& efiVariableNonVolatile != 0#32) = true) :
    st.reset name = st name := by
  unfold reset
  cases hv : st name with
  | none => rfl
  | some v => simp only [Option.filter_some, h v hv, if_true]

/-- A volatile variable is gone. -/
theorem reset_volatile
    (h : ∀ v, st name = some v → (v.attributes &&& efiVariableNonVolatile != 0#32) = false) :
    st.reset name = none := by
  unfold reset
  cases hv : st name with
  | none => rfl
  | some v => simp only [Option.filter_some, h v hv, Bool.false_eq_true, if_false]

end Reset

end VarStore

end OemPkg.Uefi
