/-
# OemPkg.Uefi.Status — EFI_STATUS

Status codes as the UEFI specification defines them for a 64-bit processor: an error has the top
bit set. Codes stay numbers rather than an enumeration, because drivers combine them with `|`.
-/
import Mathlib.Tactic.Common

namespace OemPkg.Uefi

/-- EFI_STATUS, a `UINTN`. -/
abbrev EfiStatus := BitVec 64

/-- EFI_ERROR: the top bit is set. -/
def efiError (s : EfiStatus) : Bool := s.msb

/-- ENCODE_ERROR: the error with code `c`. -/
def encodeError (c : Nat) : EfiStatus := BitVec.ofNat 64 (0x8000000000000000 + c)

def efiSuccess : EfiStatus := 0#64
def efiInvalidParameter : EfiStatus := encodeError 2
def efiUnsupported : EfiStatus := encodeError 3
def efiBadBufferSize : EfiStatus := encodeError 4
def efiBufferTooSmall : EfiStatus := encodeError 5
def efiDeviceError : EfiStatus := encodeError 7
def efiWriteProtected : EfiStatus := encodeError 8
def efiOutOfResources : EfiStatus := encodeError 9
def efiNotFound : EfiStatus := encodeError 14
def efiAccessDenied : EfiStatus := encodeError 15
def efiAlreadyStarted : EfiStatus := encodeError 20
def efiAborted : EfiStatus := encodeError 21
def efiSecurityViolation : EfiStatus := encodeError 26
def efiCompromisedData : EfiStatus := encodeError 33

@[simp] theorem efiError_success : efiError efiSuccess = false := rfl

/-- The codes of the specification are far below the top bit. -/
theorem efiError_encodeError {c : Nat} (hc : c < 0x8000000000000000) :
    efiError (encodeError c) = true := by
  have hvalue : (encodeError c).toNat = 0x8000000000000000 + c := by
    rw [encodeError, BitVec.toNat_ofNat]
    omega
  rw [efiError, BitVec.msb_eq_decide, hvalue, decide_eq_true_eq]
  omega

@[simp] theorem efiError_invalidParameter : efiError efiInvalidParameter = true :=
  efiError_encodeError (by omega)

@[simp] theorem efiError_unsupported : efiError efiUnsupported = true :=
  efiError_encodeError (by omega)

@[simp] theorem efiError_badBufferSize : efiError efiBadBufferSize = true :=
  efiError_encodeError (by omega)

@[simp] theorem efiError_bufferTooSmall : efiError efiBufferTooSmall = true :=
  efiError_encodeError (by omega)

@[simp] theorem efiError_outOfResources : efiError efiOutOfResources = true :=
  efiError_encodeError (by omega)

@[simp] theorem efiError_notFound : efiError efiNotFound = true :=
  efiError_encodeError (by omega)

@[simp] theorem efiError_aborted : efiError efiAborted = true :=
  efiError_encodeError (by omega)

@[simp] theorem efiError_compromisedData : efiError efiCompromisedData = true :=
  efiError_encodeError (by omega)

@[simp] theorem bufferTooSmall_ne_notFound : efiBufferTooSmall ≠ efiNotFound := by decide
@[simp] theorem compromisedData_ne_notFound : efiCompromisedData ≠ efiNotFound := by decide
@[simp] theorem success_ne_notFound : efiSuccess ≠ efiNotFound := by decide
@[simp] theorem success_ne_badBufferSize : efiSuccess ≠ efiBadBufferSize := by decide
@[simp] theorem invalidParameter_ne_badBufferSize : efiInvalidParameter ≠ efiBadBufferSize := by
  decide
@[simp] theorem bufferTooSmall_ne_badBufferSize : efiBufferTooSmall ≠ efiBadBufferSize := by decide

/-- An error is not `EFI_SUCCESS`. -/
theorem ne_success_of_error {s : EfiStatus} (h : efiError s = true) : s ≠ efiSuccess := by
  rintro rfl
  rw [efiError_success] at h
  exact Bool.false_ne_true h

end OemPkg.Uefi
