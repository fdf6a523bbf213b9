/-
# OemPkg.Config.PolicyCreator — from knob tables to the configuration policy

The model of `OemConfigPolicyCreatorPei.c`. Every knob has a default, a cache, and perhaps a value
in variable storage; a platform may select a profile, a list of overrides of the defaults.
CreateConfPolicy applies the profile to the caches, then goes over the knobs: the stored value, if
there is one, replaces the cache, and what the cache then holds is appended to the policy.

The tables are generated at build time and the libraries that read variable storage, serialise an
entry and publish a policy belong to other packages: they are `ConfigTables` and `ConfigServices`.
The caches are disjoint, so they are a map from knob numbers to bytes.
-/
import OemPkg.Lib.Bytes
import OemPkg.Uefi.Status
import Mathlib.Logic.Function.Basic

namespace OemPkg.Config

open OemPkg.Lib OemPkg.Uefi

/-! ## Generated tables -/

/-- What lies at an address, read forward. -/
abbrev Memory := Nat → UInt8

/-- The first `n` bytes at an address. -/
def copyMem (n : Nat) (source : Memory) : Bytes := (List.range n).map source

/-- An entry of gKnobData. The name is ASCII, without its terminator. -/
structure KnobData where
  knob : Nat
  name : List UInt8
  nameSize : Nat
  vendorNamespace : Block 16
  defaultValue : Memory
  valueSize : Nat
  validator : Option (Bytes → Bool)

/-- An entry of a profile's Overrides. -/
structure KnobOverride where
  knob : Nat
  value : Memory

/-- The generated tables and header constants. -/
structure ConfigTables where
  gKnobData : List KnobData
  /-- gProfileData: the overrides of each profile -/
  gProfileData : List (List KnobOverride)
  /-- gProfileFlavorNames -/
  gProfileFlavorNames : Nat → List UInt8
  /-- GENERIC_PROFILE_FLAVOR_NAME -/
  genericProfileFlavorName : List UInt8
  /-- PROFILE_FLAVOR_NAME_LENGTH -/
  profileFlavorNameLength : Nat
  /-- GENERIC_PROFILE_INDEX -/
  genericProfileIndex : UInt32
  /-- the generic profile is none of the table -/
  generic_not_listed : gProfileData.length ≤ genericProfileIndex.toNat

/-- The knob caches. -/
abbrev Caches := Nat → Bytes

/-- An entry for ConvertVariableEntryToVariableList. -/
structure ConfigVarListEntry where
  name : List UInt16
  guid : Block 16
  attributes : BitVec 32
  data : Bytes
  dataSize : UInt32

/-- VARIABLE_ATTRIBUTE_NV_BS_RT -/
def variableAttributeNvBsRt : BitVec 32 := 7#32

/-- OEM_CONFIG_METADATA_POLICY -/
structure OemConfigMetadataPolicy where
  activeProfileIndex : UInt32
  activeProfileFlavorName : List UInt8

/-- The libraries CreateConfPolicy calls. -/
structure ConfigServices where
  /-- GetVarListSize: the status and the size, for a name size and a value size -/
  getVarListSize : Nat → Nat → EfiStatus × UInt32
  /-- AllocatePool succeeds -/
  allocated : Bool
  getActiveProfileIndex : EfiStatus × UInt32
  /-- GetConfigKnobOverride for knob `i` under the given name: the status, and what it writes to the
  cache if that is EFI_SUCCESS -/
  getConfigKnobOverride : (i : Nat) → List UInt16 → EfiStatus × Memory
  /-- ConvertVariableEntryToVariableList: the status, and what it writes into the space given -/
  convertVariableEntryToVariableList : ConfigVarListEntry → Nat → EfiStatus × Bytes
  /-- SetPolicy for the metadata -/
  setMetadataPolicy : EfiStatus

section Functions

variable (T : ConfigTables) (sv : ConfigServices)

/-! ## ApplyProfileOverrides -/

/-- CopyMem to the cache of knob `knob`. -/
def writeCache (knob : Nat) (source : Memory) (cache : Caches) : Caches :=
  match T.gKnobData[knob]? with
  | some d => Function.update cache knob (copyMem d.valueSize source)
  | none => cache

/-- Write the default of knob `knob` to its cache. -/
def writeDefault (knob : Nat) (cache : Caches) : Caches :=
  match T.gKnobData[knob]? with
  | some d => writeCache T knob d.defaultValue cache
  | none => cache

/-- Knob number `knob` is in the table, at its own place. -/
def knobInOrder (knob : Nat) : Bool :=
  match T.gKnobData[knob]? with
  | some d => d.knob == knob
  | none => false

/-- The loop of ApplyProfileOverrides. `applied` are the overrides before the current one, latest
first: when the current one is out of order, their knobs get their defaults back in this order. -/
def applyOverrides : (applied rest : List KnobOverride) → Caches → EfiStatus × Caches
  | _, [], cache => (efiSuccess, cache)
  | applied, o :: rest, cache =>
      if knobInOrder T o.knob then
        applyOverrides (o :: applied) rest (writeCache T o.knob o.value cache)
      else
        (efiInvalidParameter, applied.foldl (fun cache o => writeDefault T o.knob cache) cache)

/-- ApplyProfileOverrides -/
def applyProfileOverrides (activeProfileIndex : Nat) (cache : Caches) : EfiStatus × Caches :=
  applyOverrides T [] (T.gProfileData.getD activeProfileIndex []) cache

/-! ## CreateConfPolicy -/

/-- SafeUint32Mult and SafeUint32Add on a mathematical result. -/
def safeUint32 (n : Nat) : Option Nat := if n < 2 ^ 32 then some n else none

/-- The loop that adds up NeededSize. -/
def neededSize : List KnobData → Nat → Option Nat
  | [], needed => some needed
  | d :: ds, needed =>
      match safeUint32 (d.nameSize % 2 ^ 32 * 2) with
      | none => none
      | some unicodeNameSize =>
          let (status, size) := sv.getVarListSize unicodeNameSize d.valueSize
          if efiError status then none
          else
            match safeUint32 (needed + size.toNat) with
            | none => none
            | some needed => neededSize ds needed

/-- AsciiStrToUnicodeStrS into a buffer said to hold `destMax` characters: on an error the buffer
stays as it was. -/
def asciiStrToUnicodeStrS (source : List UInt8) (destination : List UInt16) (destMax : Nat) :
    List UInt16 :=
  if source.length < destMax then source.map fun c => UInt16.ofNat c.toNat else destination

/-- The profile index asked for: the generic one if the platform cannot say. -/
def requestedProfile : UInt32 :=
  if efiError sv.getActiveProfileIndex.1 then T.genericProfileIndex else sv.getActiveProfileIndex.2

/-- Which profile is active, as CreateConfPolicy settles it: the caches with its overrides applied,
and the index it reports. -/
def selectProfile (cache : Caches) : Caches × UInt32 :=
  let index := requestedProfile T sv
  if index.toNat < T.gProfileData.length then
    let applied := applyProfileOverrides T index.toNat cache
    -- a profile that could not be applied has left the generic one
    (applied.2, if efiError applied.1 then T.genericProfileIndex else index)
  else (cache, T.genericProfileIndex)

/-- The state of the loop over the knobs: the caches, the local UnicodeName, and the policy so far
with the entries it was made from. -/
structure Populating where
  cache : Caches
  unicodeName : List UInt16
  policy : Bytes
  entries : List ConfigVarListEntry

/-- Offset, a `UINT32`. -/
def Populating.offset (st : Populating) : Nat := st.policy.length % 2 ^ 32

/-- The caches after GetConfigKnobOverride answered `got` for knob `i`: a value from flash that does
not meet the constraints of the knob is replaced by the default. -/
def readStored (i : Nat) (d : KnobData) (got : EfiStatus × Memory) (cache : Caches) : Caches :=
  let cache :=
    if got.1 = efiSuccess then Function.update cache i (copyMem d.valueSize got.2) else cache
  if got.1 = efiSuccess ∧ (d.validator.any fun accepts => !accepts (cache i)) = true then
    Function.update cache i (copyMem d.valueSize d.defaultValue)
  else cache

/-- One round of the loop, for knob number `i`. -/
def populateKnob (needed : Nat) (i : Nat) (d : KnobData) (st : Populating) :
    Except EfiStatus Populating :=
  let unicodeName := asciiStrToUnicodeStrS d.name st.unicodeName d.nameSize
  let got := sv.getConfigKnobOverride i unicodeName
  -- no override, or stale data of another size, is no failure
  if efiError got.1 ∧ got.1 ≠ efiNotFound ∧ got.1 ≠ efiBadBufferSize then .error got.1
  else
    let cache := readStored i d got st.cache
    let entry : ConfigVarListEntry :=
      ⟨unicodeName, d.vendorNamespace, variableAttributeNvBsRt, cache i, UInt32.ofNat d.valueSize⟩
    -- the space left, a `UINTN` difference
    let varListSize := (2 ^ 64 + needed - st.offset) % 2 ^ 64
    let list := sv.convertVariableEntryToVariableList entry varListSize
    if efiError list.1 then .error list.1
    else .ok ⟨cache, unicodeName, st.policy ++ list.2, st.entries ++ [entry]⟩

/-- The loop over the knobs from number `i` on. -/
def populate (needed : Nat) : (i : Nat) → List KnobData → Populating → Except EfiStatus Populating
  | _, [], st => .ok st
  | i, d :: ds, st =>
      match populateKnob sv needed i d st with
      | .error status => .error status
      | .ok st => populate needed (i + 1) ds st

/-- What CreateConfPolicy leaves behind. -/
structure ConfOutcome where
  status : EfiStatus
  /-- the policy, with the entries it was made from -/
  policy : Option (Bytes × List ConfigVarListEntry)
  metadata : Option OemConfigMetadataPolicy
  /-- the times the allocated buffer was freed -/
  freed : Nat

/-- CreatePolicyExit after an error: the buffer, if there is one, is freed. -/
def createPolicyExit (status : EfiStatus) (allocated : Bool) : ConfOutcome :=
  ⟨status, none, none, if allocated then 1 else 0⟩

/-- CreateConfPolicy. `unicodeName` is the uninitialised local buffer. -/
def createConfPolicy (cache : Caches) (unicodeName : List UInt16) : ConfOutcome :=
  match neededSize sv T.gKnobData 0 with
  | none => createPolicyExit efiUnsupported false
  | some needed =>
      if 2 ^ 16 ≤ needed then createPolicyExit efiUnsupported false
      else if !sv.allocated then createPolicyExit efiOutOfResources false
      else
        let selected := selectProfile T sv cache
        match populate sv needed 0 T.gKnobData ⟨selected.1, unicodeName, [], []⟩ with
        | .error status => createPolicyExit status true
        | .ok st =>
            if st.offset ≠ needed then createPolicyExit efiAborted true
            else
              let profileName :=
                if selected.2 = T.genericProfileIndex then T.genericProfileFlavorName
                else T.gProfileFlavorNames selected.2.toNat
              -- AsciiStrCpyS
              if T.profileFlavorNameLength ≤ profileName.length then
                createPolicyExit efiBufferTooSmall true
              else if efiError sv.setMetadataPolicy then createPolicyExit sv.setMetadataPolicy true
              else
                ⟨sv.setMetadataPolicy, some (st.policy, st.entries),
                  some ⟨selected.2, profileName⟩, 0⟩

end Functions

end OemPkg.Config
