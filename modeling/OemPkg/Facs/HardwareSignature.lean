/-
# OemPkg.Facs.HardwareSignature — the data behind the FACS hardware signature

The model of `UpdateFacsHardwareSignatureLib.c`. UpdateFacsHardwareSignature collects four parts in
one buffer and hands a prefix of it to CalculateCrc32:

1. the PCI device ids, and the address of the DSDT;
2. the firmware version;
3. the device settings;
4. the memory map, compacted in place to the start and the size of every protected region.

The buffer is sized in one pass (steps 2 to 6, `prepare`) and filled in a later one. The memory map
is read twice, and the map of the second time may be another one: the two are separate fields of
`FacsServices`. `signature_covers_iff` says when what is hashed covers the second.
-/
import OemPkg.Lib.Compaction
import OemPkg.Uefi.Status

namespace OemPkg.Facs

open OemPkg.Lib OemPkg.Uefi

/-! ## What the function asks for -/

/-- An error status. -/
abbrev EfiFailure := { s : EfiStatus // efiError s = true }

def EfiFailure.notFound : EfiFailure := ⟨efiNotFound, efiError_notFound⟩

/-- FACS_HARDWARE_SIGNATURE_ALGORITHM -/
inductive FacsHardwareSignatureAlgorithm where
  | default
  | facsV2Compatible
  | other (value : Nat)
  deriving DecidableEq

/-- An ACPI table: the signature of its header and, read as an FADT, the two fields used. -/
structure AcpiTable where
  signature : UInt32
  firmwareCtrl : UInt32
  xDsdt : UInt64

/-- EFI_ACPI_1_0_FIXED_ACPI_DESCRIPTION_TABLE_SIGNATURE, "FACP" -/
def fadtSignature : UInt32 := 0x50434146

/-- A handle with the PCI I/O protocol: HandleProtocol's status, and the answer of Pci.Read to a
read of the device id. -/
structure PciHandle where
  handleProtocol : EfiStatus
  pciRead : EfiStatus × UInt32

/-- The settings variable at one moment: GetVariable fails, or there is a value. -/
inductive SettingsVariable where
  | fails (e : EfiFailure)
  | holds (data : Bytes) (h : data ≠ [])

/-- GetVariable on it: the status, `DataSize` afterwards, and what is copied. -/
def SettingsVariable.getVariable : SettingsVariable → Nat → EfiStatus × Nat × Bytes
  | .fails e, dataSize => (e.1, dataSize, [])
  | .holds data _, dataSize =>
      if data.length ≤ dataSize then (efiSuccess, data.length, data)
      else (efiBufferTooSmall, data.length, [])

/-- sizeof (EFI_MEMORY_DESCRIPTOR) -/
def memoryDescriptorSize : Nat := 40

/-- A memory map: descriptors of one size, which may exceed that of the structure. -/
structure MemoryMap where
  descriptorSize : Nat
  large : memoryDescriptorSize ≤ descriptorSize
  descriptors : List (Block descriptorSize)

namespace MemoryMap

/-- The bytes of the map. -/
def bytes (m : MemoryMap) : Bytes := (m.descriptors.map (·.1)).flatten

def size (m : MemoryMap) : Nat := m.descriptorSize * m.descriptors.length

/-- GetMemoryMap into a buffer of `memoryMapSize` bytes, or with a NULL buffer: the status,
`MemoryMapSize` afterwards, and what is copied. -/
def getMemoryMap (m : MemoryMap) (buffer : Bool) (memoryMapSize : Nat) : EfiStatus × Nat × Bytes :=
  if memoryMapSize < m.size then (efiBufferTooSmall, m.size, [])
  else if !buffer then (efiInvalidParameter, memoryMapSize, [])
  else (efiSuccess, m.size, m.bytes)

/-- A descriptor has the size of a descriptor. -/
theorem length_descriptor (m : MemoryMap) :
    ∀ d ∈ m.descriptors.map (·.1), d.length = m.descriptorSize := by
  intro d hd
  obtain ⟨d, -, rfl⟩ := List.mem_map.mp hd
  exact d.2

theorem length_bytes (m : MemoryMap) : m.bytes.length = m.size := by
  rw [bytes, length_flatten_eq, totalLength_of_width m.length_descriptor, List.length_map, size]

end MemoryMap

/-- What the services answer, in the order they are asked. -/
structure FacsServices where
  /-- LocateProtocol for the ACPI SDT protocol, with the tables behind it; NULL is `none` -/
  acpiSdt : EfiStatus × Option (List AcpiTable)
  /-- LocateHandleBuffer for the PCI I/O protocol -/
  locatePci : Except EfiFailure (List PciHandle)
  settingsAtSizing : SettingsVariable
  mapAtSizing : MemoryMap
  /-- AllocateZeroPool succeeds -/
  allocated : Bool
  uefiVersionNumber : UInt32
  settingsAtFill : SettingsVariable
  mapAtFill : MemoryMap
  calculateCrc32 : Except EfiFailure Unit

/-! ## Steps 1 to 9 -/

/-- The loop of LocateAcpiTableBySignature over GetAcpiTable. -/
def findTable (signature : UInt32) : List AcpiTable → Except EfiFailure AcpiTable
  | [] => .error .notFound
  | t :: ts => if t.signature = signature then .ok t else findTable signature ts

/-- LocateAcpiTableBySignature -/
def locateAcpiTableBySignature (sv : FacsServices) (signature : UInt32) :
    Except EfiFailure AcpiTable :=
  match sv.acpiSdt with
  | (status, some tables) =>
      if efiError status then .error .notFound else findTable signature tables
  | (_, none) => .error .notFound

/-- Add 1 to align to a 64-bit boundary if necessary. -/
def alignEven (n : Nat) : Nat := n + n % 2

/-- Where part 2 starts in the buffer, in UINT32s: after the PCI ids and XDsdt. -/
def indexPart2 (pciHandleCount : Nat) : Nat := alignEven pciHandleCount + 2

/-- Where part 3 starts: after the firmware version. -/
def indexPart3 (pciHandleCount : Nat) : Nat := alignEven (indexPart2 pciHandleCount + 1)

/-- Where part 4 starts: after the settings, rounded up to UINT32s. -/
def indexPart4 (pciHandleCount settingsDataSize : Nat) : Nat :=
  alignEven (indexPart3 pciHandleCount + (settingsDataSize + 3) / 4)

/-- BufferCount, the UINT32s of all four parts. -/
def bufferCount (pciHandleCount settingsDataSize memoryMapSize : Nat) : Nat :=
  alignEven (indexPart4 pciHandleCount settingsDataSize + (memoryMapSize + 3) / 4)

/-- `Buffer[i] = v` -/
def setWord (i : Nat) (v : UInt32) (buffer : Bytes) : Bytes :=
  splice (4 * i) (leBytes 4 v.toNat) buffer

/-- Step 7's loop over the PCI handles, from number `i` on. -/
def fillPciIds : (i : Nat) → List PciHandle → Bytes → Bytes
  | _, [], buffer => buffer
  | i, h :: hs, buffer =>
      if efiError h.handleProtocol then fillPciIds (i + 1) hs buffer
      else if efiError h.pciRead.1 then fillPciIds (i + 1) hs buffer
      else fillPciIds (i + 1) hs (setWord i h.pciRead.2 buffer)

theorem length_setWord {i : Nat} {v : UInt32} {buffer : Bytes} (h : 4 * i + 4 ≤ buffer.length) :
    (setWord i v buffer).length = buffer.length :=
  length_splice (by rw [length_leBytes]; exact h)

theorem length_fillPciIds (hs : List PciHandle) : ∀ {i : Nat} {buffer : Bytes},
    4 * (i + hs.length) ≤ buffer.length → (fillPciIds i hs buffer).length = buffer.length := by
  induction hs with
  | nil => intro i buffer _; rfl
  | cons h hs ih =>
      intro i buffer hroom
      rw [List.length_cons] at hroom
      simp only [fillPciIds]
      split_ifs
      · exact ih (by omega)
      · exact ih (by omega)
      · rw [ih (by rw [length_setWord (by omega)]; omega), length_setWord (by omega)]

/-- The buffer before the memory map is read into it. It has room for `memoryMapSize` bytes in
part 4. -/
structure Prepared where
  buffer : Bytes
  indexPart4 : Nat
  memoryMapSize : Nat
  room : 4 * indexPart4 + memoryMapSize ≤ buffer.length

/-- The first three parts of a zeroed buffer. -/
def fillParts (fadt : AcpiTable) (handles : List PciHandle) (version : UInt32)
    (settings : Bytes) (count : Nat) : Bytes :=
  let n := handles.length
  let buffer := fillPciIds 0 handles (List.replicate (4 * count) 0)
  let buffer := setWord n (UInt32.ofNat (fadt.xDsdt.toNat % 2 ^ 32)) buffer
  let buffer := setWord (n + 1) (UInt32.ofNat (fadt.xDsdt.toNat / 2 ^ 32)) buffer
  let buffer := setWord (indexPart2 n) version buffer
  splice (4 * indexPart3 n) settings buffer

theorem length_fillParts (fadt : AcpiTable) (handles : List PciHandle) (version : UInt32)
    {settings : Bytes} {s m : Nat} (hs : settings.length ≤ s) :
    (fillParts fadt handles version settings (bufferCount handles.length s m)).length =
      4 * bufferCount handles.length s m := by
  have hcount : handles.length + 2 ≤ indexPart2 handles.length ∧
      indexPart2 handles.length + 1 ≤ indexPart3 handles.length ∧
      indexPart3 handles.length + (s + 3) / 4 ≤ bufferCount handles.length s m := by
    simp only [indexPart2, indexPart3, indexPart4, bufferCount, alignEven]
    omega
  have hzero : (List.replicate (4 * bufferCount handles.length s m) (0 : UInt8)).length =
      4 * bufferCount handles.length s m := List.length_replicate
  unfold fillParts
  generalize bufferCount handles.length s m = count at *
  have h₁ : (fillPciIds 0 handles (List.replicate (4 * count) 0)).length = 4 * count := by
    rw [length_fillPciIds _ (by rw [hzero]; omega), hzero]
  have hword : ∀ (i : Nat) (v : UInt32) (b : Bytes), b.length = 4 * count → i + 1 ≤ count →
      (setWord i v b).length = 4 * count := fun i v b hb hi => by
    rw [length_setWord (by omega), hb]
  have h₂ := hword handles.length (UInt32.ofNat (fadt.xDsdt.toNat % 2 ^ 32)) _ h₁ (by omega)
  have h₃ := hword (handles.length + 1) (UInt32.ofNat (fadt.xDsdt.toNat / 2 ^ 32)) _ h₂ (by omega)
  have h₄ := hword (indexPart2 handles.length) version _ h₃ (by omega)
  rw [length_splice (by rw [h₄]; omega), h₄]

theorem length_getVariable_le (v : SettingsVariable) (n : Nat) :
    (v.getVariable n).2.2.length ≤ n := by
  cases v with
  | fails e => exact Nat.zero_le n
  | holds data h =>
      rw [SettingsVariable.getVariable]
      split_ifs with hfit
      · exact hfit
      · exact Nat.zero_le n

/-- Part 4 has room for the memory map of the sizing pass. -/
theorem room_part4 (n s m : Nat) : 4 * indexPart4 n s + m ≤ 4 * bufferCount n s m := by
  simp only [bufferCount, alignEven]
  omega

/-- The buffer for parts of the given sizes, its first three parts filled. -/
def fillBuffer (sv : FacsServices) (fadt : AcpiTable) (handles : List PciHandle)
    (settingsDataSize memoryMapSize : Nat) : Prepared where
  buffer := fillParts fadt handles sv.uefiVersionNumber
    (sv.settingsAtFill.getVariable settingsDataSize).2.2
    (bufferCount handles.length settingsDataSize memoryMapSize)
  indexPart4 := indexPart4 handles.length settingsDataSize
  memoryMapSize := memoryMapSize
  room := by
    rw [length_fillParts fadt handles sv.uefiVersionNumber
      (length_getVariable_le sv.settingsAtFill settingsDataSize)]
    exact room_part4 handles.length settingsDataSize memoryMapSize

/-- Steps 1 to 9: everything up to the second GetMemoryMap. -/
def prepare (algorithm : FacsHardwareSignatureAlgorithm) (sv : FacsServices) :
    Except EfiStatus Prepared :=
  if algorithm ≠ .default ∧ algorithm ≠ .facsV2Compatible then .error efiUnsupported
  else
    -- Step 1. Locate the FACS.
    match locateAcpiTableBySignature sv fadtSignature, sv.locatePci with
    | .error e, _ => .error e.1
    | .ok fadt, pci =>
        if fadt.firmwareCtrl = 0 then .error efiBadBufferSize
        else
          -- Steps 2 to 5. Determine the space for the four parts.
          match pci with
          | .error e => .error e.1
          | .ok handles =>
              let sizing := sv.settingsAtSizing.getVariable 0
              let map := sv.mapAtSizing.getMemoryMap false 0
              if sizing.1 ≠ efiBufferTooSmall then .error sizing.1
              else if map.1 ≠ efiBufferTooSmall then .error map.1
              -- Step 6. Allocate the buffer.
              else if !sv.allocated then .error efiOutOfResources
              -- Steps 7 to 9. Fill the first three parts.
              else if indexPart2 handles.length < handles.length + 2 then .error efiBufferTooSmall
              else
                let fill := sv.settingsAtFill.getVariable sizing.2.1
                if efiError fill.1 then .error fill.1
                else .ok (fillBuffer sv fadt handles sizing.2.1 map.2.1)

/-! ## Steps 10 and 11 -/

/-- EfiReservedMemoryType, EfiRuntimeServicesCode, EfiRuntimeServicesData, EfiACPIReclaimMemory and
EfiACPIMemoryNVS. -/
def protectedTypes : List Nat := [0, 5, 6, 9, 10]

/-- Step 10's loop over the entries: `entry` and `mapState` are the byte positions of Entry and
MapState in the buffer. -/
def selectRegions (descriptorSize : Nat) : (count entry mapState : Nat) → Bytes → Nat × Bytes
  | 0, _, mapState, buffer => (mapState, buffer)
  | count + 1, entry, mapState, buffer =>
      if leNat (slice entry 4 buffer) ∈ protectedTypes then
        -- NumberOfPages is obtained before PhysicalStart is stored over the array
        let temp := slice (entry + 24) 8 buffer
        let buffer := splice mapState (slice (entry + 8) 8 buffer) buffer
        let buffer := splice (mapState + 8) temp buffer
        selectRegions descriptorSize count (entry + descriptorSize) (mapState + 16) buffer
      else selectRegions descriptorSize count (entry + descriptorSize) mapState buffer

/-- What is given to CalculateCrc32, and the byte where part 4 starts. -/
structure Hashed where
  input : Bytes
  part4 : Nat

/-- The status, and what was hashed if the function got that far. -/
structure FacsOutcome where
  status : EfiStatus
  hashed : Option Hashed

/-- Steps 10 and 11: read the memory map, select the protected regions, and hash. -/
def hashRegions (sv : FacsServices) (p : Prepared) : FacsOutcome :=
  let part4 := 4 * p.indexPart4
  let (status, memoryMapSize, data) := sv.mapAtFill.getMemoryMap true p.memoryMapSize
  let buffer := splice part4 data p.buffer
  let descriptorSize := sv.mapAtFill.descriptorSize
  let (mapState, buffer) :=
    if status = efiSuccess then
      if 16 ≤ descriptorSize then
        selectRegions descriptorSize (memoryMapSize / descriptorSize) part4 part4 buffer
      else (part4, buffer)
    else (part4, buffer)
  let status := match sv.calculateCrc32 with
    | .ok _ => efiSuccess
    | .error e => e.1
  ⟨status, some ⟨buffer.take mapState, part4⟩⟩

/-- UpdateFacsHardwareSignature -/
def updateFacsHardwareSignature (algorithm : FacsHardwareSignatureAlgorithm) (sv : FacsServices) :
    FacsOutcome :=
  match prepare algorithm sv with
  | .error status => ⟨status, none⟩
  | .ok p => hashRegions sv p

/-! ## What the protected regions of a map are -/

/-- The 16 bytes a descriptor contributes if its type is protected: its PhysicalStart and its
NumberOfPages. -/
def region (d : Bytes) : Option Bytes :=
  if leNat (slice 0 4 d) ∈ protectedTypes then some (slice 8 8 d ++ slice 24 8 d) else none

/-- The bytes hashed cover a memory map: part 4 has a place with the start and the size of every
protected region. -/
def Covers (out : FacsOutcome) (m : MemoryMap) : Prop :=
  ∃ h, out.hashed = some h ∧ ∀ d ∈ m.descriptors, ∀ r, region d.1 = some r →
    ∃ j, slice (h.part4 + 16 * j) 16 h.input = r

theorem length_region {d r : Bytes} (hd : memoryDescriptorSize ≤ d.length) (h : region d = some r) :
    r.length = 16 := by
  unfold region at h
  simp only [memoryDescriptorSize] at hd
  split_ifs at h
  rw [← Option.some.inj h, List.length_append, length_slice (by omega), length_slice (by omega)]

/-- A region is no longer than its descriptor. -/
theorem length_region_le {descriptorSize : Nat} (hlarge : memoryDescriptorSize ≤ descriptorSize)
    (d out : Bytes) (h : region d = some out) : out.length ≤ descriptorSize := by
  simp only [memoryDescriptorSize] at hlarge
  unfold region at h
  split_ifs at h
  rw [← Option.some.inj h]
  simp only [slice, List.length_append, List.length_take]
  omega

/-- **Step 10 is a compaction in place.** -/
theorem selectRegions_eq_compact {descriptorSize : Nat}
    (hlarge : memoryDescriptorSize ≤ descriptorSize) (count : Nat) :
    ∀ {entry mapState : Nat} {buffer : Bytes}, mapState ≤ entry →
      entry + descriptorSize * count ≤ buffer.length →
      selectRegions descriptorSize count entry mapState buffer =
        compact descriptorSize region count entry mapState buffer := by
  simp only [memoryDescriptorSize] at hlarge
  induction count with
  | zero => intro _ _ _ _ _; rfl
  | succ count ih =>
      intro entry mapState buffer hle hroom
      rw [Nat.mul_succ] at hroom
      have htype : slice 0 4 (slice entry descriptorSize buffer) = slice entry 4 buffer :=
        slice_slice (by omega)
      have hstart : slice 8 8 (slice entry descriptorSize buffer) = slice (entry + 8) 8 buffer :=
        slice_slice (by omega)
      have hpages : slice 24 8 (slice entry descriptorSize buffer) = slice (entry + 24) 8 buffer :=
        slice_slice (by omega)
      simp only [selectRegions, compact, region, htype, hstart, hpages]
      split_ifs with hprot
      · have hlen : (slice (entry + 8) 8 buffer).length = 8 := length_slice (by omega)
        have hlen' : (slice (entry + 24) 8 buffer).length = 8 := length_slice (by omega)
        have hwrite : splice (mapState + (slice (entry + 8) 8 buffer).length)
            (slice (entry + 24) 8 buffer) (splice mapState (slice (entry + 8) 8 buffer) buffer) =
              splice mapState (slice (entry + 8) 8 buffer ++ slice (entry + 24) 8 buffer) buffer :=
          splice_splice_adjacent (by omega)
        rw [hlen] at hwrite
        rw [hwrite]
        simp only [List.length_append, hlen, hlen']
        apply ih (by omega)
        rw [length_splice (by rw [List.length_append]; omega)]
        omega
      · exact ih (by omega) (by omega)

/-! ## When the whole map is covered -/

/-- What the calls of steps 1 to 9 must answer. -/
structure Prepares (algorithm : FacsHardwareSignatureAlgorithm) (sv : FacsServices) : Prop where
  algorithm : algorithm = .default ∨ algorithm = .facsV2Compatible
  table : ∃ fadt, locateAcpiTableBySignature sv fadtSignature = .ok fadt ∧ fadt.firmwareCtrl ≠ 0
  pci : ∃ handles, sv.locatePci = .ok handles
  sizing : (sv.settingsAtSizing.getVariable 0).1 = efiBufferTooSmall
  map : 0 < sv.mapAtSizing.size
  allocated : sv.allocated = true
  settings : efiError (sv.settingsAtFill.getVariable
    (sv.settingsAtSizing.getVariable 0).2.1).1 = false

variable {algorithm : FacsHardwareSignatureAlgorithm} {sv : FacsServices}

/-- Asking for the size of the settings never succeeds. -/
theorem error_of_sizing (v : SettingsVariable) : efiError (v.getVariable 0).1 = true := by
  cases v with
  | fails e => exact e.2
  | holds data h =>
      have hpos := List.length_pos_of_ne_nil h
      rw [SettingsVariable.getVariable, if_neg (by omega)]
      exact efiError_bufferTooSmall

/-- Nor does asking for the size of the memory map. -/
theorem getMemoryMap_sizing (m : MemoryMap) :
    m.getMemoryMap false 0 =
      if 0 < m.size then (efiBufferTooSmall, m.size, []) else (efiInvalidParameter, 0, []) := by
  unfold MemoryMap.getMemoryMap
  simp only [Bool.not_false, if_true]

/-- **Steps 1 to 9, once and for all**: they size part 4 for the first memory map, or fail. -/
theorem prepare_cases (algorithm : FacsHardwareSignatureAlgorithm) (sv : FacsServices) :
    (Prepares algorithm sv ∧
      ∃ p, prepare algorithm sv = .ok p ∧ p.memoryMapSize = sv.mapAtSizing.size) ∨
    (¬ Prepares algorithm sv ∧ ∃ e, prepare algorithm sv = .error e ∧ efiError e = true) := by
  unfold prepare
  by_cases halg : algorithm ≠ .default ∧ algorithm ≠ .facsV2Compatible
  · refine Or.inr ⟨fun h => h.algorithm.elim halg.1 halg.2, efiUnsupported, ?_,
      efiError_unsupported⟩
    rw [if_pos halg]
  rw [if_neg halg]
  cases htable : locateAcpiTableBySignature sv fadtSignature with
  | error e =>
      refine Or.inr ⟨fun h => ?_, e.1, rfl, e.2⟩
      rcases h.table with ⟨fadt, hok, -⟩
      rw [htable] at hok
      cases hok
  | ok fadt =>
      dsimp only
      by_cases hctrl : fadt.firmwareCtrl = 0
      · refine Or.inr ⟨fun h => ?_, efiBadBufferSize, if_pos hctrl, efiError_badBufferSize⟩
        rcases h.table with ⟨fadt', hok, hne⟩
        rw [htable, Except.ok.injEq] at hok
        exact hne (hok ▸ hctrl)
      rw [if_neg hctrl]
      cases hpci : sv.locatePci with
      | error e =>
          refine Or.inr ⟨fun h => ?_, e.1, rfl, e.2⟩
          rcases h.pci with ⟨handles, hok⟩
          rw [hpci] at hok
          cases hok
      | ok handles =>
          dsimp only
          by_cases hsizing : (sv.settingsAtSizing.getVariable 0).1 ≠ efiBufferTooSmall
          · exact Or.inr ⟨fun h => hsizing h.sizing, _, if_pos hsizing, error_of_sizing _⟩
          rw [if_neg hsizing, getMemoryMap_sizing]
          by_cases hmap : 0 < sv.mapAtSizing.size
          swap
          · refine Or.inr ⟨fun h => hmap h.map, efiInvalidParameter, ?_, efiError_invalidParameter⟩
            simp only [if_neg hmap]
            exact if_pos (by decide)
          simp only [if_pos hmap, ne_eq, not_true_eq_false, if_false]
          cases halloc : sv.allocated with
          | false =>
              refine Or.inr ⟨fun h => ?_, efiOutOfResources, if_pos rfl, efiError_outOfResources⟩
              exact Bool.false_ne_true (halloc.symm.trans h.allocated)
          | true =>
              have hroom : ¬ indexPart2 handles.length < handles.length + 2 := by
                simp only [indexPart2, alignEven]
                omega
              simp only [Bool.not_true, Bool.false_eq_true, if_false, if_neg hroom]
              cases hfill : efiError (sv.settingsAtFill.getVariable
                  (sv.settingsAtSizing.getVariable 0).2.1).1 with
              | true =>
                  refine Or.inr ⟨fun h => ?_, _, if_pos rfl, hfill⟩
                  exact Bool.false_ne_true (h.settings.symm.trans hfill)
              | false =>
                  have halg' : algorithm = .default ∨ algorithm = .facsV2Compatible := by
                    by_contra hno
                    exact halg (not_or.mp hno)
                  refine Or.inl ⟨⟨halg', ⟨fadt, htable, hctrl⟩, ⟨handles, hpci⟩,
                    not_not.mp hsizing, hmap, halloc, hfill⟩, _, if_neg Bool.false_ne_true, rfl⟩

/-- What is hashed when the second memory map fits: the first three parts, then the regions. -/
theorem hashRegions_of_fits {p : Prepared} (hfit : sv.mapAtFill.size ≤ p.memoryMapSize) :
    (hashRegions sv p).hashed = some
      ⟨p.buffer.take (4 * p.indexPart4) ++
        ((sv.mapAtFill.descriptors.map (·.1)).filterMap region).flatten, 4 * p.indexPart4⟩ := by
  have hlarge := sv.mapAtFill.large
  simp only [memoryDescriptorSize] at hlarge
  have hmap : sv.mapAtFill.getMemoryMap true p.memoryMapSize =
      (efiSuccess, sv.mapAtFill.size, sv.mapAtFill.bytes) := by
    rw [MemoryMap.getMemoryMap, if_neg (by omega)]
    rfl
  have hcount : sv.mapAtFill.size / sv.mapAtFill.descriptorSize =
      (sv.mapAtFill.descriptors.map (·.1)).length := by
    rw [List.length_map, MemoryMap.size]
    exact Nat.mul_div_cancel_left _ (by omega)
  have hbytes := sv.mapAtFill.length_bytes
  have hroom := p.room
  have hlen : (splice (4 * p.indexPart4) sv.mapAtFill.bytes p.buffer).length = p.buffer.length :=
    length_splice (by omega)
  have hwin : slice (4 * p.indexPart4)
      (sv.mapAtFill.descriptorSize * (sv.mapAtFill.descriptors.map (·.1)).length)
      (splice (4 * p.indexPart4) sv.mapAtFill.bytes p.buffer) =
        (sv.mapAtFill.descriptors.map (·.1)).flatten := by
    have h := slice_splice_self sv.mapAtFill.bytes
      (show 4 * p.indexPart4 ≤ p.buffer.length by omega)
    rw [hbytes, MemoryMap.size] at h
    rw [List.length_map, h, MemoryMap.bytes]
  have hsize : sv.mapAtFill.descriptorSize * (sv.mapAtFill.descriptors.map (·.1)).length =
      sv.mapAtFill.size := by rw [List.length_map, MemoryMap.size]
  have hcompact := compact_spec (length_region_le sv.mapAtFill.large) _
    sv.mapAtFill.length_descriptor (le_refl (4 * p.indexPart4))
    (by rw [hlen, hsize]; omega) hwin
  have hsel := selectRegions_eq_compact sv.mapAtFill.large
    (sv.mapAtFill.descriptors.map (·.1)).length (le_refl (4 * p.indexPart4))
    (show 4 * p.indexPart4 + sv.mapAtFill.descriptorSize *
        (sv.mapAtFill.descriptors.map (·.1)).length ≤
      (splice (4 * p.indexPart4) sv.mapAtFill.bytes p.buffer).length by rw [hlen, hsize]; omega)
  have htake : (splice (4 * p.indexPart4) sv.mapAtFill.bytes p.buffer).take (4 * p.indexPart4) =
      p.buffer.take (4 * p.indexPart4) := by
    rw [splice, List.append_assoc, List.take_left' (by
      rw [List.length_take]
      omega)]
  simp only [hashRegions, hmap, if_true, if_pos (show 16 ≤ sv.mapAtFill.descriptorSize by omega),
    hcount, hsel, hcompact, htake]

/-- What is hashed when the second memory map does not fit: the first three parts alone. -/
theorem hashRegions_of_grown {p : Prepared} (hgrown : p.memoryMapSize < sv.mapAtFill.size) :
    (hashRegions sv p).hashed = some ⟨p.buffer.take (4 * p.indexPart4), 4 * p.indexPart4⟩ := by
  have hmap : sv.mapAtFill.getMemoryMap true p.memoryMapSize =
      (efiBufferTooSmall, sv.mapAtFill.size, []) := if_pos hgrown
  have hne : efiBufferTooSmall ≠ efiSuccess := ne_success_of_error efiError_bufferTooSmall
  simp only [hashRegions, hmap, if_neg hne, splice, List.append_nil, List.length_nil, Nat.add_zero,
    List.take_append_drop]

/-- **A map that fits is covered.** -/
theorem covers_of_fits {p : Prepared} (hfit : sv.mapAtFill.size ≤ p.memoryMapSize) :
    Covers (hashRegions sv p) sv.mapAtFill := by
  refine ⟨_, hashRegions_of_fits hfit, fun d hd r hr => ?_⟩
  have hmem : r ∈ (sv.mapAtFill.descriptors.map (·.1)).filterMap region :=
    List.mem_filterMap.mpr ⟨d.1, List.mem_map_of_mem hd, hr⟩
  have hlength : ∀ x ∈ (sv.mapAtFill.descriptors.map (·.1)).filterMap region, x.length = 16 := by
    intro x hx
    rcases List.mem_filterMap.mp hx with ⟨e, he, hx⟩
    exact length_region (by rw [MemoryMap.length_descriptor _ e he]; exact sv.mapAtFill.large) hx
  obtain ⟨j, hj⟩ := List.mem_iff_getElem?.mp hmem
  have hroom := p.room
  have hpart : (p.buffer.take (4 * p.indexPart4)).length = 4 * p.indexPart4 := by
    rw [List.length_take]
    omega
  refine ⟨j, ?_⟩
  show slice (4 * p.indexPart4 + 16 * j) 16 _ = r
  rw [slice, ← List.drop_drop, List.drop_left' hpart]
  exact slice_flatten hlength hj

/-- **A map that does not fit is not covered**, unless it has nothing to cover. -/
theorem covers_of_grown_iff {p : Prepared} (hgrown : p.memoryMapSize < sv.mapAtFill.size) :
    Covers (hashRegions sv p) sv.mapAtFill ↔ ∀ d ∈ sv.mapAtFill.descriptors, region d.1 = none := by
  have hhashed := hashRegions_of_grown hgrown
  constructor
  · rintro ⟨h, hh, hall⟩ d hd
    rw [hhashed, Option.some.injEq] at hh
    subst hh
    cases hr : region d.1 with
    | none => rfl
    | some r =>
        rcases hall d hd r hr with ⟨j, hj⟩
        have hlen := length_region (by rw [d.2]; exact sv.mapAtFill.large) hr
        have hempty :
            slice (4 * p.indexPart4 + 16 * j) 16 (p.buffer.take (4 * p.indexPart4)) = [] := by
          rw [slice, List.drop_eq_nil_of_le, List.take_nil]
          rw [List.length_take]
          omega
        rw [← hj, hempty] at hlen
        exact absurd hlen (by decide)
  · intro hnone
    refine ⟨_, hhashed, fun d hd r hr => ?_⟩
    rw [hnone d hd] at hr
    cases hr

/-- **When the hardware signature covers the memory map.** A successful return covers the map in
force when the buffer is filled, except in one case: every other call succeeds, the map has outgrown
the first one, and it has a protected region. -/
theorem signature_covers_iff (algorithm : FacsHardwareSignatureAlgorithm) (sv : FacsServices) :
    ((updateFacsHardwareSignature algorithm sv).status = efiSuccess →
        Covers (updateFacsHardwareSignature algorithm sv) sv.mapAtFill) ↔
      ¬ (Prepares algorithm sv ∧ sv.calculateCrc32 = .ok () ∧
        sv.mapAtSizing.size < sv.mapAtFill.size ∧
        ∃ d ∈ sv.mapAtFill.descriptors, (region d.1).isSome = true) := by
  rcases prepare_cases algorithm sv with ⟨hprep, p, hp, hsize⟩ | ⟨hprep, e, he, herr⟩
  · simp only [updateFacsHardwareSignature, hp, hprep, true_and]
    cases hcrc : sv.calculateCrc32 with
    | error e =>
        have hstatus : (hashRegions sv p).status ≠ efiSuccess := by
          simp only [hashRegions, hcrc]
          exact ne_success_of_error e.2
        exact ⟨fun _ h => (nomatch h.1), fun _ h => absurd h hstatus⟩
    | ok u =>
        have hstatus : (hashRegions sv p).status = efiSuccess := by
          simp only [hashRegions, hcrc]
        simp only [hstatus, forall_const, true_and]
        by_cases hfit : sv.mapAtFill.size ≤ p.memoryMapSize
        · have hnot : ¬ sv.mapAtSizing.size < sv.mapAtFill.size := by omega
          simp only [covers_of_fits hfit, hnot, false_and, not_false_eq_true]
        · have hgrown : p.memoryMapSize < sv.mapAtFill.size := by omega
          have hmore : sv.mapAtSizing.size < sv.mapAtFill.size := by omega
          rw [covers_of_grown_iff hgrown]
          simp only [hmore, true_and, not_exists, not_and, Option.not_isSome_iff_eq_none]
  · simp only [updateFacsHardwareSignature, he, hprep, false_and, not_false_eq_true, iff_true]
    exact fun h => absurd h (ne_success_of_error herr)

/-- A platform with one PCI device, one byte of settings, and the given memory maps. -/
def onePciDevice (mapAtSizing mapAtFill : MemoryMap) : FacsServices where
  acpiSdt := (efiSuccess, some [⟨fadtSignature, 1, 0⟩])
  locatePci := .ok [⟨efiSuccess, efiSuccess, 0x8086⟩]
  settingsAtSizing := .holds [1] (by decide)
  mapAtSizing := mapAtSizing
  allocated := true
  uefiVersionNumber := 1
  settingsAtFill := .holds [1] (by decide)
  mapAtFill := mapAtFill
  calculateCrc32 := .ok ()

/-- A descriptor of 40 bytes: its type, the lowest bytes of its start and of its size, and zeros. -/
def descriptor (type start pages : UInt8) : Block memoryDescriptorSize :=
  ⟨[type, 0, 0, 0, 0, 0, 0, 0, start, 0, 0, 0, 0, 0, 0, 0, 0, 0, 0, 0, 0, 0, 0, 0,
    pages, 0, 0, 0, 0, 0, 0, 0, 0, 0, 0, 0, 0, 0, 0, 0], rfl⟩

/-- A map of `n` such descriptors, each a reserved region. -/
def reservedRegions (n : Nat) : MemoryMap :=
  ⟨memoryDescriptorSize, le_refl _, List.replicate n (descriptor 0 0xAB 0xCD)⟩

/-- The pool allocation splits a region: the map gains a descriptor, the status is EFI_SUCCESS, and
neither the start nor the size of any region is among the bytes hashed. -/
theorem signature_misses_regions :
    ¬ ∀ (algorithm : FacsHardwareSignatureAlgorithm) (sv : FacsServices),
      (updateFacsHardwareSignature algorithm sv).status = efiSuccess →
      ∃ h, (updateFacsHardwareSignature algorithm sv).hashed = some h ∧
        ∀ d ∈ sv.mapAtFill.descriptors, leNat (slice 0 4 d.1) ∈ protectedTypes →
          slice 8 8 d.1 <:+: h.input ∧ slice 24 8 d.1 <:+: h.input := by
  intro hcovers
  have hmiss : ¬ ∃ h, (updateFacsHardwareSignature .default
      (onePciDevice (reservedRegions 1) (reservedRegions 2))).hashed = some h ∧
        (0xAB : UInt8) ∈ h.input := by
    rintro ⟨h, hh, hmem⟩
    have hinput : (updateFacsHardwareSignature .default
        (onePciDevice (reservedRegions 1) (reservedRegions 2))).hashed.map
          (fun h => decide ((0xAB : UInt8) ∈ h.input)) = some false := by decide +kernel
    rw [hh, Option.map_some, decide_eq_true hmem] at hinput
    exact absurd hinput (by decide)
  obtain ⟨h, hh, hall⟩ := hcovers .default (onePciDevice (reservedRegions 1) (reservedRegions 2))
    (by decide +kernel)
  rcases hall (descriptor 0 0xAB 0xCD) List.mem_cons_self (by decide +kernel) with ⟨hstart, -⟩
  exact hmiss ⟨h, hh, hstart.subset (by decide)⟩

end OemPkg.Facs
