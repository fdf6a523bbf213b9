/-
# OemPkg.Boot.MemoryMapPrint — the memory map in the log

PrintMemoryMap (`DeviceBootManagerLib.c`) reads the memory map twice: for its size, and then into a
block it has allocated with two descriptors to spare. GetMemoryMap is not told of those, and the
allocation may have changed the map. `printMemoryMap_prints` says what comes of it, for every pair
of maps: the second one as a whole, or nothing. The labels are looked up in a table that
EfiMaxMemoryType is not the end of; `labels_in_table_iff` is about that.
-/
import OemPkg.Facs.RegionWords

namespace OemPkg.Boot

open OemPkg.Lib OemPkg.Uefi OemPkg.Facs

/-- mMemoryType -/
def mMemoryType : List String := [
  "EfiReservedMemoryType      ",
  "EfiLoaderCode              ",
  "EfiLoaderData              ",
  "EfiBootServicesCode        ",
  "EfiBootServicesData        ",
  "EfiRuntimeServicesCode     ",
  "EfiRuntimeServicesData     ",
  "EfiConventionalMemory      ",
  "EfiUnusableMemory          ",
  "EfiACPIReclaimMemory       ",
  "EfiACPIMemoryNVS           ",
  "EfiMemoryMappedIO          ",
  "EfiMemoryMappedIOPortSpace ",
  "EfiPalCode                 ",
  "EfiMaxMemoryType           "]

/-- The platform's choices, and EfiMaxMemoryType. -/
structure MemMapPcds where
  enableMemMapOutput : UInt8
  enableMemMapTypes : UInt32
  enableMemMapDumpOutput : UInt8
  efiMaxMemoryType : Nat

/-- What is printed. -/
inductive MemMapLine where
  /-- the label is `none` if the type is past the end of mMemoryType -/
  | region (label : Option String) (physicalStart numberOfPages : Nat)
  /-- DUMP_HEX -/
  | dump (physicalStart : Nat)
  | invalidMemoryType (type : Nat)
  deriving DecidableEq

/-- Memory with the block that holds the map: one field of the descriptor at `entry`. -/
def readField (beyond : Nat → UInt8) (block : Bytes) (entry off w : Nat) : Nat :=
  leNat (readPast beyond block (entry + off) w)

variable (pcds : MemMapPcds)

/-- The body of the loop, for a descriptor with these fields. -/
def printDescriptor (type physicalStart numberOfPages : Nat) : List MemMapLine :=
  if type ≤ pcds.efiMaxMemoryType then
    if (1 <<< type) &&& pcds.enableMemMapTypes.toNat ≠ 0 then
      .region mMemoryType[type]? physicalStart numberOfPages ::
        if pcds.enableMemMapDumpOutput ≠ 0 then [.dump physicalStart] else []
    else []
  else [.invalidMemoryType type]

/-- PrintMemoryMap. The map is `first` before AllocatePool and `second` after it. -/
def printMemoryMap (first second : MemoryMap) (allocatePool : (n : Nat) → Option (Block n))
    (beyond : Nat → UInt8) : List MemMapLine :=
  if pcds.enableMemMapOutput = 0 then []
  else
    let (status, memoryMapSize, _) := first.getMemoryMap false 0
    if status ≠ efiBufferTooSmall then []
    else
      match allocatePool (memoryMapSize + memoryDescriptorSize * 2) with
      | none => []
      | some block =>
          let (status, memoryMapSize, data) := second.getMemoryMap true memoryMapSize
          if status = efiSuccess then
            let block := splice 0 data block.1
            let count := memoryMapSize / second.descriptorSize
            (List.range count).flatMap fun i =>
              let entry := second.descriptorSize * i
              printDescriptor pcds (readField beyond block entry 0 4)
                (readField beyond block entry 8 8) (readField beyond block entry 24 8)
          else []

/-- The type of a descriptor. -/
def memoryType (d : Bytes) : Nat := leNat (slice 0 4 d)

/-- What is printed of a descriptor. -/
def descriptorLines (d : Bytes) : List MemMapLine :=
  printDescriptor pcds (memoryType d) (physicalStart d) (numberOfPages d)

/-! ## The walk -/

/-- A field of descriptor `i`, read through the block. -/
theorem readField_descriptor {m : MemoryMap} (beyond : Nat → UInt8) {block : Bytes} {i off w : Nat}
    {d : Bytes} (hd : (m.descriptors.map (·.1))[i]? = some d) (hw : off + w ≤ memoryDescriptorSize)
    (hblock : m.size ≤ block.length) :
    readField beyond (splice 0 m.bytes block) (m.descriptorSize * i) off w =
      leNat (slice off w d) := by
  have hi : i < m.descriptors.length := by
    have := (List.getElem?_eq_some_iff.mp hd).1
    rwa [List.length_map] at this
  have hend : m.descriptorSize * i + off + w ≤ m.bytes.length := by
    rw [m.length_bytes, MemoryMap.size]
    have hnext : m.descriptorSize * (i + 1) ≤ m.descriptorSize * m.descriptors.length :=
      Nat.mul_le_mul_left _ hi
    have hlarge := m.large
    rw [Nat.mul_succ] at hnext
    omega
  have hlength : (splice 0 m.bytes block).length = block.length :=
    length_splice (by rw [Nat.zero_add, m.length_bytes]; exact hblock)
  have hroom : m.descriptorSize * i + off + w ≤ (splice 0 m.bytes block).length := by
    rw [hlength]
    rw [m.length_bytes] at hend
    exact hend.trans hblock
  rw [readField, readPast_eq_slice hroom]
  congr 1
  calc slice (m.descriptorSize * i + off) w (splice 0 m.bytes block)
      = slice (m.descriptorSize * i + off) w
          (slice 0 m.bytes.length (splice 0 m.bytes block)) := by
        rw [slice_slice hend, Nat.zero_add]
    _ = slice (m.descriptorSize * i + off) w m.bytes := by
        rw [slice_splice_self m.bytes (Nat.zero_le _)]
    _ = slice off w (slice (m.descriptorSize * i) m.descriptorSize m.bytes) := by
        rw [slice_slice (hw.trans m.large)]
    _ = slice off w d := by rw [MemoryMap.bytes, slice_flatten m.length_descriptor hd]

/-- The number of rounds, and what they print. -/
theorem flatMap_entries (m : MemoryMap) (beyond : Nat → UInt8) {block : Bytes}
    (hblock : m.size ≤ block.length) :
    ((List.range (m.size / m.descriptorSize)).flatMap fun i =>
      printDescriptor pcds
        (readField beyond (splice 0 m.bytes block) (m.descriptorSize * i) 0 4)
        (readField beyond (splice 0 m.bytes block) (m.descriptorSize * i) 8 8)
        (readField beyond (splice 0 m.bytes block) (m.descriptorSize * i) 24 8)) =
      (m.descriptors.map (·.1)).flatMap (descriptorLines pcds) := by
  have hpos : 0 < m.descriptorSize := lt_of_lt_of_le (by decide) m.large
  have hcount : m.size / m.descriptorSize = (m.descriptors.map (·.1)).length := by
    rw [MemoryMap.size, Nat.mul_div_cancel_left _ hpos, List.length_map]
  rw [hcount]
  conv_rhs => rw [← map_slice_flatten m.length_descriptor, List.flatMap_map]
  apply List.flatMap_congr
  intro i hi
  have hitem := List.getElem?_eq_getElem (List.mem_range.mp hi)
  rw [readField_descriptor beyond hitem (by decide) hblock,
    readField_descriptor beyond hitem (by decide) hblock,
    readField_descriptor beyond hitem (by decide) hblock, slice_flatten m.length_descriptor hitem]
  rfl

/-- The map is printed: there is one, a block for it, and it has not grown since its size was asked
for. -/
structure Prints (first second : MemoryMap) (allocatePool : (n : Nat) → Option (Block n)) :
    Prop where
  enabled : pcds.enableMemMapOutput ≠ 0
  first_pos : 0 < first.size
  allocated : (allocatePool (first.size + memoryDescriptorSize * 2)).isSome = true
  fits : second.size ≤ first.size

variable {pcds} {first second : MemoryMap} {allocatePool : (n : Nat) → Option (Block n)}
  {beyond : Nat → UInt8}

theorem getMemoryMap_size (m : MemoryMap) (h : 0 < m.size) :
    m.getMemoryMap false 0 = (efiBufferTooSmall, m.size, []) :=
  if_pos h

theorem printMemoryMap_of_prints (h : Prints pcds first second allocatePool) :
    printMemoryMap pcds first second allocatePool beyond =
      (second.descriptors.map (·.1)).flatMap (descriptorLines pcds) := by
  obtain ⟨block, hblock⟩ := Option.isSome_iff_exists.mp h.allocated
  have hroom : second.size ≤ block.1.length := by
    rw [block.2]
    exact h.fits.trans (Nat.le_add_right _ _)
  have hsecond : second.getMemoryMap true first.size = (efiSuccess, second.size, second.bytes) := by
    rw [MemoryMap.getMemoryMap, if_neg (Nat.not_lt.mpr h.fits)]
    rfl
  unfold printMemoryMap
  rw [if_neg h.enabled, getMemoryMap_size first h.first_pos]
  simp only [ne_eq, not_true_eq_false, if_false, hblock, hsecond, if_true]
  exact flatMap_entries pcds second beyond hroom

theorem printMemoryMap_of_not_prints (h : ¬ Prints pcds first second allocatePool) :
    printMemoryMap pcds first second allocatePool beyond = [] := by
  unfold printMemoryMap
  by_cases henabled : pcds.enableMemMapOutput = 0
  · exact if_pos henabled
  rw [if_neg henabled]
  by_cases hfirst : 0 < first.size
  · rw [getMemoryMap_size first hfirst]
    simp only [ne_eq, not_true_eq_false, if_false]
    cases hblock : allocatePool (first.size + memoryDescriptorSize * 2) with
    | none => rfl
    | some block =>
        -- only a map that has grown is left
        have hgrown : first.size < second.size := by
          by_contra hfits
          exact h ⟨henabled, hfirst, by rw [hblock]; rfl, Nat.not_lt.mp hfits⟩
        have hsecond : second.getMemoryMap true first.size = (efiBufferTooSmall, second.size, []) :=
          if_pos hgrown
        simp only [hsecond]
        exact if_neg (by decide)
  · have hempty : first.getMemoryMap false 0 = (efiInvalidParameter, 0, []) := by
      rw [MemoryMap.getMemoryMap, if_neg hfirst]
      rfl
    -- an empty map: the call with NULL fails with another status
    rw [hempty]
    exact if_pos (by decide)

variable (pcds first second allocatePool beyond) in
/-- **The second map or nothing**, for every two maps, block and rest of memory: in order, a line for
each descriptor that is selected or invalid, if the map still has the room it was asked the size of;
two descriptors more are too many, though the block would hold them. No read leaves the block. -/
theorem printMemoryMap_prints :
    (Prints pcds first second allocatePool → printMemoryMap pcds first second allocatePool beyond =
      (second.descriptors.map (·.1)).flatMap (descriptorLines pcds)) ∧
    (¬ Prints pcds first second allocatePool →
      printMemoryMap pcds first second allocatePool beyond = []) :=
  ⟨printMemoryMap_of_prints, printMemoryMap_of_not_prints⟩

/-! ## The labels -/

/-- A region of this type gets a line with its label. -/
def Selected (pcds : MemMapPcds) (type : Nat) : Prop :=
  type ≤ pcds.efiMaxMemoryType ∧ (1 <<< type) &&& pcds.enableMemMapTypes.toNat ≠ 0

theorem unlabelled_mem_iff {type start pages s p : Nat} :
    MemMapLine.region none s p ∈ printDescriptor pcds type start pages ↔
      (s = start ∧ p = pages) ∧ Selected pcds type ∧ mMemoryType.length ≤ type := by
  have hdumps : MemMapLine.region none s p ∉
      if pcds.enableMemMapDumpOutput ≠ 0 then [.dump start] else [] := by
    split_ifs <;> simp
  unfold printDescriptor
  by_cases htype : type ≤ pcds.efiMaxMemoryType
  · by_cases hselected : (1 <<< type) &&& pcds.enableMemMapTypes.toNat ≠ 0
    · rw [if_pos htype, if_pos hselected, List.mem_cons, or_iff_left hdumps,
        MemMapLine.region.injEq, eq_comm, List.getElem?_eq_none_iff]
      constructor
      · exact fun ⟨hlength, hfields⟩ => ⟨hfields, ⟨htype, hselected⟩, hlength⟩
      · exact fun ⟨hfields, _, hlength⟩ => ⟨hlength, hfields⟩
    · rw [if_pos htype, if_neg hselected]
      exact iff_of_false List.not_mem_nil fun h => hselected h.2.1.2
  · rw [if_neg htype]
    exact iff_of_false (by simp) fun h => htype h.2.1.1

variable (pcds first second allocatePool beyond) in
/-- **When every label comes from the table**: exactly if the map is not printed, or no descriptor in
it has a selected type past the table. -/
theorem labels_in_table_iff :
    (∀ start pages, .region none start pages ∉
        printMemoryMap pcds first second allocatePool beyond) ↔
      (Prints pcds first second allocatePool → ∀ d ∈ second.descriptors,
        Selected pcds (memoryType d.1) → memoryType d.1 < mMemoryType.length) := by
  by_cases h : Prints pcds first second allocatePool
  · rw [printMemoryMap_of_prints h]
    constructor
    · intro hlabels _ d hd hselected
      by_contra hpast
      apply hlabels (physicalStart d.1) (numberOfPages d.1)
      refine List.mem_flatMap.mpr ⟨d.1, List.mem_map_of_mem hd, ?_⟩
      exact unlabelled_mem_iff.mpr ⟨⟨rfl, rfl⟩, hselected, Nat.not_lt.mp hpast⟩
    · intro hinside start pages hmem
      obtain ⟨b, hb, hline⟩ := List.mem_flatMap.mp hmem
      obtain ⟨d, hd, rfl⟩ := List.mem_map.mp hb
      obtain ⟨-, hselected, hpast⟩ := unlabelled_mem_iff.mp hline
      exact absurd (hinside h d hd hselected) (Nat.not_lt.mpr hpast)
  · rw [printMemoryMap_of_not_prints h]
    exact iff_of_true (fun _ _ => List.not_mem_nil) fun hprints => absurd hprints h

/-- All types up to EfiMaxMemoryType are printed, which is 15: the table ends at 14. -/
def allTypes : MemMapPcds := ⟨1, 0xFFFFFFFF, 0, 15⟩

/-- A region of the type 15 alone. -/
def pastTable : MemoryMap := ⟨memoryDescriptorSize, le_refl _, [descriptor 15 1 2]⟩

/-- It passes the test of the bound, and is printed without a label. -/
theorem labels_in_table_iff_past_end :
    15 ≤ allTypes.efiMaxMemoryType ∧ ∃ start pages, MemMapLine.region none start pages ∈
      printMemoryMap allTypes pastTable pastTable
        (fun n => some ⟨List.replicate n 0, List.length_replicate⟩) (fun _ => 0) := by
  refine ⟨by decide, ?_⟩
  by_contra hlabels
  have hinside := (labels_in_table_iff allTypes pastTable pastTable _ _).mp
    (fun start pages h => hlabels ⟨start, pages, h⟩) ⟨by decide, by decide, rfl, le_refl _⟩
  exact absurd (hinside (descriptor 15 1 2) List.mem_cons_self ⟨by decide, by decide⟩) (by decide)

end OemPkg.Boot
