/-
# OemPkg.Facs.RegionWords — what Step 10 leaves of a memory map

Step 10 of UpdateFacsHardwareSignature writes 16 bytes for every protected region over the very
descriptors it is reading. `compaction_in_place` says that nothing is lost by that: the 64-bit words
of Part 4 are those that a compaction into another buffer would give (`regionWords`), whatever the
stride, the number of descriptors and the pattern of types; so the descriptors of the other types do
not matter to what is hashed.
-/
import OemPkg.Facs.HardwareSignature

namespace OemPkg.Facs

open OemPkg.Lib OemPkg.Uefi

/-! ## The plain compaction -/

/-- The type of the descriptor is one of the five that count. -/
def isProtected (d : Bytes) : Bool := decide (leNat (slice 0 4 d) ∈ protectedTypes)

def physicalStart (d : Bytes) : Nat := leNat (slice 8 8 d)

def numberOfPages (d : Bytes) : Nat := leNat (slice 24 8 d)

/-- **The plain compaction**: in order, PhysicalStart and NumberOfPages of each protected
descriptor. -/
def regionWords (descriptors : List Bytes) : List Nat :=
  (descriptors.filter isProtected).flatMap fun d => [physicalStart d, numberOfPages d]

/-- The 64-bit words from byte `first` up to byte `last` of a buffer. -/
def wordsBetween (first last : Nat) (buffer : Bytes) : List Nat :=
  (List.range ((last - first) / 8)).map fun i => leNat (slice (first + 8 * i) 8 buffer)

/-- The words of the plain compaction as they lie in memory. -/
def regionWordBytes (descriptors : List Bytes) : List Bytes :=
  (descriptors.filter isProtected).flatMap fun d => [slice 8 8 d, slice 24 8 d]

theorem map_leNat_regionWordBytes (descriptors : List Bytes) :
    (regionWordBytes descriptors).map leNat = regionWords descriptors := by
  rw [regionWordBytes, regionWords, List.map_flatMap]
  rfl

theorem length_of_mem_regionWordBytes {descriptors : List Bytes}
    (hlarge : ∀ d ∈ descriptors, memoryDescriptorSize ≤ d.length) :
    ∀ b ∈ regionWordBytes descriptors, b.length = 8 := by
  simp only [memoryDescriptorSize] at hlarge
  intro b hb
  obtain ⟨d, hd, hb⟩ := List.mem_flatMap.mp hb
  have hlength := hlarge d (List.mem_filter.mp hd).1
  rcases List.mem_pair.mp hb with rfl | rfl
  · exact length_slice (by omega)
  · exact length_slice (by omega)

/-- A region is a word and a word. -/
theorem flatten_filterMap_region (descriptors : List Bytes) :
    (descriptors.filterMap region).flatten = (regionWordBytes descriptors).flatten := by
  induction descriptors with
  | nil => rfl
  | cons d descriptors ih =>
      by_cases hd : leNat (slice 0 4 d) ∈ protectedTypes
      · have hregion : region d = some (slice 8 8 d ++ slice 24 8 d) := if_pos hd
        have hprotected : isProtected d = true := decide_eq_true hd
        rw [List.filterMap_cons, hregion, regionWordBytes, List.filter_cons, if_pos hprotected,
          List.flatMap_cons, List.flatten_append, List.flatten_cons, ih, regionWordBytes]
        simp only [List.flatten_cons, List.flatten_nil, List.append_nil]
      · have hregion : region d = none := if_neg hd
        have hprotected : ¬ isProtected d = true := fun h => hd (of_decide_eq_true h)
        rw [List.filterMap_cons, hregion, regionWordBytes, List.filter_cons, if_neg hprotected,
          ih, regionWordBytes]

/-- The words determine their bytes. -/
theorem regionWordBytes_congr {descriptors descriptors' : List Bytes}
    (hlarge : ∀ d ∈ descriptors, memoryDescriptorSize ≤ d.length)
    (hlarge' : ∀ d ∈ descriptors', memoryDescriptorSize ≤ d.length)
    (h : regionWords descriptors = regionWords descriptors') :
    regionWordBytes descriptors = regionWordBytes descriptors' := by
  have hback : ∀ {ds : List Bytes}, (∀ d ∈ ds, memoryDescriptorSize ≤ d.length) →
      (regionWords ds).map (leBytes 8) = regionWordBytes ds := by
    intro ds hds
    rw [← map_leNat_regionWordBytes, List.map_map]
    refine (List.map_congr_left fun b hb => ?_).trans (List.map_id _)
    have hlength := length_of_mem_regionWordBytes hds b hb
    show leBytes 8 (leNat b) = b
    rw [← hlength]
    exact leBytes_leNat b
  rw [← hback hlarge, ← hback hlarge', h]

/-! ## The loop -/

/-- What the loop leaves below MapState, in bytes. -/
theorem selectRegions_recordsAt {descriptorSize : Nat}
    (hlarge : memoryDescriptorSize ≤ descriptorSize) {count part4 : Nat} {buffer : Bytes}
    (hroom : part4 + descriptorSize * count ≤ buffer.length) :
    let words := regionWordBytes (recordsAt descriptorSize count part4 buffer)
    let r := selectRegions descriptorSize count part4 part4 buffer
    r.1 = part4 + totalLength words ∧ r.2.take r.1 = buffer.take part4 ++ words.flatten := by
  rw [selectRegions_eq_compact hlarge count (le_refl part4) hroom]
  have h := compact_recordsAt (length_region_le hlarge) (le_refl part4) hroom
  dsimp only at h ⊢
  rwa [← length_flatten_eq, flatten_filterMap_region, length_flatten_eq] at h

/-- The words behind a prefix, read back. -/
theorem wordsBetween_append {first : Nat} {buffer : Bytes} {words : List Bytes}
    (hwords : ∀ b ∈ words, b.length = 8) {before : Bytes} (hbefore : before.length = first)
    (h : buffer.take (first + totalLength words) = before ++ words.flatten) :
    wordsBetween first (first + totalLength words) buffer = words.map leNat := by
  have hlength : totalLength words = 8 * words.length := totalLength_of_width hwords
  rw [wordsBetween, Nat.add_sub_cancel_left, hlength, Nat.mul_div_cancel_left _ (by decide)]
  rw [hlength] at h
  have hread : ∀ i ∈ List.range words.length,
      leNat (slice (first + 8 * i) 8 buffer) = leNat (slice (8 * i) 8 words.flatten) := by
    intro i hi
    have hlt := List.mem_range.mp hi
    have hwin : slice first (8 * words.length) buffer = words.flatten := by
      rw [slice, List.take_drop, h, List.drop_left' hbefore]
    rw [← hwin, slice_slice (by omega)]
  have hback := congrArg (List.map leNat) (map_slice_flatten hwords)
  rw [List.map_map] at hback
  exact (List.map_congr_left hread).trans hback

/-! ## The whole function -/

variable {algorithm : FacsHardwareSignatureAlgorithm} {sv : FacsServices}

/-- When every call of steps 1 to 9 answers, what they prepare. -/
theorem prepare_of_prepares (h : Prepares algorithm sv) :
    ∃ fadt handles, prepare algorithm sv = .ok (fillBuffer sv fadt handles
      (sv.settingsAtSizing.getVariable 0).2.1 sv.mapAtSizing.size) ∧
      locateAcpiTableBySignature sv fadtSignature = .ok fadt ∧ sv.locatePci = .ok handles := by
  obtain ⟨fadt, htable, hctrl⟩ := h.table
  obtain ⟨handles, hpci⟩ := h.pci
  refine ⟨fadt, handles, ?_, htable, hpci⟩
  have halg : ¬ (algorithm ≠ .default ∧ algorithm ≠ .facsV2Compatible) := fun hno =>
    h.algorithm.elim hno.1 hno.2
  have hroom : ¬ indexPart2 handles.length < handles.length + 2 := by
    simp only [indexPart2, alignEven]
    omega
  unfold prepare
  rw [if_neg halg, htable, hpci]
  simp only [if_neg hctrl, getMemoryMap_sizing, if_pos h.map, h.sizing, h.allocated, h.settings,
    if_neg hroom, ne_eq, not_true_eq_false, Bool.not_true, Bool.false_eq_true, if_false]

/-- Two buffers of `count` and `count'` UINT32s that agree on their first `k` bytes. -/
structure FilledAlike (k count count' : Nat) (b b' : Bytes) : Prop where
  length : b.length = 4 * count
  length' : b'.length = 4 * count'
  agree : b.take k = b'.take k

namespace FilledAlike

variable {k count count' : Nat} {b b' : Bytes}

theorem zeros (hk : k ≤ 4 * count) (hk' : k ≤ 4 * count') :
    FilledAlike k count count' (List.replicate (4 * count) 0) (List.replicate (4 * count') 0) :=
  ⟨List.length_replicate, List.length_replicate, by
    rw [List.take_replicate, List.take_replicate, Nat.min_eq_left hk, Nat.min_eq_left hk']⟩

theorem splice (h : FilledAlike k count count' b b') {off : Nat} {new : Bytes}
    (hroom : off + new.length ≤ 4 * count) (hroom' : off + new.length ≤ 4 * count') :
    FilledAlike k count count' (splice off new b) (splice off new b') := by
  have hlength := h.length
  have hlength' := h.length'
  exact ⟨(length_splice (by omega)).trans hlength, (length_splice (by omega)).trans hlength',
    take_splice_congr (by omega) (by omega) h.agree⟩

theorem setWord (h : FilledAlike k count count' b b') {i : Nat} (v : UInt32)
    (hroom : i + 1 ≤ count) (hroom' : i + 1 ≤ count') :
    FilledAlike k count count' (setWord i v b) (setWord i v b') :=
  h.splice (by rw [length_leBytes]; omega) (by rw [length_leBytes]; omega)

theorem fillPciIds (hs : List PciHandle) :
    ∀ {i : Nat} {b b' : Bytes}, FilledAlike k count count' b b' → i + hs.length ≤ count →
      i + hs.length ≤ count' →
      FilledAlike k count count' (fillPciIds i hs b) (fillPciIds i hs b') := by
  induction hs with
  | nil => intro i b b' h _ _; exact h
  | cons p hs ih =>
      intro i b b' h hroom hroom'
      rw [List.length_cons] at hroom hroom'
      simp only [Facs.fillPciIds]
      split_ifs
      · exact ih h (by omega) (by omega)
      · exact ih h (by omega) (by omega)
      · exact ih (h.setWord p.pciRead.2 (by omega) (by omega)) (by omega) (by omega)

end FilledAlike

/-- The first three parts do not depend on how much room part 4 has. -/
theorem take_fillParts_congr (fadt : AcpiTable) (handles : List PciHandle) (version : UInt32)
    {settings : Bytes} {s : Nat} (m m' : Nat) (hs : settings.length ≤ s) :
    (fillParts fadt handles version settings (bufferCount handles.length s m)).take
        (4 * indexPart4 handles.length s) =
      (fillParts fadt handles version settings (bufferCount handles.length s m')).take
        (4 * indexPart4 handles.length s) := by
  have hparts : handles.length + 2 ≤ indexPart2 handles.length ∧
      indexPart2 handles.length + 1 ≤ indexPart3 handles.length ∧
      indexPart3 handles.length + (s + 3) / 4 ≤ indexPart4 handles.length s := by
    simp only [indexPart2, indexPart3, indexPart4, alignEven]
    omega
  have hcount := room_part4 handles.length s m
  have hcount' := room_part4 handles.length s m'
  unfold fillParts
  generalize bufferCount handles.length s m = count at hcount ⊢
  generalize bufferCount handles.length s m' = count' at hcount' ⊢
  have h₁ := (FilledAlike.zeros (show 4 * indexPart4 handles.length s ≤ 4 * count by omega)
    (show 4 * indexPart4 handles.length s ≤ 4 * count' by omega)).fillPciIds handles
      (show 0 + handles.length ≤ count by omega) (show 0 + handles.length ≤ count' by omega)
  have h₂ := h₁.setWord (i := handles.length)
    (UInt32.ofNat (fadt.xDsdt.toNat % 2 ^ 32)) (by omega) (by omega)
  have h₃ := h₂.setWord (i := handles.length + 1)
    (UInt32.ofNat (fadt.xDsdt.toNat / 2 ^ 32)) (by omega) (by omega)
  have h₄ := h₃.setWord (i := indexPart2 handles.length) version (by omega) (by omega)
  have h₅ : FilledAlike _ _ _ (splice (4 * indexPart3 handles.length) settings _)
      (splice (4 * indexPart3 handles.length) settings _) := h₄.splice (by omega) (by omega)
  exact h₅.agree

/-- The same services, with other memory maps. -/
def FacsServices.withMaps (sv : FacsServices) (mapAtSizing mapAtFill : MemoryMap) : FacsServices :=
  { sv with mapAtSizing := mapAtSizing, mapAtFill := mapAtFill }

theorem flatten_filterMap_region_congr {m m' : MemoryMap}
    (h : regionWords (m'.descriptors.map (·.1)) = regionWords (m.descriptors.map (·.1))) :
    ((m'.descriptors.map (·.1)).filterMap region).flatten =
      ((m.descriptors.map (·.1)).filterMap region).flatten := by
  have hlarge : ∀ (m : MemoryMap), ∀ d ∈ m.descriptors.map (·.1),
      memoryDescriptorSize ≤ d.length := by
    intro m d hd
    rw [m.length_descriptor d hd]
    exact m.large
  rw [flatten_filterMap_region, flatten_filterMap_region,
    regionWordBytes_congr (hlarge m') (hlarge m) h]

/-- **Two maps with the same regions give the same CRC input.** -/
theorem hashed_withMaps {atSizing atFill : MemoryMap} (hsizing : 0 < sv.mapAtSizing.size)
    (hsizing' : 0 < atSizing.size) (hfit : sv.mapAtFill.size ≤ sv.mapAtSizing.size)
    (hfit' : atFill.size ≤ atSizing.size)
    (hwords : regionWords (atFill.descriptors.map (·.1)) =
      regionWords (sv.mapAtFill.descriptors.map (·.1))) :
    (updateFacsHardwareSignature algorithm (sv.withMaps atSizing atFill)).hashed =
      (updateFacsHardwareSignature algorithm sv).hashed := by
  by_cases hprep : Prepares algorithm sv
  · have hprep' : Prepares algorithm (sv.withMaps atSizing atFill) :=
      ⟨hprep.algorithm, hprep.table, hprep.pci, hprep.sizing, hsizing', hprep.allocated,
        hprep.settings⟩
    obtain ⟨fadt, handles, hok, htable, hpci⟩ := prepare_of_prepares hprep
    obtain ⟨fadt', handles', hok', htable', hpci'⟩ := prepare_of_prepares hprep'
    have hfadt : fadt' = fadt := Except.ok.inj (htable'.symm.trans htable)
    have hhandles : handles' = handles := Except.ok.inj (hpci'.symm.trans hpci)
    subst hfadt hhandles
    rw [updateFacsHardwareSignature, updateFacsHardwareSignature, hok, hok']
    show (hashRegions (sv.withMaps atSizing atFill) _).hashed = (hashRegions sv _).hashed
    rw [hashRegions_of_fits hfit', hashRegions_of_fits hfit]
    simp only [Option.some.injEq, Hashed.mk.injEq]
    refine ⟨congr (congrArg _ ?_) (flatten_filterMap_region_congr hwords), rfl⟩
    exact take_fillParts_congr fadt' handles' sv.uefiVersionNumber _ _
      (length_getVariable_le sv.settingsAtFill _)
  · have hprep' : ¬ Prepares algorithm (sv.withMaps atSizing atFill) := fun h =>
      hprep ⟨h.algorithm, h.table, h.pci, h.sizing, hsizing, h.allocated, h.settings⟩
    rcases prepare_cases algorithm sv with ⟨h, -⟩ | ⟨-, e, he, -⟩
    · exact absurd h hprep
    rcases prepare_cases algorithm (sv.withMaps atSizing atFill) with ⟨h, -⟩ | ⟨-, e', he', -⟩
    · exact absurd h hprep'
    rw [updateFacsHardwareSignature, updateFacsHardwareSignature, he, he']

/-- **Compaction in place equals the plain one.** After the loop of Step 10 the 64-bit words from
the start of Part 4 up to MapState are those of the plain compaction of the map as it was read; so
two maps that differ in other descriptors alone give the same bytes to hash. -/
theorem compaction_in_place :
    (∀ (descriptorSize count part4 : Nat) (buffer : Bytes), memoryDescriptorSize ≤ descriptorSize →
      part4 + descriptorSize * count ≤ buffer.length →
        let words := regionWords (recordsAt descriptorSize count part4 buffer)
        let r := selectRegions descriptorSize count part4 part4 buffer
        r.1 = part4 + 8 * words.length ∧ wordsBetween part4 r.1 r.2 = words) ∧
    ∀ (algorithm : FacsHardwareSignatureAlgorithm) (sv : FacsServices)
      (atSizing atFill : MemoryMap), 0 < sv.mapAtSizing.size → 0 < atSizing.size →
      sv.mapAtFill.size ≤ sv.mapAtSizing.size → atFill.size ≤ atSizing.size →
      regionWords (atFill.descriptors.map (·.1)) =
        regionWords (sv.mapAtFill.descriptors.map (·.1)) →
      (updateFacsHardwareSignature algorithm (sv.withMaps atSizing atFill)).hashed =
        (updateFacsHardwareSignature algorithm sv).hashed := by
  refine ⟨fun descriptorSize count part4 buffer hlarge hroom => ?_,
    fun algorithm sv atSizing atFill => hashed_withMaps⟩
  obtain ⟨hcursor, htake⟩ := selectRegions_recordsAt hlarge hroom
  have hlong : ∀ d ∈ recordsAt descriptorSize count part4 buffer,
      memoryDescriptorSize ≤ d.length := fun d hd => by
    rw [length_of_mem_recordsAt hroom d hd]
    exact hlarge
  have hwords := length_of_mem_regionWordBytes hlong
  have hbefore : (buffer.take part4).length = part4 := by
    rw [List.length_take]
    omega
  dsimp only at hcursor htake ⊢
  rw [hcursor] at htake ⊢
  have hread := wordsBetween_append hwords hbefore htake
  rw [map_leNat_regionWordBytes] at hread
  refine ⟨?_, hread⟩
  rw [← map_leNat_regionWordBytes, List.length_map, totalLength_of_width hwords]

/-- A map with a descriptor of conventional memory in front of a reserved region, and one with the
descriptors behind it: the same two words, the same bytes to hash. -/
theorem compaction_in_place_example :
    wordsBetween 8 24 (selectRegions 40 2 8 8
      (List.replicate 8 0 ++ (descriptor 7 1 2).1 ++ (descriptor 0 0xAB 0xCD).1)).2 =
        [0xAB, 0xCD] ∧
    (updateFacsHardwareSignature .default
      ((onePciDevice (reservedRegions 1) (reservedRegions 1)).withMaps (reservedRegions 3)
        ⟨memoryDescriptorSize, le_refl _,
          [descriptor 0 0xAB 0xCD, descriptor 7 1 2, descriptor 2 3 4]⟩)).hashed =
      (updateFacsHardwareSignature .default
        (onePciDevice (reservedRegions 1) (reservedRegions 1))).hashed := by
  obtain ⟨hcursor, hwords⟩ := compaction_in_place.1 40 2 8
    (List.replicate 8 0 ++ (descriptor 7 1 2).1 ++ (descriptor 0 0xAB 0xCD).1) (by decide)
    (by decide)
  rw [hcursor] at hwords
  refine ⟨hwords.trans (by decide +kernel), ?_⟩
  exact compaction_in_place.2 .default (onePciDevice (reservedRegions 1) (reservedRegions 1))
    (reservedRegions 3) _ (by decide) (by decide) (by decide) (by decide) (by decide +kernel)

end OemPkg.Facs
