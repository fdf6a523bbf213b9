/-
# OemPkg.Facs.BufferLayout — the four parts of the signature buffer

Steps 2 to 6 of UpdateFacsHardwareSignature size the buffer in machine arithmetic (`sizeBuffer`), by
adding up and rounding; steps 7 to 10 fill it at indices of their own. The stores of the filling are
listed here, each with the part it belongs to (`signatureStores`), and `parts_fit` says that every
one of them is inside its part: the parts do not overlap, the error for an overrun is unreachable,
and what is hashed is inside the buffer.
-/
import OemPkg.Facs.RegionWords

namespace OemPkg.Facs

open OemPkg.Lib OemPkg.Uefi

/-! ## Steps 2 to 6, in UINTN -/

/-- Add 1 to align to a 64-bit boundary if necessary. -/
def alignTo64Bit (bufferCount : UInt64) : UInt64 := bufferCount + (bufferCount &&& 1)

/-- The indices where the parts 2, 3 and 4 start, and the number of UINT32s of the buffer. -/
structure BufferSizing where
  indexPart2 : UInt64
  indexPart3 : UInt64
  indexPart4 : UInt64
  bufferCount : UInt64
  deriving DecidableEq, Repr

/-- The sizing of the four parts. -/
def sizeBuffer (pciHandleCount settingsDataSize memoryMapSize : UInt64) : BufferSizing :=
  let bufferCount := alignTo64Bit pciHandleCount + 2
  let indexPart2 := bufferCount
  let bufferCount := alignTo64Bit (bufferCount + 1)
  let indexPart3 := bufferCount
  let bufferCount := alignTo64Bit (bufferCount + (settingsDataSize + 4 - 1) / 4)
  let indexPart4 := bufferCount
  let bufferCount := alignTo64Bit (bufferCount + (memoryMapSize + 4 - 1) / 4)
  ⟨indexPart2, indexPart3, indexPart4, bufferCount⟩

theorem toNat_alignTo64Bit {bufferCount : UInt64}
    (h : bufferCount.toNat + 1 < 18446744073709551616) :
    (alignTo64Bit bufferCount).toNat = alignEven bufferCount.toNat := by
  rw [alignTo64Bit, UInt64.toNat_add, UInt64.toNat_and, alignEven]
  show (bufferCount.toNat + (bufferCount.toNat &&& 1)) % 18446744073709551616 = _
  rw [Nat.and_one_is_mod]
  omega

/-- The UINT32s that some bytes take, rounded up. -/
theorem toNat_roundUp {size : UInt64} (h : size.toNat + 4 < 18446744073709551616) :
    ((size + 4 - 1) / 4).toNat = (size.toNat + 3) / 4 := by
  have hadd : (size + 4).toNat = size.toNat + 4 := by
    rw [UInt64.toNat_add]
    exact Nat.mod_eq_of_lt h
  have hsub : (size + 4 - 1).toNat = size.toNat + 3 := by
    rw [UInt64.toNat_sub_of_le _ _
        (by rw [UInt64.le_iff_toNat_le, hadd]; exact Nat.le_add_left 1 _),
      hadd]
    rfl
  rw [UInt64.toNat_div, hsub]
  rfl

theorem toNat_add_of_lt {a b : UInt64} (h : a.toNat + b.toNat < 18446744073709551616) :
    (a + b).toNat = a.toNat + b.toNat := by
  rw [UInt64.toNat_add]
  exact Nat.mod_eq_of_lt h

/-- The indices are those of the sizes `n`, `s` and `m`. -/
structure BufferSizing.Sized (z : BufferSizing) (n s m : Nat) : Prop where
  part2 : z.indexPart2.toNat = Facs.indexPart2 n
  part3 : z.indexPart3.toNat = Facs.indexPart3 n
  part4 : z.indexPart4.toNat = Facs.indexPart4 n s
  count : z.bufferCount.toNat = Facs.bufferCount n s m

/-- **The sizing does not wrap** as long as the size of the buffer in bytes does not. -/
theorem sized_sizeBuffer {n s m : UInt64}
    (hfit : 4 * bufferCount n.toNat s.toNat m.toNat < 18446744073709551616) :
    (sizeBuffer n s m).Sized n.toNat s.toNat m.toNat := by
  have hall : n.toNat + 3 ≤ indexPart3 n.toNat ∧ indexPart2 n.toNat < indexPart3 n.toNat ∧
      indexPart3 n.toNat + (s.toNat + 3) / 4 ≤ indexPart4 n.toNat s.toNat ∧
      indexPart4 n.toNat s.toNat + (m.toNat + 3) / 4 ≤
        bufferCount n.toNat s.toNat m.toNat := by
    simp only [indexPart2, indexPart3, indexPart4, bufferCount, alignEven]
    omega
  have hn : (alignTo64Bit n).toNat = alignEven n.toNat := toNat_alignTo64Bit (by omega)
  have h2 : (alignTo64Bit n + 2).toNat = indexPart2 n.toNat := by
    rw [toNat_add_of_lt (by rw [hn, alignEven]; show _ + 2 < _; omega), hn]
    rfl
  have h2' : (alignTo64Bit n + 2 + 1).toNat = indexPart2 n.toNat + 1 := by
    rw [toNat_add_of_lt (by rw [h2]; show _ + 1 < _; omega), h2]
    rfl
  have h3 : (alignTo64Bit (alignTo64Bit n + 2 + 1)).toNat = indexPart3 n.toNat := by
    rw [toNat_alignTo64Bit (by rw [h2']; omega), h2']
    rfl
  have hs : ((s + 4 - 1) / 4).toNat = (s.toNat + 3) / 4 := toNat_roundUp (by omega)
  have h3' : (alignTo64Bit (alignTo64Bit n + 2 + 1) + (s + 4 - 1) / 4).toNat =
      indexPart3 n.toNat + (s.toNat + 3) / 4 := by
    rw [toNat_add_of_lt (by rw [h3, hs]; omega), h3, hs]
  have h4 : (alignTo64Bit (alignTo64Bit (alignTo64Bit n + 2 + 1) + (s + 4 - 1) / 4)).toNat =
      indexPart4 n.toNat s.toNat := by
    rw [toNat_alignTo64Bit (by rw [h3']; omega), h3']
    rfl
  have hm : ((m + 4 - 1) / 4).toNat = (m.toNat + 3) / 4 := toNat_roundUp (by omega)
  have h4' : (alignTo64Bit (alignTo64Bit (alignTo64Bit n + 2 + 1) + (s + 4 - 1) / 4) +
      (m + 4 - 1) / 4).toNat = indexPart4 n.toNat s.toNat + (m.toNat + 3) / 4 := by
    rw [toNat_add_of_lt (by rw [h4, hm]; omega), h4, hm]
  refine ⟨h2, h3, h4, ?_⟩
  show (alignTo64Bit _).toNat = _
  rw [toNat_alignTo64Bit (by rw [h4']; omega), h4']
  rfl

/-! ## Steps 7 to 10, store by store -/

/-- The parts of the buffer. The two words of XDsdt are stored with the first one. -/
inductive SignaturePart where
  | pciIds
  | firmwareVersion
  | settings
  | memoryMap
  deriving DecidableEq, Repr

namespace BufferSizing

/-- Where a part starts, in UINT32s. -/
def first (z : BufferSizing) : SignaturePart → UInt64
  | .pciIds => 0
  | .firmwareVersion => z.indexPart2
  | .settings => z.indexPart3
  | .memoryMap => z.indexPart4

/-- Where a part ends. -/
def last (z : BufferSizing) : SignaturePart → UInt64
  | .pciIds => z.indexPart2
  | .firmwareVersion => z.indexPart3
  | .settings => z.indexPart4
  | .memoryMap => z.bufferCount

end BufferSizing

/-- Some bytes stored for a part. -/
structure SignatureStore where
  part : SignaturePart
  piece : Piece
  deriving DecidableEq, Repr

/-- The store is inside its part. -/
def SignatureStore.Fits (z : BufferSizing) (w : SignatureStore) : Prop :=
  4 * (z.first w.part).toNat ≤ w.piece.offset ∧
    w.piece.offset + w.piece.bytes.length ≤ 4 * (z.last w.part).toNat

/-- `Buffer[i] = v` -/
def wordPiece (i : Nat) (v : UInt32) : Piece := ⟨4 * i, leBytes 4 v.toNat⟩

/-- The stores of step 7's loop: a PCI handle that cannot be read leaves its word as it is. -/
def pciStores : (i : Nat) → List PciHandle → List Piece
  | _, [] => []
  | i, h :: hs =>
      if efiError h.handleProtocol then pciStores (i + 1) hs
      else if efiError h.pciRead.1 then pciStores (i + 1) hs
      else wordPiece i h.pciRead.2 :: pciStores (i + 1) hs

/-- The stores of the loop of step 10. -/
def regionStores (descriptorSize : Nat) : (count entry mapState : Nat) → Bytes → List Piece
  | 0, _, _, _ => []
  | count + 1, entry, mapState, buffer =>
      if leNat (slice entry 4 buffer) ∈ protectedTypes then
        let start : Piece := ⟨mapState, slice (entry + 8) 8 buffer⟩
        let pages : Piece := ⟨mapState + 8, slice (entry + 24) 8 buffer⟩
        start :: pages :: regionStores descriptorSize count (entry + descriptorSize)
          (mapState + 16) (writeAll [start, pages] buffer)
      else regionStores descriptorSize count (entry + descriptorSize) mapState buffer

/-- The stores of steps 7 to 9. -/
def partStores (z : BufferSizing) (fadt : AcpiTable) (handles : List PciHandle) (version : UInt32)
    (settings : Bytes) : List SignatureStore :=
  let n := handles.length
  (pciStores 0 handles).map (SignatureStore.mk .pciIds) ++
    [⟨.pciIds, wordPiece n (UInt32.ofNat (fadt.xDsdt.toNat % 2 ^ 32))⟩,
      ⟨.pciIds, wordPiece (n + 1) (UInt32.ofNat (fadt.xDsdt.toNat / 2 ^ 32))⟩,
      ⟨.firmwareVersion, wordPiece z.indexPart2.toNat version⟩,
      ⟨.settings, ⟨4 * z.indexPart3.toNat, settings⟩⟩]

theorem fillPciIds_eq_writeAll (hs : List PciHandle) :
    ∀ {i : Nat} {b : Bytes}, fillPciIds i hs b = writeAll (pciStores i hs) b := by
  induction hs with
  | nil => intro i b; rfl
  | cons h hs ih =>
      intro i b
      simp only [fillPciIds, pciStores]
      split_ifs
      · exact ih
      · exact ih
      · rw [writeAll_cons, ih]
        rfl

theorem selectRegions_eq_writeAll (descriptorSize count : Nat) :
    ∀ {entry mapState : Nat} {b : Bytes}, (selectRegions descriptorSize count entry mapState b).2 =
      writeAll (regionStores descriptorSize count entry mapState b) b := by
  induction count with
  | zero => intro _ _ _; rfl
  | succ count ih =>
      intro entry mapState b
      simp only [selectRegions, regionStores]
      split_ifs
      · rw [ih]
        rfl
      · exact ih

/-- Step 10: MapState and the buffer when the loop is done. -/
def selectedRegions (sv : FacsServices) (p : Prepared) : Nat × Bytes :=
  let part4 := 4 * p.indexPart4
  let read := sv.mapAtFill.getMemoryMap true p.memoryMapSize
  let buffer := splice part4 read.2.2 p.buffer
  let descriptorSize := sv.mapAtFill.descriptorSize
  if read.1 = efiSuccess then
    if 16 ≤ descriptorSize then
      selectRegions descriptorSize (read.2.1 / descriptorSize) part4 part4 buffer
    else (part4, buffer)
  else (part4, buffer)

theorem hashRegions_hashed (sv : FacsServices) (p : Prepared) :
    (hashRegions sv p).hashed =
      some ⟨(selectedRegions sv p).2.take (selectedRegions sv p).1, 4 * p.indexPart4⟩ := rfl

/-- All the stores into the buffer: steps 7 to 9, the memory map, and the regions over it. -/
def signatureStores (z : BufferSizing) (sv : FacsServices) (fadt : AcpiTable)
    (handles : List PciHandle) (settingsDataSize memoryMapSize : Nat) : List SignatureStore :=
  let parts := partStores z fadt handles sv.uefiVersionNumber
    (sv.settingsAtFill.getVariable settingsDataSize).2.2
  let part4 := 4 * z.indexPart4.toNat
  let read := sv.mapAtFill.getMemoryMap true memoryMapSize
  let map : Piece := ⟨part4, read.2.2⟩
  let buffer := writeAll (parts.map (·.piece) ++ [map])
    (List.replicate (4 * z.bufferCount.toNat) 0)
  let descriptorSize := sv.mapAtFill.descriptorSize
  let regions :=
    if read.1 = efiSuccess then
      if 16 ≤ descriptorSize then
        regionStores descriptorSize (read.2.1 / descriptorSize) part4 part4 buffer
      else []
    else []
  parts ++ SignatureStore.mk .memoryMap map :: regions.map (SignatureStore.mk .memoryMap)

/-- Steps 7 to 9 as stores. -/
theorem fillParts_eq_writeAll (z : BufferSizing) (fadt : AcpiTable) (handles : List PciHandle)
    (version : UInt32) (settings : Bytes) {s m : Nat} (hz : z.Sized handles.length s m) :
    fillParts fadt handles version settings z.bufferCount.toNat =
      writeAll ((partStores z fadt handles version settings).map (·.piece))
        (List.replicate (4 * z.bufferCount.toNat) 0) := by
  have hpci : ((pciStores 0 handles).map (SignatureStore.mk .pciIds)).map (·.piece) =
      pciStores 0 handles := by
    rw [List.map_map]
    exact List.map_id _
  rw [partStores, List.map_append, hpci, writeAll_append, fillParts, fillPciIds_eq_writeAll]
  simp only [List.map_cons, List.map_nil, writeAll_cons, writeAll_nil, wordPiece, hz.part2,
    hz.part3]
  rfl

/-! ## Every store is inside its part -/

theorem length_wordPiece (i : Nat) (v : UInt32) : (wordPiece i v).bytes.length = 4 :=
  length_leBytes 4 v.toNat

theorem pciStores_bounds (hs : List PciHandle) :
    ∀ {i : Nat}, ∀ w ∈ pciStores i hs,
      4 * i ≤ w.offset ∧ w.offset + w.bytes.length ≤ 4 * (i + hs.length) := by
  induction hs with
  | nil => intro i w hw; cases hw
  | cons h hs ih =>
      intro i w hw
      rw [List.length_cons]
      have hlater : w ∈ pciStores (i + 1) hs →
          4 * i ≤ w.offset ∧ w.offset + w.bytes.length ≤ 4 * (i + (hs.length + 1)) := by
        intro hw
        obtain ⟨hfirst, hlast⟩ := ih w hw
        exact ⟨by omega, by omega⟩
      simp only [pciStores] at hw
      split_ifs at hw
      · exact hlater hw
      · exact hlater hw
      · rcases List.mem_cons.mp hw with rfl | hw
        · rw [length_wordPiece]
          exact ⟨le_refl _, by simp only [wordPiece]; omega⟩
        · exact hlater hw

theorem length_slice_le (off w : Nat) (b : Bytes) : (slice off w b).length ≤ w :=
  List.length_take_le w _

/-- **The writing never passes the entry that was read.** -/
theorem regionStores_bounds {descriptorSize : Nat} (hsize : 16 ≤ descriptorSize) (count : Nat) :
    ∀ {entry mapState : Nat} {b : Bytes}, mapState ≤ entry →
      ∀ w ∈ regionStores descriptorSize count entry mapState b,
        mapState ≤ w.offset ∧ w.offset + w.bytes.length ≤ entry + descriptorSize * count := by
  induction count with
  | zero => intro entry mapState b _ w hw; cases hw
  | succ count ih =>
      intro entry mapState b hle w hw
      rw [Nat.mul_succ]
      simp only [regionStores] at hw
      split_ifs at hw
      · rcases List.mem_cons.mp hw with rfl | hw
        · have hlength := length_slice_le (entry + 8) 8 b
          exact ⟨le_refl _, by dsimp only; omega⟩
        rcases List.mem_cons.mp hw with rfl | hw
        · have hlength := length_slice_le (entry + 24) 8 b
          exact ⟨by dsimp only; omega, by dsimp only; omega⟩
        · obtain ⟨hfirst, hlast⟩ := ih (show mapState + 16 ≤ entry + descriptorSize by omega) w hw
          exact ⟨by omega, by omega⟩
      · obtain ⟨hfirst, hlast⟩ := ih (show mapState ≤ entry + descriptorSize by omega) w hw
        exact ⟨by omega, by omega⟩

theorem selectRegions_mapState_le {descriptorSize : Nat} (hsize : 16 ≤ descriptorSize)
    (count : Nat) : ∀ {entry mapState : Nat} {b : Bytes}, mapState ≤ entry →
      (selectRegions descriptorSize count entry mapState b).1 ≤
        entry + descriptorSize * count := by
  induction count with
  | zero => intro entry mapState b hle; exact hle
  | succ count ih =>
      intro entry mapState b hle
      rw [Nat.mul_succ]
      simp only [selectRegions]
      split_ifs
      · apply (ih (show mapState + 16 ≤ entry + descriptorSize by omega)).trans
        omega
      · apply (ih (show mapState ≤ entry + descriptorSize by omega)).trans
        omega

/-- What GetMemoryMap leaves in MemoryMapSize is no more than it was given, if it succeeds, and no
more bytes than that are copied. -/
theorem getMemoryMap_bounds (map : MemoryMap) (m : Nat) :
    (map.getMemoryMap true m).2.2.length ≤ m ∧
      ((map.getMemoryMap true m).1 = efiSuccess → (map.getMemoryMap true m).2.1 ≤ m) := by
  have hbytes := map.length_bytes
  unfold MemoryMap.getMemoryMap
  by_cases hgrown : m < map.size
  · rw [if_pos hgrown]
    exact ⟨Nat.zero_le m, fun h => absurd h (ne_success_of_error efiError_bufferTooSmall)⟩
  · rw [if_neg hgrown]
    simp only [Bool.not_true, Bool.false_eq_true, if_false, hbytes]
    exact ⟨by omega, fun _ => by omega⟩

/-- The parts lie one behind the other. -/
theorem indices_ordered (n s m : Nat) :
    n + 2 ≤ indexPart2 n ∧ indexPart2 n + 1 ≤ indexPart3 n ∧
      4 * indexPart3 n + s ≤ 4 * indexPart4 n s ∧
      4 * indexPart4 n s + m ≤ 4 * bufferCount n s m := by
  simp only [indexPart2, indexPart3, indexPart4, bufferCount, alignEven]
  omega

variable {z : BufferSizing} {fadt : AcpiTable} {handles : List PciHandle} {s m : Nat}

/-- **The first three parts**: each store is inside its part. -/
theorem partStores_fit {version : UInt32} {settings : Bytes} (hz : z.Sized handles.length s m)
    (hs : settings.length ≤ s) : ∀ w ∈ partStores z fadt handles version settings, w.Fits z := by
  obtain ⟨hpart2, hpart3, hpart4, -⟩ := indices_ordered handles.length s m
  have hword : ∀ i v, i + 1 ≤ indexPart2 handles.length →
      SignatureStore.Fits z ⟨.pciIds, wordPiece i v⟩ := by
    intro i v hi
    refine ⟨Nat.zero_le _, ?_⟩
    show 4 * i + (wordPiece i v).bytes.length ≤ 4 * z.indexPart2.toNat
    rw [length_wordPiece, hz.part2]
    omega
  intro w hw
  rcases List.mem_append.mp hw with hw | hw
  · obtain ⟨w, hpci, rfl⟩ := List.mem_map.mp hw
    obtain ⟨-, hlast⟩ := pciStores_bounds handles w hpci
    refine ⟨Nat.zero_le _, ?_⟩
    show w.offset + w.bytes.length ≤ 4 * z.indexPart2.toNat
    rw [hz.part2]
    omega
  · simp only [List.mem_cons, List.not_mem_nil, or_false] at hw
    rcases hw with rfl | rfl | rfl | rfl
    · exact hword _ _ (by omega)
    · exact hword _ _ (by omega)
    · refine ⟨le_refl _, ?_⟩
      show 4 * z.indexPart2.toNat + (wordPiece z.indexPart2.toNat version).bytes.length ≤
        4 * z.indexPart3.toNat
      rw [length_wordPiece, hz.part2, hz.part3]
      omega
    · refine ⟨le_refl _, ?_⟩
      show 4 * z.indexPart3.toNat + settings.length ≤ 4 * z.indexPart4.toNat
      rw [hz.part3, hz.part4]
      omega

/-- **The fourth part**: the map and the regions are inside it. -/
theorem signatureStores_fit (sv : FacsServices) (hz : z.Sized handles.length s m) :
    ∀ w ∈ signatureStores z sv fadt handles s m, w.Fits z := by
  obtain ⟨-, -, -, hcount⟩ := indices_ordered handles.length s m
  obtain ⟨hcopied, hsize⟩ := getMemoryMap_bounds sv.mapAtFill m
  have hmap : ∀ w : Piece, 4 * z.indexPart4.toNat ≤ w.offset →
      w.offset + w.bytes.length ≤ 4 * z.indexPart4.toNat + m →
      SignatureStore.Fits z ⟨.memoryMap, w⟩ := by
    intro w hfirst hlast
    refine ⟨hfirst, ?_⟩
    show w.offset + w.bytes.length ≤ 4 * z.bufferCount.toNat
    rw [hz.part4] at hlast
    rw [hz.count]
    omega
  intro w hw
  rcases List.mem_append.mp hw with hw | hw
  · exact partStores_fit hz (length_getVariable_le sv.settingsAtFill s) w hw
  rcases List.mem_cons.mp hw with rfl | hw
  · exact hmap _ (le_refl _) (Nat.add_le_add_left hcopied _)
  · obtain ⟨w, hregion, rfl⟩ := List.mem_map.mp hw
    split_ifs at hregion with hstatus hlarge
    · obtain ⟨hfirst, hlast⟩ := regionStores_bounds hlarge _ (le_refl _) w hregion
      have hread : sv.mapAtFill.descriptorSize * ((sv.mapAtFill.getMemoryMap true m).2.1 /
          sv.mapAtFill.descriptorSize) ≤ m := (Nat.mul_div_le _ _).trans (hsize hstatus)
      exact hmap w hfirst (by omega)
    · cases hregion
    · cases hregion

/-- **MapState ends inside the buffer.** -/
theorem selectedRegions_mapState_le (sv : FacsServices) :
    (selectedRegions sv (fillBuffer sv fadt handles s m)).1 ≤
      4 * bufferCount handles.length s m := by
  obtain ⟨-, -, -, hcount⟩ := indices_ordered handles.length s m
  obtain ⟨-, hsize⟩ := getMemoryMap_bounds sv.mapAtFill m
  show (if (sv.mapAtFill.getMemoryMap true m).1 = efiSuccess then _ else _ : Nat × Bytes).1 ≤ _
  split_ifs with hstatus hlarge
  · apply (selectRegions_mapState_le hlarge _ (le_refl _)).trans
    have hread : sv.mapAtFill.descriptorSize * ((sv.mapAtFill.getMemoryMap true m).2.1 /
        sv.mapAtFill.descriptorSize) ≤ m := (Nat.mul_div_le _ _).trans (hsize hstatus)
    show 4 * indexPart4 handles.length s + sv.mapAtFill.descriptorSize *
      ((sv.mapAtFill.getMemoryMap true m).2.1 / sv.mapAtFill.descriptorSize) ≤ _
    omega
  · show 4 * indexPart4 handles.length s ≤ _
    omega
  · show 4 * indexPart4 handles.length s ≤ _
    omega

/-- **The buffer hashed is what the stores leave.** -/
theorem selectedRegions_eq_writeAll (sv : FacsServices) (hz : z.Sized handles.length s m) :
    (selectedRegions sv (fillBuffer sv fadt handles s m)).2 =
      writeAll ((signatureStores z sv fadt handles s m).map (·.piece))
        (List.replicate (4 * z.bufferCount.toNat) 0) := by
  have hparts : (fillBuffer sv fadt handles s m).buffer =
      writeAll ((partStores z fadt handles sv.uefiVersionNumber
        (sv.settingsAtFill.getVariable s).2.2).map (·.piece))
        (List.replicate (4 * z.bufferCount.toNat) 0) := by
    rw [← fillParts_eq_writeAll z fadt handles _ _ hz, hz.count]
    rfl
  have hback : ∀ pieces : List Piece,
      (pieces.map (SignatureStore.mk .memoryMap)).map (·.piece) = pieces := fun pieces => by
    rw [List.map_map]
    exact List.map_id _
  have hpart4 : 4 * (fillBuffer sv fadt handles s m).indexPart4 = 4 * z.indexPart4.toNat :=
    congrArg (4 * ·) hz.part4.symm
  unfold selectedRegions signatureStores
  rw [hparts, hpart4]
  simp only [List.map_append, List.map_cons, hback, writeAll_append, writeAll_cons, writeAll_nil]
  show (if (sv.mapAtFill.getMemoryMap true m).1 = efiSuccess then _ else _ : Nat × Bytes).2 = _
  split_ifs
  · exact selectRegions_eq_writeAll _ _
  · rfl
  · rfl

/-- The indices do not decrease. -/
theorem BufferSizing.Sized.ordered (hz : z.Sized handles.length s m) :
    z.indexPart2.toNat ≤ z.indexPart3.toNat ∧ z.indexPart3.toNat ≤ z.indexPart4.toNat ∧
      z.indexPart4.toNat ≤ z.bufferCount.toNat := by
  obtain ⟨-, hpart3, hpart4, hcount⟩ := indices_ordered handles.length s m
  rw [hz.part2, hz.part3, hz.part4, hz.count]
  exact ⟨by omega, by omega, by omega⟩

theorem last_le_bufferCount (hz : z.Sized handles.length s m) (part : SignaturePart) :
    (z.last part).toNat ≤ z.bufferCount.toNat := by
  obtain ⟨h2, h3, h4⟩ := hz.ordered
  cases part with
  | pciIds => exact h2.trans (h3.trans h4)
  | firmwareVersion => exact h3.trans h4
  | settings => exact h4
  | memoryMap => exact le_refl _

/-- Of two parts one ends before the other starts. -/
theorem parts_separate (hz : z.Sized handles.length s m) {part part' : SignaturePart}
    (hne : part ≠ part') : (z.last part).toNat ≤ (z.first part').toNat ∨
      (z.last part').toNat ≤ (z.first part).toNat := by
  obtain ⟨h2, h3, -⟩ := hz.ordered
  cases part <;> cases part' <;> simp only [BufferSizing.first, BufferSizing.last] <;>
    first | exact absurd rfl hne | omega

/-- What it means that the parts fit: `stores` fill a buffer sized by `z` for `n` PCI handles, and
`crcCount` bytes of it are hashed. -/
structure PartsFit (z : BufferSizing) (n : Nat) (stores : List SignatureStore)
    (crcCount : Nat) : Prop where
  /-- the size that is allocated -/
  size : (z.bufferCount * 4).toNat = 4 * z.bufferCount.toNat
  /-- the test `i > IndexPart2` fails -/
  noOverrun : ¬ z.indexPart2 < UInt64.ofNat n + 2
  even2 : z.indexPart2.toNat % 2 = 0
  even3 : z.indexPart3.toNat % 2 = 0
  even4 : z.indexPart4.toNat % 2 = 0
  inPart : ∀ w ∈ stores, w.Fits z
  inBuffer : ∀ w ∈ stores, w.piece.offset + w.piece.bytes.length ≤ 4 * z.bufferCount.toNat
  disjoint : ∀ w ∈ stores, ∀ w' ∈ stores, w.part ≠ w'.part →
    w.piece.offset + w.piece.bytes.length ≤ w'.piece.offset ∨
      w'.piece.offset + w'.piece.bytes.length ≤ w.piece.offset
  crc : crcCount ≤ 4 * z.bufferCount.toNat

theorem alignEven_mod_two (n : Nat) : alignEven n % 2 = 0 := by
  rw [alignEven]
  omega

/-- **The four parts of the signature buffer fit and do not overlap**, whatever PCI handles,
settings and memory maps there are, as long as the size of the buffer is a UINTN; and what is hashed
is what the stores leave in it, from its start to MapState. -/
theorem parts_fit (sv : FacsServices) (fadt : AcpiTable) (handles : List PciHandle) (s m : Nat)
    (hfit : 4 * bufferCount handles.length s m < 18446744073709551616) :
    let z := sizeBuffer (UInt64.ofNat handles.length) (UInt64.ofNat s) (UInt64.ofNat m)
    let stores := signatureStores z sv fadt handles s m
    let crcCount := (selectedRegions sv (fillBuffer sv fadt handles s m)).1
    (hashRegions sv (fillBuffer sv fadt handles s m)).hashed =
      some ⟨(writeAll (stores.map (·.piece)) (List.replicate (4 * z.bufferCount.toNat) 0)).take
        crcCount, 4 * z.indexPart4.toNat⟩ ∧
    PartsFit z handles.length stores crcCount := by
  obtain ⟨hpart2, hpart3, hpart4, hcount⟩ := indices_ordered handles.length s m
  have hn : (UInt64.ofNat handles.length).toNat = handles.length :=
    UInt64.toNat_ofNat_of_lt' (show handles.length < 18446744073709551616 by omega)
  have hs : (UInt64.ofNat s).toNat = s :=
    UInt64.toNat_ofNat_of_lt' (show s < 18446744073709551616 by omega)
  have hm : (UInt64.ofNat m).toNat = m :=
    UInt64.toNat_ofNat_of_lt' (show m < 18446744073709551616 by omega)
  have hsized := sized_sizeBuffer (n := UInt64.ofNat handles.length) (s := UInt64.ofNat s)
    (m := UInt64.ofNat m) (by rw [hn, hs, hm]; exact hfit)
  rw [hn, hs, hm] at hsized
  intro z stores crcCount
  have hz : z.Sized handles.length s m := hsized
  have hfits : ∀ w ∈ stores, w.Fits z := signatureStores_fit sv hz
  refine ⟨?_, ?_, ?_, ?_, ?_, ?_, hfits, ?_, ?_, ?_⟩
  · rw [hashRegions_hashed, selectedRegions_eq_writeAll sv hz]
    exact congrArg (fun i => some (Hashed.mk _ (4 * i))) hz.part4.symm
  · rw [UInt64.toNat_mul]
    show z.bufferCount.toNat * 4 % 18446744073709551616 = _
    rw [hz.count]
    omega
  · rw [UInt64.lt_iff_toNat_lt, hz.part2,
      toNat_add_of_lt (by rw [hn]; show _ + 2 < _; omega), hn]
    show ¬ indexPart2 handles.length < handles.length + 2
    omega
  · rw [hz.part2, indexPart2, Nat.add_mod, alignEven_mod_two]
  · rw [hz.part3]
    exact alignEven_mod_two _
  · rw [hz.part4]
    exact alignEven_mod_two _
  · intro w hw
    obtain ⟨-, hend⟩ := hfits w hw
    exact hend.trans (Nat.mul_le_mul_left 4 (last_le_bufferCount hz w.part))
  · intro w hw w' hw' hne
    obtain ⟨hfirst, hlast⟩ := hfits w hw
    obtain ⟨hfirst', hlast'⟩ := hfits w' hw'
    have hseparate := parts_separate hz hne
    omega
  · show _ ≤ 4 * z.bufferCount.toNat
    rw [hz.count]
    exact selectedRegions_mapState_le sv

/-- Three PCI handles of which one cannot be read, 5 bytes of settings and two descriptors: 30
UINT32s in all. -/
theorem parts_fit_example :
    let sv := onePciDevice (reservedRegions 2) (reservedRegions 2)
    let handles : List PciHandle := [⟨efiSuccess, efiSuccess, 1⟩, ⟨efiSuccess, efiDeviceError, 2⟩,
      ⟨efiSuccess, efiSuccess, 3⟩]
    let z := sizeBuffer 3 5 80
    z = ⟨6, 8, 10, 30⟩ ∧
      PartsFit z 3 (signatureStores z sv ⟨fadtSignature, 1, 7⟩ handles 5 80)
        (selectedRegions sv (fillBuffer sv ⟨fadtSignature, 1, 7⟩ handles 5 80)).1 := by
  intro sv handles z
  exact ⟨by decide, (parts_fit sv ⟨fadtSignature, 1, 7⟩ handles 5 80 (by decide)).2⟩

end OemPkg.Facs
