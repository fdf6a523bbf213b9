/-
# OemPkg.Uefi.DevicePath — device paths in memory

A device path is a sequence of nodes, each with a four-byte header that holds its type, its subtype
and its length, closed by the End-Entire node. End-Instance nodes inside it separate the instances
of a multi-instance path. The bytes of the nodes form a prefix code, so one path begins with the
nodes of another where its bytes do (`DevicePath.prefix_iff`).

`DevicePathLib` is the library that walks such paths, of which a driver knows what is documented.
-/
import OemPkg.Lib.Bytes
import OemPkg.Lib.PrefixCode

namespace OemPkg.Uefi

open OemPkg.Lib

/-! ## Nodes -/

/-- A node of a device path. -/
structure DevicePathNode where
  type : UInt8
  subType : UInt8
  /-- what follows the header -/
  data : Bytes
  fits : 4 + data.length < 2 ^ 16
  deriving DecidableEq

/-- END_DEVICE_PATH_TYPE -/
def endDevicePathType : UInt8 := 0x7F
/-- END_ENTIRE_DEVICE_PATH_SUBTYPE -/
def endEntireDevicePathSubtype : UInt8 := 0xFF
/-- END_INSTANCE_DEVICE_PATH_SUBTYPE -/
def endInstanceDevicePathSubtype : UInt8 := 0x01
/-- END_DEVICE_PATH_LENGTH -/
def endDevicePathLength : Nat := 4

namespace DevicePathNode

/-- The length in the header. -/
def length (n : DevicePathNode) : Nat := 4 + n.data.length

/-- The node in memory. -/
def bytes (n : DevicePathNode) : Bytes := n.type :: n.subType :: (leBytes 2 n.length ++ n.data)

@[simp] theorem length_bytes (n : DevicePathNode) : n.bytes.length = n.length := by
  simp only [bytes, length, List.length_cons, List.length_append, length_leBytes]
  omega

theorem leNat_length (n : DevicePathNode) : leNat (leBytes 2 n.length) = n.length :=
  leNat_leBytes 2 (by have := n.fits; unfold length; omega)

/-- The End-Entire node closes a path. -/
def isEndEntire (n : DevicePathNode) : Bool :=
  n.type == endDevicePathType && n.subType == endEntireDevicePathSubtype

/-- The End-Instance node closes an instance. -/
def isEndInstance (n : DevicePathNode) : Bool :=
  n.type == endDevicePathType && n.subType == endInstanceDevicePathSubtype

/-- A header alone fits. -/
theorem fits_nil : 4 + ([] : Bytes).length < 2 ^ 16 := by decide

/-- The only End-Entire node of a valid path. -/
def endEntire : DevicePathNode := ⟨endDevicePathType, endEntireDevicePathSubtype, [], fits_nil⟩

/-- **A node says where it ends**: none begins with another. -/
theorem prefixCode : PrefixCode bytes where
  nonempty n := List.cons_ne_nil _ _
  eq_of_prefix {n m} h := by
    unfold bytes at h
    obtain ⟨htype, h⟩ := List.cons_prefix_cons.mp h
    obtain ⟨hsub, ⟨rest, hrest⟩⟩ := List.cons_prefix_cons.mp h
    rw [List.append_assoc] at hrest
    obtain ⟨hheader, hdata⟩ := List.append_inj hrest (by rw [length_leBytes, length_leBytes])
    have hlength : n.length = m.length := by
      have hread := congrArg leNat hheader
      rwa [leNat_length, leNat_length] at hread
    have hrest : rest = [] := by
      have hcount := congrArg List.length hdata
      simp only [length, List.length_append] at hlength hcount
      exact List.length_eq_zero_iff.mp (by omega)
    rw [hrest, List.append_nil] at hdata
    cases n
    cases m
    simp only at htype hsub hdata
    subst htype hsub hdata
    rfl

end DevicePathNode

/-! ## Paths -/

/-- A device path: its nodes before the End-Entire node. -/
structure DevicePath where
  nodes : List DevicePathNode
  inner : ∀ n ∈ nodes, n.isEndEntire = false

namespace DevicePath

/-- The nodes with the End-Entire node. -/
def closed (p : DevicePath) : List DevicePathNode := p.nodes ++ [.endEntire]

/-- The path in memory. -/
def bytes (p : DevicePath) : Bytes := p.closed.flatMap DevicePathNode.bytes

/-- Its size, with the End-Entire node. -/
def size (p : DevicePath) : Nat := p.bytes.length

/-- The instances of the path, which End-Instance nodes separate. -/
def instances (p : DevicePath) : List (List DevicePathNode) :=
  p.nodes.splitOnP DevicePathNode.isEndInstance

/-- The path at address `a`. -/
def At (p : DevicePath) (ram : Ram) (a : Nat) : Prop := HoldsAt ram a p.bytes

instance (p : DevicePath) (ram : Ram) (a : Nat) : Decidable (p.At ram a) :=
  inferInstanceAs (Decidable (HoldsAt _ _ _))

theorem bytes_eq (p : DevicePath) :
    p.bytes = p.nodes.flatMap DevicePathNode.bytes ++ DevicePathNode.endEntire.bytes := by
  rw [bytes, closed, List.flatMap_append, List.flatMap_singleton]

theorem size_eq (p : DevicePath) :
    p.size = (p.nodes.flatMap DevicePathNode.bytes).length + endDevicePathLength := by
  rw [size, bytes_eq, List.length_append, DevicePathNode.length_bytes]
  rfl

/-- The instances hold the nodes but for the End-Instance nodes between them. -/
theorem mem_instances {p : DevicePath} {n : DevicePathNode} :
    (∃ inst ∈ p.instances, n ∈ inst) ↔ n ∈ p.nodes ∧ n.isEndInstance = false := by
  unfold instances
  induction p.nodes with
  | nil => simp [List.splitOnP_nil]
  | cons m nodes ih =>
      rw [List.splitOnP_cons_eq_if_modifyHead]
      cases hend : m.isEndInstance with
      | true =>
          simp only [if_true, List.mem_cons, exists_eq_or_imp, List.not_mem_nil, false_or, ih]
          constructor
          · exact fun h => ⟨.inr h.1, h.2⟩
          · rintro ⟨rfl | hn, hinner⟩
            · rw [hend] at hinner
              cases hinner
            · exact ⟨hn, hinner⟩
      | false =>
          simp only [Bool.false_eq_true, if_false]
          cases hsplit : nodes.splitOnP DevicePathNode.isEndInstance with
          | nil => exact absurd hsplit (List.splitOnP_ne_nil _ _)
          | cons first rest =>
              rw [hsplit] at ih
              simp only [List.modifyHead_cons, List.mem_cons, exists_eq_or_imp] at ih ⊢
              rw [or_assoc, ih]
              constructor
              · rintro (rfl | ⟨hn, hinner⟩)
                · exact ⟨.inl rfl, hend⟩
                · exact ⟨.inr hn, hinner⟩
              · rintro ⟨rfl | hn, hinner⟩
                · exact .inl rfl
                · exact .inr ⟨hn, hinner⟩

theorem eq_of_nodes {p q : DevicePath} (h : p.nodes = q.nodes) : p = q := by
  cases p
  cases q
  simp only at h
  subst h
  rfl

/-- **Bytes and nodes.** A path begins with the bytes of another's nodes exactly when it begins with
these nodes: its own End-Entire node is none of them. -/
theorem prefix_iff (p q : DevicePath) :
    p.nodes.flatMap DevicePathNode.bytes <+: q.bytes ↔ p.nodes <+: q.nodes := by
  rw [bytes, DevicePathNode.prefixCode.flatMap_prefix_iff, closed, List.prefix_concat_iff]
  refine or_iff_right fun hclosed => ?_
  have hend := p.inner .endEntire (hclosed ▸ List.mem_append_right _ (List.mem_singleton_self _))
  exact absurd hend (by decide)

/-- A path that begins with the nodes of another is larger, or the same. -/
theorem eq_or_size_lt {p q : DevicePath} (h : p.nodes <+: q.nodes) : q = p ∨ p.size < q.size := by
  obtain ⟨rest, hrest⟩ := h
  cases rest with
  | nil => exact .inl (eq_of_nodes (by rw [← hrest, List.append_nil]))
  | cons n rest =>
      right
      have hpos : 0 < n.bytes.length := List.length_pos_of_ne_nil (List.cons_ne_nil _ _)
      rw [size_eq, size_eq, ← hrest, List.flatMap_append, List.flatMap_cons, List.length_append,
        List.length_append]
      omega

end DevicePath

/-! ## Walking a path -/

/-- DevicePathLib, on paths given by their address. -/
structure DevicePathLib where
  /-- IsDevicePathValid, with the maximum size -/
  isDevicePathValid : Ram → Nat → Nat → Bool
  getDevicePathSize : Ram → Nat → Nat
  isDevicePathEnd : Ram → Nat → Bool
  nextDevicePathNode : Ram → Nat → Nat

/-- The length in the header of the node at `a`. -/
def devicePathNodeLength (ram : Ram) (a : Nat) : Nat :=
  (ram (a + 2)).toNat + 256 * (ram (a + 3)).toNat

/-- What is documented about the library. -/
structure DevicePathLib.Documented (L : DevicePathLib) : Prop where
  valid : ∀ {ram a max}, L.isDevicePathValid ram a max = true → ∃ p : DevicePath, p.At ram a
  size : ∀ {ram a max} {p : DevicePath}, L.isDevicePathValid ram a max = true → p.At ram a →
    L.getDevicePathSize ram a = p.size
  isEnd : ∀ ram a, L.isDevicePathEnd ram a =
    (ram a == endDevicePathType && ram (a + 1) == endEntireDevicePathSubtype)
  next : ∀ ram a, L.nextDevicePathNode ram a = a + devicePathNodeLength ram a

/-- The nodes `nodes`, and then the End-Entire node, lie at address `a`. -/
def NodesAt (ram : Ram) (a : Nat) (nodes : List DevicePathNode) : Prop :=
  HoldsAt ram a ((nodes ++ [DevicePathNode.endEntire]).flatMap DevicePathNode.bytes)

section Nodes

variable {ram : Ram} {a : Nat} {n : DevicePathNode} {nodes : List DevicePathNode}

/-- The header of a node in memory, and what lies behind the node. -/
theorem nodesAt_cons (h : NodesAt ram a (n :: nodes)) :
    ram a = n.type ∧ ram (a + 1) = n.subType ∧ devicePathNodeLength ram a = n.length ∧
      NodesAt ram (a + n.length) nodes := by
  unfold NodesAt at h
  rw [List.cons_append, List.flatMap_cons, holdsAt_append, DevicePathNode.length_bytes] at h
  obtain ⟨hnode, hrest⟩ := h
  unfold DevicePathNode.bytes at hnode
  obtain ⟨htype, hnode⟩ := holdsAt_cons.mp hnode
  obtain ⟨hsub, hnode⟩ := holdsAt_cons.mp hnode
  have hlength := (holdsAt_append.mp hnode).1
  unfold HoldsAt at hlength
  refine ⟨htype, hsub, ?_, hrest⟩
  have hread := congrArg leNat hlength
  rw [DevicePathNode.leNat_length, length_leBytes] at hread
  simpa [readRam, devicePathNodeLength, List.range_succ] using hread

theorem nodesAt_nil (h : NodesAt ram a []) :
    ram a = endDevicePathType ∧ ram (a + 1) = endEntireDevicePathSubtype := by
  unfold NodesAt at h
  rw [List.nil_append, List.flatMap_singleton] at h
  unfold DevicePathNode.bytes at h
  obtain ⟨htype, h⟩ := holdsAt_cons.mp h
  exact ⟨htype, (holdsAt_cons.mp h).1⟩

end Nodes

/-! ## One such library -/

section Walk

variable (ram : Ram)

/-- The node at `a` is the End-Entire node. -/
def endsAt (a : Nat) : Bool :=
  ram a == endDevicePathType && ram (a + 1) == endEntireDevicePathSubtype

/-- The nodes from `a` on are well formed up to an End-Entire node, which is among the first
`rounds`. -/
def walkValid : (rounds : Nat) → Nat → Bool
  | 0, _ => false
  | rounds + 1, a =>
      if endsAt ram a then devicePathNodeLength ram a == endDevicePathLength
      else decide (4 ≤ devicePathNodeLength ram a) &&
        walkValid rounds (a + devicePathNodeLength ram a)

/-- The bytes up to the End-Entire node. -/
def walkSize : (rounds : Nat) → Nat → Nat
  | 0, _ => 0
  | rounds + 1, a =>
      if endsAt ram a then endDevicePathLength
      else devicePathNodeLength ram a + walkSize rounds (a + devicePathNodeLength ram a)

/-- A library that accepts the well-formed paths of fewer than `rounds` nodes. -/
def walkingLib (rounds : Nat) : DevicePathLib where
  isDevicePathValid ram a _ := walkValid ram rounds a
  getDevicePathSize ram a := walkSize ram rounds a
  isDevicePathEnd ram a := endsAt ram a
  nextDevicePathNode ram a := a + devicePathNodeLength ram a

variable {ram}

/-- The node at an address that has room for its header. -/
theorem exists_node {a : Nat} (h : 4 ≤ devicePathNodeLength ram a) :
    ∃ n : DevicePathNode, HoldsAt ram a n.bytes ∧ n.type = ram a ∧ n.subType = ram (a + 1) ∧
      n.length = devicePathNodeLength ram a := by
  have hlow := (ram (a + 2)).toNat_lt
  have hhigh := (ram (a + 3)).toNat_lt
  have hlength : devicePathNodeLength ram a < 2 ^ 16 := by
    unfold devicePathNodeLength
    omega
  set data := readRam ram (a + 4) (devicePathNodeLength ram a - 4) with hdata
  have hcount : 4 + data.length = devicePathNodeLength ram a := by
    rw [hdata, length_readRam]
    omega
  refine ⟨⟨ram a, ram (a + 1), data, by omega⟩, ?_, rfl, rfl, hcount⟩
  show HoldsAt ram a (ram a :: ram (a + 1) :: (leBytes 2 (4 + data.length) ++ data))
  rw [hcount]
  refine holdsAt_cons.mpr ⟨rfl, holdsAt_cons.mpr ⟨rfl, holdsAt_append.mpr ⟨?_, ?_⟩⟩⟩
  · have hbytes := leBytes_leNat (readRam ram (a + 1 + 1) 2)
    have hread : leNat (readRam ram (a + 1 + 1) 2) = devicePathNodeLength ram a := by
      simp [readRam, devicePathNodeLength, List.range_succ]
    rw [hread, length_readRam] at hbytes
    unfold HoldsAt
    rw [length_leBytes, hbytes]
  · rw [length_leBytes]
    unfold HoldsAt
    rw [hdata, length_readRam]

theorem exists_path_of_walkValid {rounds : Nat} : ∀ {a : Nat}, walkValid ram rounds a = true →
    ∃ p : DevicePath, NodesAt ram a p.nodes := by
  induction rounds with
  | zero =>
      intro a h
      cases h
  | succ rounds ih =>
      intro a h
      rw [walkValid] at h
      cases hend : endsAt ram a with
      | true =>
          rw [hend, if_pos rfl, beq_iff_eq] at h
          have hroom : 4 ≤ devicePathNodeLength ram a := by
            rw [h]
            decide
          obtain ⟨n, hn, htype, hsub, hlength⟩ := exists_node hroom
          refine ⟨⟨[], fun _ hmem => absurd hmem List.not_mem_nil⟩, ?_⟩
          have hclosing : n = .endEntire := by
            simp only [endsAt, Bool.and_eq_true, beq_iff_eq] at hend
            rw [h] at hlength
            have hdata : n.data = [] := by
              apply List.length_eq_zero_iff.mp
              simp only [DevicePathNode.length, endDevicePathLength] at hlength
              omega
            cases n
            simp only at htype hsub hdata
            subst htype hsub hdata
            unfold DevicePathNode.endEntire
            congr 1
            · exact hend.1
            · exact hend.2
          unfold NodesAt
          rw [List.nil_append, List.flatMap_singleton, ← hclosing]
          exact hn
      | false =>
          rw [hend, if_neg Bool.false_ne_true, Bool.and_eq_true, decide_eq_true_eq] at h
          obtain ⟨n, hn, htype, hsub, hlength⟩ := exists_node h.1
          obtain ⟨p, hp⟩ := ih h.2
          refine ⟨⟨n :: p.nodes, fun m hm => ?_⟩, ?_⟩
          · rcases List.mem_cons.mp hm with rfl | hm
            · rw [DevicePathNode.isEndEntire, htype, hsub]
              exact hend
            · exact p.inner m hm
          · unfold NodesAt
            rw [List.cons_append, List.flatMap_cons, holdsAt_append, DevicePathNode.length_bytes,
              hlength]
            exact ⟨hn, hp⟩

theorem walkSize_of_walkValid {rounds : Nat} :
    ∀ {a : Nat} {nodes : List DevicePathNode}, walkValid ram rounds a = true →
      (∀ n ∈ nodes, n.isEndEntire = false) → NodesAt ram a nodes →
      walkSize ram rounds a =
        (nodes.flatMap DevicePathNode.bytes).length + endDevicePathLength := by
  induction rounds with
  | zero =>
      intro a nodes h
      cases h
  | succ rounds ih =>
      intro a nodes h hinner hnodes
      rw [walkSize]
      cases nodes with
      | nil =>
          obtain ⟨htype, hsub⟩ := nodesAt_nil hnodes
          have hend : endsAt ram a = true := by
            rw [endsAt, htype, hsub]
            decide
          rw [hend, if_pos rfl]
          rfl
      | cons n nodes =>
          obtain ⟨htype, hsub, hlength, hrest⟩ := nodesAt_cons hnodes
          have hend : endsAt ram a = false := by
            rw [endsAt, htype, hsub]
            exact hinner n List.mem_cons_self
          rw [walkValid, hend, if_neg Bool.false_ne_true, Bool.and_eq_true, hlength] at h
          rw [hend, if_neg Bool.false_ne_true, hlength,
            ih h.2 (fun m hm => hinner m (List.mem_cons_of_mem n hm)) hrest, List.flatMap_cons,
            List.length_append, DevicePathNode.length_bytes, Nat.add_assoc]

theorem walkingLib_documented (rounds : Nat) : (walkingLib rounds).Documented where
  valid h := exists_path_of_walkValid h
  size {_ _ _ p} h hp := (walkSize_of_walkValid h p.inner hp).trans p.size_eq.symm
  isEnd _ _ := rfl
  next _ _ := rfl

end Walk

end OemPkg.Uefi
