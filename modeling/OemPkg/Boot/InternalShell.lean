/-
# OemPkg.Boot.InternalShell — is the current boot option the internal shell?

BootCurrentIsInternalShell takes the Boot#### variable apart that BootCurrent names: it skips the
attributes and the length of the path list, then the description up to its zero, and walks the
device path behind it from node to node. The variable may have been written by anybody, and its size
is only compared with zero. `shell_check_safe_iff` says for which contents the walk comes to an end
and stays inside the variable.
-/
import OemPkg.Lib.Strings
import OemPkg.Uefi.DevicePath
import OemPkg.Uefi.Variable

namespace OemPkg.Boot

open OemPkg.Lib OemPkg.Uefi

/-! ## Nodes of a device path in a block -/

/-- MEDIA_DEVICE_PATH -/
def mediaDevicePath : UInt8 := 0x04
/-- MEDIA_PIWG_FW_FILE_DP -/
def mediaPiwgFwFileDp : UInt8 := 0x06

/-- The node at `p` is the End-Entire node. -/
def isEndEntireAt (b : Bytes) (p : Nat) : Bool :=
  slice p 2 b == [endDevicePathType, endEntireDevicePathSubtype]

/-- The node at `p` names a file of a firmware volume. -/
def isFwVolFileAt (b : Bytes) (p : Nat) : Bool :=
  slice p 2 b == [mediaDevicePath, mediaPiwgFwFileDp]

/-- Where the node behind the one at `p` starts, by the length in its header. -/
def nextNode (b : Bytes) (p : Nat) : Nat := p + leNat (slice (p + 2) 2 b)

abbrev Guid := Block 16

/-- What BootCurrentIsInternalShell calls of BaseLib, DevicePathLib, UefiLib and BaseMemoryLib. Each
is given a block, the memory beyond it and an offset. -/
structure ShellLibs where
  strSize : (Nat → UInt8) → Bytes → Nat → Looking Nat
  isDevicePathEnd : (Nat → UInt8) → Bytes → Nat → Looking Bool
  nextDevicePathNode : (Nat → UInt8) → Bytes → Nat → Looking Nat
  /-- the place of the GUID, or NULL -/
  efiGetNameGuidFromFwVolDevicePathNode : (Nat → UInt8) → Bytes → Nat → Looking (Option Nat)
  compareGuid : (Nat → UInt8) → Bytes → Nat → Guid → Looking Bool

/-- What is documented about them, and what they look at for it: a string up to its zero, the type
and the subtype of a node (but a node of another type need not be looked at further), the length of
a node, a whole GUID. -/
structure ShellLibs.Documented (L : ShellLibs) : Prop where
  strSize : ∀ {beyond b p n}, (L.strSize beyond b p).Yields n ↔
    ∃ k, Terminated 2 b p k ∧ n = 2 * (k + 1)
  isDevicePathEnd : ∀ {beyond b p}, p + 2 ≤ b.length →
    (L.isDevicePathEnd beyond b p).Yields (isEndEntireAt b p)
  isDevicePathEnd_true : ∀ {beyond b p}, (L.isDevicePathEnd beyond b p).Yields true →
    p + 2 ≤ b.length
  nextDevicePathNode : ∀ {beyond b p q}, (L.nextDevicePathNode beyond b p).Yields q ↔
    p + 4 ≤ b.length ∧ q = nextNode b p
  nameGuid : ∀ {beyond b p}, p + 2 ≤ b.length →
    (L.efiGetNameGuidFromFwVolDevicePathNode beyond b p).Yields
      (if isFwVolFileAt b p then some (p + 4) else none)
  compareGuid : ∀ {beyond b p guid v}, (L.compareGuid beyond b p guid).Yields v ↔
    p + 16 ≤ b.length ∧ v = decide (slice p 16 b = guid.1)

/-! ## The function -/

/-- The variables it reads. -/
structure BootOptionVariables where
  bootCurrent : Option Variable
  /-- Boot####, by its number -/
  bootOption : Nat → Option Variable

/-- The content of the option that BootCurrent names, if both can be read and it is not empty.
`uninitialized` is what the local BootCurrent holds before the read. -/
def BootOptionVariables.fetched (vars : BootOptionVariables) (uninitialized : Block 2) :
    Option Bytes :=
  let read := readVariable vars.bootCurrent 2
  if efiError read.status then none
  else
    let bootCurrent := leNat (read.data ++ uninitialized.1.drop read.data.length)
    let fetched := (VarService.reliable (vars.bootOption bootCurrent)).getVariable2.1
    if fetched.size = 0 then none else fetched.value

section Function

variable (L : ShellLibs) (beyond : Nat → UInt8) (b : Bytes)

/-- A round of the walk: TempDevicePath and LastDeviceNode. -/
def walkRound (s : Nat × Nat) : Looking (Round (Nat × Nat) Nat) := do
  let ended ← L.isDevicePathEnd beyond b s.1
  if ended then pure (.done s.2)
  else do
    let next ← L.nextDevicePathNode beyond b s.1
    pure (.next (next, s.1))

/-- The look at the last node. -/
def isShellNode (pcdShellFile gUefiShellFileGuid : Guid) (lastDeviceNode : Nat) : Looking Bool := do
  let guidPoint ← L.efiGetNameGuidFromFwVolDevicePathNode beyond b lastDeviceNode
  match guidPoint with
  | none => pure false
  | some g => do
      let isShell ← L.compareGuid beyond b g pcdShellFile
      if isShell then pure true else L.compareGuid beyond b g gUefiShellFileGuid

/-- The parsing of a boot option: the attributes and the length of the path list come first. -/
def optionIsInternalShell (pcdShellFile gUefiShellFileGuid : Guid) : Looking Bool := do
  let size ← L.strSize beyond b 6
  let lastDeviceNode ← Looking.loop (walkRound L beyond b) (6 + size, 6 + size)
  isShellNode L beyond b pcdShellFile gUefiShellFileGuid lastDeviceNode

/-- BootCurrentIsInternalShell -/
def bootCurrentIsInternalShell (pcdShellFile gUefiShellFileGuid : Guid) (uninitialized : Block 2)
    (vars : BootOptionVariables) : Looking Bool :=
  match vars.fetched uninitialized with
  | none => pure false
  | some bootOption =>
      optionIsInternalShell L beyond bootOption pcdShellFile gUefiShellFileGuid

end Function

/-! ## Where the walk goes -/

/-- From node to node, the `n`-th node from `p` on is the End-Entire node, and every header on the
way is inside the block. -/
structure PathEnds (b : Bytes) (p n : Nat) : Prop where
  headers : ∀ j < n, (nextNode b)^[j] p + 4 ≤ b.length
  inner : ∀ j < n, isEndEntireAt b ((nextNode b)^[j] p) = false
  ending : (nextNode b)^[n] p + 2 ≤ b.length
  ends : isEndEntireAt b ((nextNode b)^[n] p) = true

/-- The node before the `n`-th one from `p` on; if there is none, `last`. -/
def nodeBefore (b : Bytes) (p last : Nat) : Nat → Nat
  | 0 => last
  | n + 1 => (nextNode b)^[n] p

section Walk

variable {b : Bytes} {p last n : Nat}

theorem pathEnds_zero :
    PathEnds b p 0 ↔ p + 2 ≤ b.length ∧ isEndEntireAt b p = true := by
  constructor
  · intro h
    exact ⟨h.ending, h.ends⟩
  · rintro ⟨hending, hends⟩
    exact ⟨fun j hj => absurd hj (Nat.not_lt_zero j), fun j hj => absurd hj (Nat.not_lt_zero j),
      hending, hends⟩

theorem pathEnds_succ : PathEnds b p (n + 1) ↔
    p + 4 ≤ b.length ∧ isEndEntireAt b p = false ∧ PathEnds b (nextNode b p) n := by
  constructor
  · intro h
    exact ⟨h.headers 0 (Nat.succ_pos n), h.inner 0 (Nat.succ_pos n),
      fun j hj => h.headers (j + 1) (Nat.succ_lt_succ hj),
      fun j hj => h.inner (j + 1) (Nat.succ_lt_succ hj), h.ending, h.ends⟩
  · rintro ⟨hheader, hinner, h⟩
    refine ⟨fun j hj => ?_, fun j hj => ?_, h.ending, h.ends⟩
    · cases j with
      | zero => exact hheader
      | succ j => exact h.headers j (Nat.lt_of_succ_lt_succ hj)
    · cases j with
      | zero => exact hinner
      | succ j => exact h.inner j (Nat.lt_of_succ_lt_succ hj)

theorem nodeBefore_next : nodeBefore b (nextNode b p) p n = nodeBefore b p last (n + 1) := by
  cases n with
  | zero => rfl
  | succ n => rfl

/-- A path ends once. -/
theorem PathEnds.unique {n' : Nat} (h : PathEnds b p n) (h' : PathEnds b p n') : n = n' := by
  rcases Nat.lt_trichotomy n n' with hlt | heq | hlt
  · exact absurd ((h'.inner n hlt).symm.trans h.ends) Bool.false_ne_true
  · exact heq
  · exact absurd ((h.inner n' hlt).symm.trans h'.ends) Bool.false_ne_true

variable {L : ShellLibs} {beyond : Nat → UInt8}

theorem yields_walkRound (hL : L.Documented) {r : Round (Nat × Nat) Nat} :
    (walkRound L beyond b (p, last)).Yields r ↔
      p + 2 ≤ b.length ∧
        if isEndEntireAt b p then r = .done last
        else p + 4 ≤ b.length ∧ r = .next (nextNode b p, p) := by
  unfold walkRound
  rw [Looking.yields_bind]
  constructor
  · rintro ⟨v, hend, h⟩
    have hin : p + 2 ≤ b.length := by
      cases v with
      | true => exact hL.isDevicePathEnd_true hend
      | false =>
          -- then the length is looked at as well
          obtain ⟨q, hnext, -⟩ := Looking.yields_bind.mp h
          have := (hL.nextDevicePathNode.mp hnext).1
          omega
    obtain rfl := hend.unique (hL.isDevicePathEnd hin)
    refine ⟨hin, ?_⟩
    rw [Looking.yields_ite] at h
    split_ifs at h ⊢
    · exact (Looking.yields_pure.mp h).symm
    · obtain ⟨q, hnext, h⟩ := Looking.yields_bind.mp h
      obtain ⟨hheader, rfl⟩ := hL.nextDevicePathNode.mp hnext
      exact ⟨hheader, (Looking.yields_pure.mp h).symm⟩
  · rintro ⟨hin, h⟩
    refine ⟨isEndEntireAt b p, hL.isDevicePathEnd hin, ?_⟩
    rw [Looking.yields_ite]
    split_ifs at h ⊢
    · exact Looking.yields_pure.mpr h.symm
    · obtain ⟨hheader, rfl⟩ := h
      exact Looking.yields_bind.mpr
        ⟨_, hL.nextDevicePathNode.mpr ⟨hheader, rfl⟩, Looking.yields_pure.mpr rfl⟩

/-- **The walk ends exactly on the paths that end**, at the node before the last one. -/
theorem yields_walk (hL : L.Documented) {v : Nat} :
    (Looking.loop (walkRound L beyond b) (p, last)).Yields v ↔
      ∃ n, PathEnds b p n ∧ v = nodeBefore b p last n := by
  constructor
  · intro h
    refine Looking.Yields.loop_induction (P := fun s v => ∃ n, PathEnds b s.1 n ∧
      v = nodeBefore b s.1 s.2 n) ?_ ?_ h
    · rintro ⟨p, last⟩ v hround
      obtain ⟨hin, hv⟩ := (yields_walkRound hL).mp hround
      split_ifs at hv with hend
      · cases hv
        exact ⟨0, pathEnds_zero.mpr ⟨hin, hend⟩, rfl⟩
      · cases hv.2
    · rintro ⟨p, last⟩ s' v hround ⟨n, hpath, rfl⟩
      obtain ⟨-, hs'⟩ := (yields_walkRound hL).mp hround
      split_ifs at hs' with hend
      · obtain ⟨hheader, hs'⟩ := hs'
        cases hs'
        refine ⟨n + 1, pathEnds_succ.mpr ⟨hheader, ?_, hpath⟩, nodeBefore_next⟩
        exact Bool.not_eq_true _ ▸ hend
  · rintro ⟨n, hpath, rfl⟩
    induction n generalizing p last with
    | zero =>
        obtain ⟨hin, hend⟩ := pathEnds_zero.mp hpath
        refine Looking.yields_loop.mpr (Or.inl ((yields_walkRound hL).mpr ⟨hin, ?_⟩))
        rw [if_pos hend]
        rfl
    | succ n ih =>
        obtain ⟨hheader, hinner, hrest⟩ := pathEnds_succ.mp hpath
        refine Looking.yields_loop.mpr (Or.inr ⟨(nextNode b p, p), ?_, ?_⟩)
        · refine (yields_walkRound hL).mpr ⟨by omega, ?_⟩
          rw [if_neg (by rw [hinner]; exact Bool.false_ne_true)]
          exact ⟨hheader, rfl⟩
        · rw [← nodeBefore_next]
          exact ih hrest

/-- The node before the last one has a header in the block, or is the last one itself. -/
theorem PathEnds.nodeBefore_le (h : PathEnds b p n) : nodeBefore b p p n + 2 ≤ b.length := by
  cases n with
  | zero => exact h.ending
  | succ n =>
      have := h.headers n (Nat.lt_succ_self n)
      show (nextNode b)^[n] p + 2 ≤ b.length
      omega

end Walk

/-! ## Which contents are safe -/

/-- The device path starts behind the description. -/
def pathStart (k : Nat) : Nat := 6 + 2 * (k + 1)

/-- The description ends in the block, so does the path behind it, and a node before its end that
names a file of a firmware volume has room for the name. -/
def OptionInBounds (b : Bytes) : Prop :=
  ∃ k n, Terminated 2 b 6 k ∧ PathEnds b (pathStart k) n ∧
    (isFwVolFileAt b (nodeBefore b (pathStart k) (pathStart k) n) = true →
      nodeBefore b (pathStart k) (pathStart k) n + 20 ≤ b.length)

section Function

variable {L : ShellLibs} {beyond : Nat → UInt8} {b : Bytes} {pcdShellFile gUefiShellFileGuid : Guid}

/-- The GUID at `g` is one of the two. -/
def isShellGuidAt (pcdShellFile gUefiShellFileGuid : Guid) (b : Bytes) (g : Nat) : Bool :=
  decide (slice g 16 b = pcdShellFile.1) || decide (slice g 16 b = gUefiShellFileGuid.1)

theorem yields_compareGuids (hL : L.Documented) {g : Nat} {v : Bool} :
    (do let isShell ← L.compareGuid beyond b g pcdShellFile
        if isShell then pure true else L.compareGuid beyond b g gUefiShellFileGuid :
        Looking Bool).Yields v ↔
      g + 16 ≤ b.length ∧ v = isShellGuidAt pcdShellFile gUefiShellFileGuid b g := by
  rw [Looking.yields_bind, isShellGuidAt]
  constructor
  · rintro ⟨isShell, hcompare, h⟩
    obtain ⟨hin, rfl⟩ := hL.compareGuid.mp hcompare
    refine ⟨hin, ?_⟩
    rw [Looking.yields_ite] at h
    split_ifs at h with hshell
    · rw [hshell, Bool.true_or]
      exact (Looking.yields_pure.mp h).symm
    · rw [Bool.eq_false_iff.mpr hshell, Bool.false_or]
      exact (hL.compareGuid.mp h).2
  · rintro ⟨hin, rfl⟩
    refine ⟨_, hL.compareGuid.mpr ⟨hin, rfl⟩, ?_⟩
    rw [Looking.yields_ite]
    split_ifs with hshell
    · exact Looking.yields_pure.mpr (by rw [hshell, Bool.true_or])
    · refine hL.compareGuid.mpr ⟨hin, ?_⟩
      rw [Bool.eq_false_iff.mpr hshell, Bool.false_or]

theorem yields_isShellNode (hL : L.Documented) {q : Nat} (hq : q + 2 ≤ b.length) {v : Bool} :
    (isShellNode L beyond b pcdShellFile gUefiShellFileGuid q).Yields v ↔
      (isFwVolFileAt b q = true → q + 20 ≤ b.length) ∧
        v = (isFwVolFileAt b q && isShellGuidAt pcdShellFile gUefiShellFileGuid b (q + 4)) := by
  have hname : (L.efiGetNameGuidFromFwVolDevicePathNode beyond b q).Yields
      (if isFwVolFileAt b q then some (q + 4) else none) := hL.nameGuid hq
  have hfirst : (isShellNode L beyond b pcdShellFile gUefiShellFileGuid q).Yields v ↔
      (match if isFwVolFileAt b q then some (q + 4) else none with
        | none => pure false
        | some g => do
            let isShell ← L.compareGuid beyond b g pcdShellFile
            if isShell then pure true
            else L.compareGuid beyond b g gUefiShellFileGuid : Looking Bool).Yields v := by
    unfold isShellNode
    rw [Looking.yields_bind]
    constructor
    · rintro ⟨g, hg, h⟩
      rwa [hg.unique hname] at h
    · exact fun h => ⟨_, hname, h⟩
  rw [hfirst]
  cases hfile : isFwVolFileAt b q with
  | false =>
      rw [if_neg Bool.false_ne_true, Looking.yields_pure, Bool.false_and]
      exact ⟨fun h => ⟨fun hno => absurd hno Bool.false_ne_true, h.symm⟩, fun h => h.2.symm⟩
  | true =>
      rw [if_pos rfl, Bool.true_and]
      exact (yields_compareGuids hL).trans
        (and_congr_left' ⟨fun h _ => h, fun h => h rfl⟩)

/-- **A boot option is taken apart safely** exactly when its description, its path and its name are
in it. -/
theorem optionIsInternalShell_yields_iff (hL : L.Documented) :
    (∃ v, (optionIsInternalShell L beyond b pcdShellFile gUefiShellFileGuid).Yields v) ↔
      OptionInBounds b := by
  unfold optionIsInternalShell OptionInBounds
  constructor
  · rintro ⟨v, h⟩
    obtain ⟨size, hsize, h⟩ := Looking.yields_bind.mp h
    obtain ⟨last, hwalk, h⟩ := Looking.yields_bind.mp h
    obtain ⟨k, hdescription, rfl⟩ := hL.strSize.mp hsize
    obtain ⟨n, hpath, rfl⟩ := (yields_walk hL).mp hwalk
    exact ⟨k, n, hdescription, hpath, ((yields_isShellNode hL hpath.nodeBefore_le).mp h).1⟩
  · rintro ⟨k, n, hdescription, hpath, hname⟩
    obtain ⟨v, hnode⟩ : ∃ v, (isShellNode L beyond b pcdShellFile gUefiShellFileGuid
        (nodeBefore b (pathStart k) (pathStart k) n)).Yields v :=
      ⟨_, (yields_isShellNode hL hpath.nodeBefore_le).mpr ⟨hname, rfl⟩⟩
    refine ⟨v, Looking.yields_bind.mpr ⟨_, hL.strSize.mpr ⟨k, hdescription, rfl⟩, ?_⟩⟩
    exact Looking.yields_bind.mpr ⟨_, (yields_walk hL).mpr ⟨n, hpath, rfl⟩, hnode⟩

/-- **When the detection of the internal shell is safe.** It ends and looks at nothing beyond the
variable exactly if BootCurrent names no option with any content, or one whose description, device
path and file name end where the variable does at the latest. -/
theorem shell_check_safe_iff (hL : L.Documented) (uninitialized : Block 2)
    (vars : BootOptionVariables) :
    (∃ v, (bootCurrentIsInternalShell L beyond pcdShellFile gUefiShellFileGuid uninitialized
      vars).Yields v) ↔ ∀ b, vars.fetched uninitialized = some b → OptionInBounds b := by
  unfold bootCurrentIsInternalShell
  cases hfetched : vars.fetched uninitialized with
  | none => exact ⟨fun _ b hb => (nomatch hb), fun _ => ⟨false, Looking.yields_pure.mpr rfl⟩⟩
  | some b =>
      dsimp only
      rw [optionIsInternalShell_yields_iff hL]
      exact ⟨fun h b' hb' => Option.some.inj hb' ▸ h, fun h => h b rfl⟩

end Function

/-! ## One such set of libraries -/

/-- Libraries that look at what they are asked about. -/
def shellLibs : ShellLibs where
  strSize beyond b p := do
    let k ← scan 2 beyond b p
    pure (2 * (k + 1))
  isDevicePathEnd beyond b p := do
    let header ← Looking.read beyond b p 2
    pure (header == [endDevicePathType, endEntireDevicePathSubtype])
  nextDevicePathNode beyond b p := do
    let header ← Looking.read beyond b p 4
    pure (p + leNat (slice 2 2 header))
  efiGetNameGuidFromFwVolDevicePathNode beyond b p := do
    let header ← Looking.read beyond b p 2
    pure (if header == [mediaDevicePath, mediaPiwgFwFileDp] then some (p + 4) else none)
  compareGuid beyond b p guid := do
    let found ← Looking.read beyond b p 16
    pure (decide (found = guid.1))

/-- To read and to work on what was read. -/
theorem yields_read_pure {α : Type} {beyond : Nat → UInt8} {b : Bytes} {p w : Nat} (hw : 0 < w)
    {f : Bytes → α} {v : α} :
    (do let data ← Looking.read beyond b p w
        pure (f data) : Looking α).Yields v ↔ p + w ≤ b.length ∧ v = f (slice p w b) := by
  rw [Looking.yields_bind]
  constructor
  · rintro ⟨data, hread, h⟩
    obtain ⟨hin, rfl⟩ := (Looking.yields_read hw).mp hread
    exact ⟨hin, (Looking.yields_pure.mp h).symm⟩
  · rintro ⟨hin, rfl⟩
    exact ⟨_, (Looking.yields_read hw).mpr ⟨hin, rfl⟩, Looking.yields_pure.mpr rfl⟩

theorem shellLibs_documented : shellLibs.Documented where
  strSize {beyond b p n} := by
    show (scan 2 beyond b p >>= fun k => pure (2 * (k + 1))).Yields n ↔ _
    rw [Looking.yields_bind]
    apply exists_congr
    intro k
    rw [yields_scan beyond Nat.two_pos, Looking.yields_pure]
    exact and_congr_right' eq_comm
  isDevicePathEnd h := (yields_read_pure Nat.two_pos).mpr ⟨h, rfl⟩
  isDevicePathEnd_true h := ((yields_read_pure Nat.two_pos).mp h).1
  nextDevicePathNode {beyond b p q} := by
    refine (yields_read_pure (Nat.succ_pos 3)).trans (and_congr_right fun hin => ?_)
    rw [slice_slice (Nat.le_refl 4), nextNode]
  nameGuid h := (yields_read_pure Nat.two_pos).mpr ⟨h, rfl⟩
  compareGuid := yields_read_pure (Nat.succ_pos 15)

/-- A variable Boot0001, named by BootCurrent. -/
def bootingOption (b : Bytes) : BootOptionVariables where
  bootCurrent := some ⟨efiVariableBootserviceAccess ||| efiVariableRuntimeAccess, [1, 0]⟩
  bootOption n := if n = 1 then some ⟨efiVariableNonVolatile ||| efiVariableBootserviceAccess |||
    efiVariableRuntimeAccess, b⟩ else none

/-- The option of a shell: the description "S", a node for the file with this name in a firmware
volume, and the End-Entire node. -/
def shellOption (name : Guid) : Bytes :=
  [1, 0, 0, 0, 24, 0, 0x53, 0, 0, 0] ++ [mediaDevicePath, mediaPiwgFwFileDp, 20, 0] ++ name.1 ++
    [endDevicePathType, endEntireDevicePathSubtype, 4, 0]

/-- It is taken apart safely, to the last byte of the name. -/
theorem shell_check_safe_shell :
    ∃ v, (bootCurrentIsInternalShell shellLibs (fun _ => 0) ⟨List.replicate 16 1, rfl⟩
      ⟨List.replicate 16 2, rfl⟩ ⟨[0, 0], rfl⟩
      (bootingOption (shellOption ⟨List.replicate 16 2, rfl⟩))).Yields v := by
  apply (shell_check_safe_iff shellLibs_documented _ _).mpr
  intro b hb
  have hfetched : (bootingOption (shellOption ⟨List.replicate 16 2, rfl⟩)).fetched ⟨[0, 0], rfl⟩ =
      some (shellOption ⟨List.replicate 16 2, rfl⟩) := by decide
  rw [hfetched] at hb
  cases hb
  -- one letter, and one node in front of the last one
  have hdescription : Terminated 2 (shellOption ⟨List.replicate 16 2, rfl⟩) 6 1 :=
    ⟨by decide, by decide, by decide⟩
  have hpath : PathEnds (shellOption ⟨List.replicate 16 2, rfl⟩) (pathStart 1) 1 :=
    pathEnds_succ.mpr ⟨by decide, by decide, pathEnds_zero.mpr ⟨by decide, by decide⟩⟩
  exact ⟨1, 1, hdescription, hpath, fun _ => by decide⟩

/-- An option whose first node has the length zero. -/
def circularOption : Bytes := [1, 0, 0, 0, 4, 0, 0, 0, 1, 1, 0, 0]

/-- The walk stays on that node for ever. -/
theorem shell_check_circles :
    ¬ ∀ (L : ShellLibs), L.Documented → ∀ (beyond : Nat → UInt8)
      (pcdShellFile gUefiShellFileGuid : Guid) (uninitialized : Block 2)
      (vars : BootOptionVariables), ∃ v, (bootCurrentIsInternalShell L beyond pcdShellFile
        gUefiShellFileGuid uninitialized vars).Yields v := by
  intro hsafe
  obtain ⟨k, n, hdescription, hpath, -⟩ := (shell_check_safe_iff shellLibs_documented _ _).mp
    (hsafe shellLibs shellLibs_documented (fun _ => 0) ⟨List.replicate 16 1, rfl⟩
      ⟨List.replicate 16 2, rfl⟩ ⟨[0, 0], rfl⟩ (bootingOption circularOption)) circularOption
    (by decide)
  have hk : Terminated 2 circularOption 6 0 :=
    ⟨by decide, fun j hj => absurd hj (Nat.not_lt_zero j), by decide⟩
  obtain rfl := hdescription.unique hk
  have hfixed : nextNode circularOption (pathStart 0) = pathStart 0 := by decide
  have hends := hpath.ends
  rw [Function.iterate_fixed hfixed n] at hends
  exact absurd hends (by decide)

end OemPkg.Boot
