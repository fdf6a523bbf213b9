/-
# OemPkg.Config.Ownership — who frees the policy buffer

CreateConfPolicy allocates the policy buffer and hands it to OemConfigPolicyCreatorPeiEntry through
a pointer; both free it in their exits. On an error CreatePolicyExit frees the buffer and leaves the
pointer as it is, and the entry point, which sees a pointer, frees it again:
`policy_buffer_released_once_iff` says that this is the one way to go wrong, over every pattern of
answers of the calls.
-/
import OemPkg.Config.PolicyBuffer

namespace OemPkg.Config

open OemPkg.Lib OemPkg.Uefi

/-! ## Patterns of answers -/

/-- What the calls of one run answer, the two that are made for each knob by its number. -/
structure CallPattern where
  getVarListSize : Nat → Nat → EfiStatus × UInt32
  allocated : Bool
  getActiveProfileIndex : EfiStatus × UInt32
  getConfigKnobOverride : Nat → EfiStatus × Memory
  convertVariableEntryToVariableList : Nat → EfiStatus × Bytes
  setMetadataPolicy : EfiStatus
  setConfigPolicy : EfiStatus

namespace CallPattern

/-- Services that answer so, whatever they are called with. -/
def services (c : CallPattern) : PolicyServices where
  getVarListSize := c.getVarListSize
  allocated := c.allocated
  getActiveProfileIndex := c.getActiveProfileIndex
  getConfigKnobOverride i _ := c.getConfigKnobOverride i
  convertVariableEntryToVariableList i _ _ := c.convertVariableEntryToVariableList i
  setMetadataPolicy := c.setMetadataPolicy
  setConfigPolicy := c.setConfigPolicy

/-- The round of knob `i` goes through: there is no failure of variable services, and the entry is
converted. -/
def GoesThrough (c : CallPattern) (i : Nat) : Prop :=
  Tolerated (c.getConfigKnobOverride i).1 ∧
    efiError (c.convertVariableEntryToVariableList i).1 = false

/-- What `n` conversions write together, from that of knob `i` on. -/
def converted (c : CallPattern) (i n : Nat) : Nat :=
  ((List.range' i n).map fun k => (c.convertVariableEntryToVariableList k).2.length).sum

end CallPattern

variable {T : ConfigTables} {c : CallPattern}

/-- **The calls behind the allocation succeed**: every round goes through, the entries add up to the
sizes, and the metadata steps succeed. -/
structure LaterCallsSucceed (T : ConfigTables) (c : CallPattern) (sizes : List Nat) : Prop where
  rounds : ∀ i < T.gKnobData.length, c.GoesThrough i
  addsUp : c.converted 0 T.gKnobData.length % 2 ^ 32 = sizes.sum
  metadata : MetadataSucceeds T c.services

/-! ## The loop -/

/-- One round. -/
theorem fillKnob_pattern (c : CallPattern) (needed i : Nat) (d : KnobData) (st : Filling) :
    (c.GoesThrough i → ∃ st', fillKnob c.services needed i d st = .ok st' ∧
        st'.offset = st.offset +
          UInt32.ofNat (c.convertVariableEntryToVariableList i).2.length) ∧
      (¬ c.GoesThrough i → ∃ status, fillKnob c.services needed i d st = .error status ∧
        efiError status = true) := by
  unfold fillKnob
  dsimp only
  split_ifs with hread hconvert
  · -- variable services fail
    exact ⟨fun h => absurd hread h.1, fun _ => ⟨_, rfl, hread.1⟩⟩
  · exact ⟨fun h => absurd hconvert (ne_true_of_eq_false h.2), fun _ => ⟨_, rfl, hconvert⟩⟩
  · have hgoes : c.GoesThrough i := ⟨hread, Bool.eq_false_of_not_eq_true hconvert⟩
    exact ⟨fun _ => ⟨_, rfl, rfl⟩, fun h => absurd hgoes h⟩

/-- **The whole loop**, by induction on the knobs still to come: it ends with Offset at the sum of
what was written, or stops with an error in the first round that does not go through. -/
theorem fill_pattern (c : CallPattern) (needed : Nat) (ds : List KnobData) :
    ∀ (i : Nat) (st : Filling),
      ((∀ j < ds.length, c.GoesThrough (i + j)) →
        ∃ st', fill c.services needed i ds st = .ok st' ∧
          st'.offset.toNat = (st.offset.toNat + c.converted i ds.length) % 2 ^ 32) ∧
      ((¬ ∀ j < ds.length, c.GoesThrough (i + j)) →
        ∃ status, fill c.services needed i ds st = .error status ∧ efiError status = true) := by
  induction ds with
  | nil =>
      intro i st
      refine ⟨fun _ => ⟨st, rfl, ?_⟩, fun h => absurd (fun j hj => absurd hj (Nat.not_lt_zero j)) h⟩
      exact (Nat.mod_eq_of_lt st.offset.toNat_lt).symm
  | cons d ds ih =>
      intro i st
      obtain ⟨hgoes, hstops⟩ := fillKnob_pattern c needed i d st
      have hsplit : (∀ j < (d :: ds).length, c.GoesThrough (i + j)) ↔
          c.GoesThrough i ∧ ∀ j < ds.length, c.GoesThrough (i + 1 + j) := by
        constructor
        · intro h
          refine ⟨h 0 (by simp), fun j hj => ?_⟩
          have hlater := h (j + 1) (by simpa using hj)
          rwa [show i + (j + 1) = i + 1 + j by omega] at hlater
        · rintro ⟨hfirst, hrest⟩ j hj
          cases j with
          | zero => exact hfirst
          | succ j =>
              rw [show i + (j + 1) = i + 1 + j by omega]
              exact hrest j (by simpa using hj)
      rw [hsplit]
      by_cases hfirst : c.GoesThrough i
      · obtain ⟨st₁, hstep, hoffset⟩ := hgoes hfirst
        obtain ⟨hall, hnot⟩ := ih (i + 1) st₁
        simp only [fill, hstep, hfirst, true_and]
        refine ⟨fun h => ?_, hnot⟩
        obtain ⟨st', hrun, hend⟩ := hall h
        refine ⟨st', hrun, ?_⟩
        rw [hend, hoffset, UInt32.toNat_add, UInt32.toNat_ofNat', CallPattern.converted,
          CallPattern.converted, List.length_cons, List.range'_succ, List.map_cons, List.sum_cons]
        omega
      · obtain ⟨status, hstep, herror⟩ := hstops hfirst
        simp only [fill, hstep, hfirst, false_and, IsEmpty.forall_iff, not_false_eq_true,
          forall_true_left, true_and]
        exact ⟨status, rfl, herror⟩

/-! ## The two exits -/

/-- The entry point frees what CreateConfPolicy has left in its pointer. -/
theorem entry_pool (sv : PolicyServices) (memory : Memory) (cache : Caches)
    (unicodeName : List UInt16) (pool : Pool) {r : EfiStatus × Creator}
    (hr : createConfPolicyInPool T sv memory cache unicodeName ⟨none, 0, pool, []⟩ = r) :
    (oemConfigPolicyCreatorPeiEntry T sv memory cache unicodeName pool).2.pool =
      match r.2.confPolicy with
      | some buffer => r.2.pool.freePool buffer
      | none => r.2.pool := by
  unfold oemConfigPolicyCreatorPeiEntry
  rw [hr]
  rcases r with ⟨status, confPolicy, confPolicySize, p, published⟩
  cases confPolicy <;> dsimp only <;> split_ifs <;> rfl

/-- After an error behind the allocation the buffer is freed in both exits. -/
theorem exit_frees_twice {status : EfiStatus} (herror : efiError status = true) (buffer : Nat)
    (size : UInt16) (pool : Pool) (published : List Published) :
    (createPolicyExitInPool status ⟨some buffer, size, pool, published⟩).2 =
      ⟨some buffer, 0, pool.freePool buffer, published⟩ := by
  rw [createPolicyExitInPool, if_pos herror]

/-- Nothing is allocated: the sizes do not fit, or there is no memory. -/
theorem createConfPolicyInPool_unallocated {sv : PolicyServices} {sizes : List Nat}
    (hfit : SizesFit T sv sizes) (halloc : sv.allocated = false) (memory : Memory) (cache : Caches)
    (unicodeName : List UInt16) (size : UInt16) (pool : Pool) (published : List Published) :
    createConfPolicyInPool T sv memory cache unicodeName ⟨none, size, pool, published⟩ =
      (efiOutOfResources, ⟨none, 0, pool, published⟩) := by
  have hsmall : ¬ 2 ^ 16 ≤ sizes.sum := Nat.not_le.mpr hfit.sum_lt
  unfold createConfPolicyInPool
  rw [hfit.neededSize]
  simp only [hsmall, if_false, halloc, Bool.not_false, if_true, createPolicyExitInPool,
    efiError_outOfResources]

/-- **A failure behind the allocation**: CreatePolicyExit frees the buffer, and so does the entry
point after it. -/
theorem entry_releases_twice {sv : PolicyServices} {memory : Memory} {cache : Caches}
    {unicodeName : List UInt16} {pool p : Pool} {status : EfiStatus} {size : UInt16}
    {published : List Published} (herror : efiError status = true)
    (hr : createConfPolicyInPool T sv memory cache unicodeName ⟨none, 0, pool, []⟩ =
      createPolicyExitInPool status ⟨some pool.next, size, p, published⟩)
    (hreleased : p.released = pool.released) (hnext : p.next = pool.next + 1) :
    pool.ReleasesNew
      (oemConfigPolicyCreatorPeiEntry T sv memory cache unicodeName pool).2.pool 2 := by
  rw [entry_pool _ _ _ _ _ hr, exit_frees_twice herror]
  refine ⟨?_, hnext⟩
  show p.released ++ [pool.next] ++ [pool.next] = pool.released ++ [pool.next, pool.next]
  rw [hreleased, List.append_assoc]
  rfl

/-- **Behind the allocation** the buffer is freed by the entry point alone when every call succeeds,
and by both when one fails. -/
theorem entry_releases {sizes : List Nat} (hfit : SizesFit T c.services sizes)
    (halloc : c.allocated = true) (memory : Memory) (cache : Caches) (unicodeName : List UInt16)
    (pool : Pool) :
    ∃ times, (times = 1 ↔ LaterCallsSucceed T c sizes) ∧ pool.ReleasesNew
      (oemConfigPolicyCreatorPeiEntry T c.services memory cache unicodeName pool).2.pool times := by
  have hrun := createConfPolicyInPool_allocated (T := T) hfit (show c.services.allocated = true from
    halloc) memory cache unicodeName 0 pool []
  have htwice : ¬ LaterCallsSucceed T c sizes → (2 = 1 ↔ LaterCallsSucceed T c sizes) :=
    fun hnot => ⟨fun h => absurd h (by decide), fun h => absurd h hnot⟩
  obtain ⟨hall, hstops⟩ := fill_pattern c sizes.sum T.gKnobData 0
    (startFilling sizes.sum memory (selectProfile T (c.services.round 0) cache).1 unicodeName)
  simp only [Nat.zero_add] at hall hstops
  by_cases hrounds : ∀ i < T.gKnobData.length, c.GoesThrough i
  swap
  · obtain ⟨status, hfill, herror⟩ := hstops hrounds
    rw [hfill] at hrun
    exact ⟨2, htwice fun h => hrounds h.rounds, entry_releases_twice herror hrun (by rfl) (by rfl)⟩
  obtain ⟨filled, hfill, hend⟩ := hall hrounds
  have hoffset : filled.offset.toNat = c.converted 0 T.gKnobData.length % 2 ^ 32 := by
    rw [hend]
    show (0 + c.converted 0 T.gKnobData.length) % 2 ^ 32 = _
    rw [Nat.zero_add]
  rw [hfill] at hrun
  simp only [hoffset] at hrun
  by_cases hadds : c.converted 0 T.gKnobData.length % 2 ^ 32 = sizes.sum
  swap
  · rw [if_pos hadds] at hrun
    exact ⟨2, htwice fun h => hadds h.addsUp,
      entry_releases_twice efiError_aborted hrun (by rfl) (by rfl)⟩
  rw [if_neg (not_not.mpr hadds)] at hrun
  obtain ⟨hmeta, hpublish⟩ | ⟨hnot, status, herror, hpublish⟩ :=
    publishMetadata_cases T c.services ⟨some pool.next, UInt16.ofNat sizes.sum,
      (pool.allocatePool (copyMem sizes.sum memory)).2.fill pool.next filled.buffer, []⟩
  · rw [hpublish] at hrun
    refine ⟨1, ⟨fun _ => ⟨hrounds, hadds, hmeta⟩, fun _ => rfl⟩, ?_⟩
    rw [entry_pool _ _ _ _ _ hrun]
    exact ⟨rfl, rfl⟩
  · rw [hpublish] at hrun
    exact ⟨2, htwice fun h => hnot h.metadata,
      entry_releases_twice herror hrun (by rfl) (by rfl)⟩

/-- **The policy buffer is released once** if it is allocated, and not at all otherwise, exactly
when no call fails behind the allocation. -/
theorem policy_buffer_released_once_iff (T : ConfigTables) (c : CallPattern) (memory : Memory)
    (cache : Caches) (unicodeName : List UInt16) (pool : Pool) :
    pool.ReleasesOnce
        (oemConfigPolicyCreatorPeiEntry T c.services memory cache unicodeName pool).2.pool ↔
      ∀ sizes, SizesFit T c.services sizes → c.allocated = true → LaterCallsSucceed T c sizes := by
  by_cases hfit : ∃ sizes, SizesFit T c.services sizes
  swap
  · -- nothing is allocated, and the pointer is still NULL
    have hrun := createConfPolicyInPool_unfit hfit memory cache unicodeName 0 pool []
    refine ⟨fun _ sizes h => absurd ⟨sizes, h⟩ hfit, fun _ => ?_⟩
    rw [entry_pool _ _ _ _ _ hrun]
    exact Pool.releasesOnce_of_unchanged rfl rfl
  obtain ⟨sizes, hfit⟩ := hfit
  have hunique : ∀ sizes', SizesFit T c.services sizes' → sizes' = sizes := fun sizes' h =>
    List.map_injective_iff.mpr (Option.some_injective _) (h.computed.symm.trans hfit.computed)
  by_cases halloc : c.allocated = true
  · obtain ⟨times, htimes, hreleases⟩ :=
      entry_releases hfit halloc memory cache unicodeName pool
    rw [hreleases.releasesOnce_iff, htimes]
    exact ⟨fun h sizes' h' _ => hunique sizes' h' ▸ h, fun h => h sizes hfit halloc⟩
  · have hrun := createConfPolicyInPool_unallocated hfit (Bool.eq_false_of_not_eq_true halloc)
      memory cache unicodeName 0 pool []
    refine ⟨fun _ _ _ h => absurd h halloc, fun _ => ?_⟩
    rw [entry_pool _ _ _ _ _ hrun]
    exact Pool.releasesOnce_of_unchanged rfl rfl

/-- Everything succeeds but the SetPolicy of the metadata. -/
def metadataRefused : CallPattern where
  getVarListSize := serializing.getVarListSize
  allocated := true
  getActiveProfileIndex := (efiSuccess, 0)
  getConfigKnobOverride _ := (efiNotFound, fun _ => 0)
  convertVariableEntryToVariableList _ := (efiSuccess, List.replicate 37 0)
  setMetadataPolicy := efiOutOfResources
  setConfigPolicy := efiSuccess

/-- The buffer is then freed twice. -/
theorem policy_buffer_released_twice :
    ¬ ∀ (T : ConfigTables) (c : CallPattern) (memory : Memory) (cache : Caches)
      (unicodeName : List UInt16) (pool : Pool),
      pool.ReleasesOnce
        (oemConfigPolicyCreatorPeiEntry T c.services memory cache unicodeName pool).2.pool := by
  intro h
  have hfit : SizesFit twoKnobs metadataRefused.services [37, 37] := ⟨by decide, by decide⟩
  obtain ⟨times, htimes, hreleases⟩ := entry_releases hfit rfl (fun _ => 0) twoKnobsCaches []
    ⟨fun _ => none, [], 0⟩
  have honce := hreleases.releasesOnce_iff.mp (h twoKnobs metadataRefused _ _ _ _)
  have hfails := (htimes.mp honce).metadata.setPolicy
  exact absurd hfails (by decide)

end OemPkg.Config
