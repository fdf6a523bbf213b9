/-
# OemPkg.Config.PolicyBuffer — the policy as bytes in a pool buffer

`PolicyCreator` has the policy as a value. Here CreateConfPolicy works in the buffer it allocates:
the first loop predicts the size of every entry with checked arithmetic, the second writes them at a
running Offset and offers what is left of NeededSize as room, and both hand the buffer and its size
out through pointers. OemConfigPolicyCreatorPeiEntry publishes it and frees it.

The two loops agree: `policy_is_concatenation` says where every entry lies, and that the comparison
of Offset with NeededSize behind the loops never fails.
-/
import OemPkg.Lib.EndToEnd
import OemPkg.Lib.Pool
import OemPkg.Config.RejectedOverride

namespace OemPkg.Config

open OemPkg.Lib OemPkg.Uefi

/-! ## The calls -/

/-- The calls of CreateConfPolicy and of the entry point. The two that are made once for each knob
are told apart by its number. -/
structure PolicyServices where
  getVarListSize : Nat → Nat → EfiStatus × UInt32
  allocated : Bool
  getActiveProfileIndex : EfiStatus × UInt32
  getConfigKnobOverride : (i : Nat) → List UInt16 → EfiStatus × Memory
  convertVariableEntryToVariableList : (i : Nat) → ConfigVarListEntry → Nat → EfiStatus × Bytes
  /-- SetPolicy for the metadata -/
  setMetadataPolicy : EfiStatus
  /-- SetPolicy for the policy -/
  setConfigPolicy : EfiStatus

/-- The services as the round of knob `i` meets them. -/
def PolicyServices.round (sv : PolicyServices) (i : Nat) : ConfigServices where
  getVarListSize := sv.getVarListSize
  allocated := sv.allocated
  getActiveProfileIndex := sv.getActiveProfileIndex
  getConfigKnobOverride := sv.getConfigKnobOverride
  convertVariableEntryToVariableList := sv.convertVariableEntryToVariableList i
  setMetadataPolicy := sv.setMetadataPolicy

/-- What SetPolicy accepted. -/
inductive Published where
  | metadata (p : OemConfigMetadataPolicy)
  | config (policy : Bytes)

/-- What CreateConfPolicy works on: the variables behind its two pointers, the pool, and the
policies published so far. -/
structure Creator where
  /-- `*ConfPolicy`, `none` for NULL -/
  confPolicy : Option Nat
  /-- `*ConfPolicySize` -/
  confPolicySize : UInt16
  pool : Pool
  published : List Published

section Functions

variable (T : ConfigTables) (sv : PolicyServices)

/-! ## The loop over the knobs -/

/-- The state of the loop: the caches, the local UnicodeName, the buffer, Offset, and the pieces
written so far with the entries they were made from. -/
structure Filling where
  cache : Caches
  unicodeName : List UInt16
  buffer : Bytes
  offset : UInt32
  written : List Piece
  entries : List ConfigVarListEntry

/-- One round of the loop, for knob number `i`. -/
def fillKnob (needed : Nat) (i : Nat) (d : KnobData) (st : Filling) : Except EfiStatus Filling :=
  let unicodeName := asciiStrToUnicodeStrS d.name st.unicodeName d.nameSize
  let got := sv.getConfigKnobOverride i unicodeName
  if efiError got.1 ∧ got.1 ≠ efiNotFound ∧ got.1 ≠ efiBadBufferSize then .error got.1
  else
    let cache := readStored i d got st.cache
    let entry : ConfigVarListEntry :=
      ⟨unicodeName, d.vendorNamespace, variableAttributeNvBsRt, cache i, UInt32.ofNat d.valueSize⟩
    let varListSize := (2 ^ 64 + needed - st.offset.toNat) % 2 ^ 64
    let list := sv.convertVariableEntryToVariableList i entry varListSize
    if efiError list.1 then .error list.1
    else
      .ok ⟨cache, unicodeName, splice st.offset.toNat list.2 st.buffer,
        st.offset + UInt32.ofNat list.2.length, st.written ++ [⟨st.offset.toNat, list.2⟩],
        st.entries ++ [entry]⟩

/-- The loop over the knobs from number `i` on. -/
def fill (needed : Nat) : (i : Nat) → List KnobData → Filling → Except EfiStatus Filling
  | _, [], st => .ok st
  | i, d :: ds, st =>
      match fillKnob sv needed i d st with
      | .error status => .error status
      | .ok st => fill needed (i + 1) ds st

/-- The loop as it starts, in a new buffer of `needed` bytes that happens to hold `memory`. -/
def startFilling (needed : Nat) (memory : Memory) (cache : Caches) (unicodeName : List UInt16) :
    Filling :=
  ⟨cache, unicodeName, copyMem needed memory, 0, [], []⟩

/-! ## CreateConfPolicy -/

/-- CreatePolicyExit: after an error the size is cleared and the buffer freed. The caller's pointer
stays as it is. -/
def createPolicyExitInPool (status : EfiStatus) (st : Creator) : EfiStatus × Creator :=
  if efiError status then
    let st := { st with confPolicySize := 0 }
    match st.confPolicy with
    | some buffer => (status, { st with pool := st.pool.freePool buffer })
    | none => (status, st)
  else (status, st)

/-- The name of the profile that is reported. -/
def profileFlavorName (index : UInt32) : List UInt8 :=
  if index = T.genericProfileIndex then T.genericProfileFlavorName
  else T.gProfileFlavorNames index.toNat

/-- CreateConfPolicy behind its loops: the metadata is published. -/
def publishMetadata (index : UInt32) (st : Creator) : EfiStatus × Creator :=
  -- AsciiStrCpyS
  if T.profileFlavorNameLength ≤ (profileFlavorName T index).length then
    createPolicyExitInPool efiBufferTooSmall st
  else if efiError sv.setMetadataPolicy then createPolicyExitInPool sv.setMetadataPolicy st
  else
    createPolicyExitInPool sv.setMetadataPolicy
      { st with published := st.published ++ [.metadata ⟨index, profileFlavorName T index⟩] }

/-- CreateConfPolicy. `unicodeName` is the uninitialised local buffer, `memory` what the allocated
block happens to hold. -/
def createConfPolicyInPool (memory : Memory) (cache : Caches) (unicodeName : List UInt16)
    (st : Creator) : EfiStatus × Creator :=
  match neededSize (sv.round 0) T.gKnobData 0 with
  | none => createPolicyExitInPool efiUnsupported st
  | some needed =>
      -- SafeUint32ToUint16: on an overflow it stores UINT16_ERROR
      if 2 ^ 16 ≤ needed then
        createPolicyExitInPool efiUnsupported { st with confPolicySize := 0xFFFF }
      else
        let st := { st with confPolicySize := UInt16.ofNat needed }
        if !sv.allocated then
          createPolicyExitInPool efiOutOfResources { st with confPolicy := none }
        else
          let (buffer, pool) := st.pool.allocatePool (copyMem needed memory)
          let st := { st with confPolicy := some buffer, pool }
          let selected := selectProfile T (sv.round 0) cache
          match fill sv needed 0 T.gKnobData
              (startFilling needed memory selected.1 unicodeName) with
          | .error status => createPolicyExitInPool status st
          | .ok filled =>
              let st := { st with pool := st.pool.fill buffer filled.buffer }
              if filled.offset.toNat ≠ needed then createPolicyExitInPool efiAborted st
              else publishMetadata T sv selected.2 st

/-- OemConfigPolicyCreatorPeiEntry -/
def oemConfigPolicyCreatorPeiEntry (memory : Memory) (cache : Caches) (unicodeName : List UInt16)
    (pool : Pool) : EfiStatus × Creator :=
  let (status, st) := createConfPolicyInPool T sv memory cache unicodeName ⟨none, 0, pool, []⟩
  let st :=
    if efiError status ∨ st.confPolicy = none ∨ st.confPolicySize = 0 then st
    else if efiError sv.setConfigPolicy then st
    else
      let policy := ((st.confPolicy.bind st.pool.live).getD []).take st.confPolicySize.toNat
      { st with published := st.published ++ [.config policy] }
  -- Exit: Policy Service copies the policy, so we can free this memory
  match st.confPolicy with
  | some buffer => (efiSuccess, { st with pool := st.pool.freePool buffer })
  | none => (efiSuccess, st)

end Functions

/-! ## The same policy -/

section Refinement

variable {T : ConfigTables} (cs : ConfigServices) (setConfigPolicy : EfiStatus)

/-- Services that do not look at the number of a knob they convert. -/
def ConfigServices.inPool : PolicyServices where
  getVarListSize := cs.getVarListSize
  allocated := cs.allocated
  getActiveProfileIndex := cs.getActiveProfileIndex
  getConfigKnobOverride := cs.getConfigKnobOverride
  convertVariableEntryToVariableList _ := cs.convertVariableEntryToVariableList
  setMetadataPolicy := cs.setMetadataPolicy
  setConfigPolicy := setConfigPolicy

@[simp] theorem ConfigServices.round_inPool (i : Nat) : (cs.inPool setConfigPolicy).round i = cs :=
  rfl

@[simp] theorem ConfigServices.inPool_allocated :
    (cs.inPool setConfigPolicy).allocated = cs.allocated := rfl

@[simp] theorem ConfigServices.inPool_setMetadataPolicy :
    (cs.inPool setConfigPolicy).setMetadataPolicy = cs.setMetadataPolicy := rfl

/-- The loop without its buffer: the policy is what has been written so far. -/
def Filling.populating (st : Filling) : Populating :=
  ⟨st.cache, st.unicodeName, st.written.flatMap Piece.bytes, st.entries⟩

/-- **A round in the buffer is a round of `populate`.** -/
theorem fillKnob_refines (needed i : Nat) (d : KnobData) {st : Filling}
    (hoffset : st.offset.toNat = st.populating.offset) :
    populateKnob cs needed i d st.populating =
        (fillKnob (cs.inPool setConfigPolicy) needed i d st).map Filling.populating ∧
      ∀ st', fillKnob (cs.inPool setConfigPolicy) needed i d st = .ok st' →
        st'.offset.toNat = st'.populating.offset := by
  unfold fillKnob populateKnob
  rw [← hoffset]
  constructor
  · dsimp only [ConfigServices.inPool, Filling.populating]
    split_ifs
    · rfl
    · rfl
    · simp only [Except.map, Filling.populating, List.flatMap_append, List.flatMap_singleton]
  · intro st' h
    dsimp only at h
    split_ifs at h
    cases h
    simp only [Filling.populating, Populating.offset, List.flatMap_append, List.flatMap_singleton,
      List.length_append] at hoffset ⊢
    rw [UInt32.toNat_add, UInt32.toNat_ofNat', hoffset, ← Nat.add_mod]

/-- **The loop in the buffer is `populate`.** -/
theorem fill_refines (needed : Nat) (ds : List KnobData) :
    ∀ (i : Nat) (st : Filling), st.offset.toNat = st.populating.offset →
      populate cs needed i ds st.populating =
          (fill (cs.inPool setConfigPolicy) needed i ds st).map Filling.populating ∧
        ∀ st', fill (cs.inPool setConfigPolicy) needed i ds st = .ok st' →
          st'.offset.toNat = st'.populating.offset := by
  induction ds with
  | nil =>
      intro i st hoffset
      refine ⟨rfl, fun st' h => ?_⟩
      cases h
      exact hoffset
  | cons d ds ih =>
      intro i st hoffset
      obtain ⟨hstep, hnext⟩ := fillKnob_refines cs setConfigPolicy needed i d hoffset
      rw [populate, fill, hstep]
      cases hfill : fillKnob (cs.inPool setConfigPolicy) needed i d st with
      | error status => exact ⟨rfl, fun st' h => nomatch h⟩
      | ok st₁ => exact ih (i + 1) st₁ (hnext st₁ hfill)

/-! ### The buffer is the policy -/

/-- ConvertVariableEntryToVariableList writes no more than the room it is given. -/
def ConfigServices.KeepsToRoom : Prop :=
  ∀ e room, efiError (cs.convertVariableEntryToVariableList e room).1 = false →
    (cs.convertVariableEntryToVariableList e room).2.length ≤ room

/-- Up to Offset the buffer holds what has been written so far. -/
structure Filled (needed : Nat) (st : Filling) : Prop where
  length : st.buffer.length = needed
  offset_le : st.offset.toNat ≤ needed
  written : st.buffer.take st.offset.toNat = st.written.flatMap Piece.bytes

variable {cs}

theorem startFilling_filled (memory : Memory) (cache : Caches) (unicodeName : List UInt16)
    (needed : Nat) : Filled needed (startFilling needed memory cache unicodeName) where
  length := by simp [startFilling, copyMem]
  offset_le := Nat.zero_le _
  written := List.take_zero

/-- A piece that fits is written behind the others. -/
theorem Filled.write {needed : Nat} (hneeded : needed < 2 ^ 16) {st st' : Filling}
    (h : Filled needed st) {list : Bytes} (hfits : list.length ≤ needed - st.offset.toNat)
    (hbuffer : st'.buffer = splice st.offset.toNat list st.buffer)
    (hoffset : st'.offset = st.offset + UInt32.ofNat list.length)
    (hwritten : st'.written = st.written ++ [⟨st.offset.toNat, list⟩]) : Filled needed st' := by
  have hle := h.offset_le
  have hlength := h.length
  have hend : st'.offset.toNat = st.offset.toNat + list.length := by
    rw [hoffset, UInt32.toNat_add, UInt32.toNat_ofNat']
    omega
  refine ⟨?_, by omega, ?_⟩
  · rw [hbuffer, length_splice (by omega), hlength]
  · rw [hbuffer, hend, take_splice (by omega), h.written, hwritten, List.flatMap_append,
      List.flatMap_singleton]

theorem fillKnob_filled (hroom : cs.KeepsToRoom) {needed : Nat} (hneeded : needed < 2 ^ 16)
    {i : Nat} {d : KnobData} {st st' : Filling} (h : Filled needed st)
    (hstep : fillKnob (cs.inPool setConfigPolicy) needed i d st = .ok st') : Filled needed st' := by
  unfold fillKnob at hstep
  dsimp only at hstep
  split_ifs at hstep with hfail hconv
  cases hstep
  have hle := h.offset_le
  have hleft : (2 ^ 64 + needed - st.offset.toNat) % 2 ^ 64 = needed - st.offset.toNat := by
    omega
  have hfits := hroom _ _ (Bool.eq_false_of_not_eq_true hconv)
  exact h.write hneeded (hfits.trans (Nat.le_of_eq hleft)) rfl rfl rfl

theorem fill_filled (hroom : cs.KeepsToRoom) {needed : Nat} (hneeded : needed < 2 ^ 16)
    (ds : List KnobData) : ∀ {i : Nat} {st st' : Filling}, Filled needed st →
      fill (cs.inPool setConfigPolicy) needed i ds st = .ok st' → Filled needed st' := by
  induction ds with
  | nil =>
      intro i st st' h hrun
      cases hrun
      exact h
  | cons d ds ih =>
      intro i st st' h hrun
      rw [fill] at hrun
      cases hstep : fillKnob (cs.inPool setConfigPolicy) needed i d st with
      | error status =>
          rw [hstep] at hrun
          cases hrun
      | ok st₁ =>
          rw [hstep] at hrun
          exact ih (fillKnob_filled setConfigPolicy hroom hneeded h hstep) hrun

variable (cs)

/-- What CreateConfPolicy in a pool leaves, compared with an outcome of `createConfPolicy`: the same
status, the same metadata, its buffer freed as often, and the same policy in the buffer it hands
out. -/
structure Agrees (pool : Pool) (published : List Published) (r : EfiStatus × Creator)
    (out : ConfOutcome) : Prop where
  status : r.1 = out.status
  published : r.2.published = published ++ (out.metadata.map Published.metadata).toList
  released : r.2.pool.released = pool.released ++ List.replicate out.freed pool.next
  policy : cs.KeepsToRoom → ∀ policy entries, out.policy = some (policy, entries) →
    ∃ buffer, r.2.confPolicy = some buffer ∧ r.2.pool.live buffer = some policy ∧
      r.2.confPolicySize.toNat = policy.length

theorem agrees_exit {status : EfiStatus} (herror : efiError status = true) (size : UInt16)
    (pool : Pool) (published : List Published) :
    Agrees cs pool published (createPolicyExitInPool status ⟨none, size, pool, published⟩)
      (createPolicyExit status false) := by
  rw [createPolicyExitInPool, if_pos herror]
  exact ⟨rfl, (List.append_nil _).symm, (List.append_nil _).symm, fun _ _ _ h => nomatch h⟩

theorem agrees_exit_allocated {status : EfiStatus} (herror : efiError status = true)
    (size : UInt16) (pool : Pool) (published : List Published) {pool' : Pool}
    (hreleased : pool'.released = pool.released) :
    Agrees cs pool published
      (createPolicyExitInPool status ⟨some pool.next, size, pool', published⟩)
      (createPolicyExit status true) := by
  rw [createPolicyExitInPool, if_pos herror]
  refine ⟨rfl, (List.append_nil _).symm, ?_, fun _ _ _ h => nomatch h⟩
  show pool'.released ++ [pool.next] = pool.released ++ [pool.next]
  rw [hreleased]

/-- **Behind the loop** the same name is copied and the same metadata set, or both stop with the
same error. -/
theorem agrees_publishMetadata (index : UInt32) (policy : Bytes × List ConfigVarListEntry)
    (size : UInt16) (pool : Pool) (published : List Published) {pool' : Pool}
    (hreleased : pool'.released = pool.released)
    (hfilled : cs.KeepsToRoom →
      pool'.live pool.next = some policy.1 ∧ size.toNat = policy.1.length) :
    Agrees cs pool published
      (publishMetadata T (cs.inPool setConfigPolicy) index ⟨some pool.next, size, pool', published⟩)
      (if T.profileFlavorNameLength ≤ (profileFlavorName T index).length then
        createPolicyExit efiBufferTooSmall true
      else if efiError cs.setMetadataPolicy then createPolicyExit cs.setMetadataPolicy true
      else
        ⟨cs.setMetadataPolicy, some policy, some ⟨index, profileFlavorName T index⟩, 0⟩) := by
  unfold publishMetadata
  rw [ConfigServices.inPool_setMetadataPolicy]
  by_cases hlong : T.profileFlavorNameLength ≤ (profileFlavorName T index).length
  · rw [if_pos hlong, if_pos hlong]
    exact agrees_exit_allocated cs efiError_bufferTooSmall size pool published hreleased
  rw [if_neg hlong, if_neg hlong]
  by_cases hset : efiError cs.setMetadataPolicy = true
  · rw [if_pos hset, if_pos hset]
    exact agrees_exit_allocated cs hset size pool published hreleased
  · rw [if_neg hset, if_neg hset, createPolicyExitInPool, if_neg hset]
    refine ⟨rfl, rfl, ?_, ?_⟩
    · show pool'.released = pool.released ++ []
      rw [hreleased, List.append_nil]
    · rintro hroom _ _ ⟨⟩
      exact ⟨pool.next, rfl, hfilled hroom⟩

/-- **CreateConfPolicy in a pool refines `createConfPolicy`.** -/
theorem createConfPolicyInPool_refines (memory : Memory) (cache : Caches)
    (unicodeName : List UInt16) (size : UInt16) (pool : Pool) (published : List Published) :
    Agrees cs pool published
      (createConfPolicyInPool T (cs.inPool setConfigPolicy) memory cache unicodeName
        ⟨none, size, pool, published⟩)
      (createConfPolicy T cs cache unicodeName) := by
  unfold createConfPolicyInPool createConfPolicy
  rw [ConfigServices.round_inPool, ConfigServices.inPool_allocated]
  cases neededSize cs T.gKnobData 0 with
  | none => exact agrees_exit cs efiError_unsupported size pool published
  | some needed =>
      dsimp only
      by_cases hlarge : 2 ^ 16 ≤ needed
      · rw [if_pos hlarge, if_pos hlarge]
        exact agrees_exit cs efiError_unsupported _ pool published
      rw [if_neg hlarge, if_neg hlarge]
      by_cases halloc : (!cs.allocated) = true
      · rw [if_pos halloc, if_pos halloc]
        exact agrees_exit cs efiError_outOfResources _ pool published
      rw [if_neg halloc, if_neg halloc]
      obtain ⟨hpopulate, hoffset⟩ := fill_refines cs setConfigPolicy needed T.gKnobData 0
        (startFilling needed memory (selectProfile T cs cache).1 unicodeName) rfl
      have hstart : (startFilling needed memory (selectProfile T cs cache).1
          unicodeName).populating = ⟨(selectProfile T cs cache).1, unicodeName, [], []⟩ := rfl
      rw [hstart] at hpopulate
      rw [hpopulate]
      cases hfill : fill (cs.inPool setConfigPolicy) needed 0 T.gKnobData
          (startFilling needed memory (selectProfile T cs cache).1 unicodeName) with
      | error status =>
          rw [hfill] at hpopulate
          exact agrees_exit_allocated cs (populate_error _ hpopulate) _ pool published (by rfl)
      | ok filled =>
          simp only [Except.map, ← hoffset filled hfill]
          by_cases hend : filled.offset.toNat ≠ needed
          · rw [if_pos hend, if_pos hend]
            exact agrees_exit_allocated cs efiError_aborted _ pool published (by rfl)
          rw [if_neg hend, if_neg hend]
          have hneeded : filled.offset.toNat = needed := not_not.mp hend
          refine agrees_publishMetadata cs setConfigPolicy _ _ _ pool published (by rfl) ?_
          intro hroom
          have hfilled := fill_filled setConfigPolicy hroom (Nat.lt_of_not_le hlarge) T.gKnobData
            (startFilling_filled memory (selectProfile T cs cache).1 unicodeName needed) hfill
          -- Offset has come to the end, so that all of the buffer is policy
          have hbuffer : filled.buffer = filled.populating.policy := by
            rw [Filling.populating, ← hfilled.written, hneeded, List.take_of_length_le]
            exact Nat.le_of_eq hfilled.length
          refine ⟨?_, ?_⟩
          · show (Pool.fill _ filled.buffer _).live _ = some filled.populating.policy
            rw [← hbuffer]
            exact Pool.fill_live ..
          · show (UInt16.ofNat needed).toNat = filled.populating.policy.length
            rw [← hbuffer, hfilled.length, UInt16.toNat_ofNat']
            exact Nat.mod_eq_of_lt (Nat.lt_of_not_le hlarge)

/-- A policy is made together with its metadata, and only if SetPolicy accepts that. -/
theorem createConfPolicy_published {cache : Caches} {unicodeName : List UInt16} {policy : Bytes}
    {entries : List ConfigVarListEntry}
    (h : (createConfPolicy T cs cache unicodeName).policy = some (policy, entries)) :
    efiError (createConfPolicy T cs cache unicodeName).status = false ∧
      ∃ metadata, (createConfPolicy T cs cache unicodeName).metadata = some metadata := by
  unfold createConfPolicy at h ⊢
  cases hneeded : neededSize cs T.gKnobData 0 with
  | none =>
      rw [hneeded] at h
      cases h
  | some needed =>
      rw [hneeded] at h
      dsimp only at h ⊢
      cases hpop : populate cs needed 0 T.gKnobData
          ⟨(selectProfile T cs cache).1, unicodeName, [], []⟩ with
      | error status =>
          rw [hpop] at h
          dsimp only at h
          split_ifs at h <;> cases h
      | ok st =>
          rw [hpop] at h
          dsimp only at h ⊢
          split_ifs at h ⊢ with hsize halloc hoffset hgeneric hname hmeta hname hmeta
          all_goals first
            | exact ⟨Bool.eq_false_of_not_eq_true hmeta, _, rfl⟩
            | cases h

/-- **What the entry point publishes**: the metadata, and the policy as it was in the buffer. -/
theorem oemConfigPolicyCreatorPeiEntry_publishes (hroom : cs.KeepsToRoom)
    (hset : efiError setConfigPolicy = false) (memory : Memory) {cache : Caches}
    {unicodeName : List UInt16} (pool : Pool) {policy : Bytes} {entries : List ConfigVarListEntry}
    (hpolicy : (createConfPolicy T cs cache unicodeName).policy = some (policy, entries))
    (hne : policy ≠ []) :
    ∃ metadata, (createConfPolicy T cs cache unicodeName).metadata = some metadata ∧
      (oemConfigPolicyCreatorPeiEntry T (cs.inPool setConfigPolicy) memory cache unicodeName
        pool).2.published = [.metadata metadata, .config policy] := by
  obtain ⟨hok, metadata, hmeta⟩ := createConfPolicy_published cs hpolicy
  have hagrees := createConfPolicyInPool_refines (T := T) cs setConfigPolicy memory cache
    unicodeName 0 pool []
  obtain ⟨buffer, hbuffer, hlive, hsize⟩ := hagrees.policy hroom policy entries hpolicy
  have hstatus := hagrees.status
  have hpublished := hagrees.published
  rw [hmeta] at hpublished
  refine ⟨metadata, hmeta, ?_⟩
  unfold oemConfigPolicyCreatorPeiEntry
  generalize createConfPolicyInPool T (cs.inPool setConfigPolicy) memory cache unicodeName
    ⟨none, 0, pool, []⟩ = r at hbuffer hlive hsize hstatus hpublished ⊢
  obtain ⟨status, st⟩ := r
  dsimp only at hbuffer hlive hsize hstatus hpublished ⊢
  have hnonempty : st.confPolicySize ≠ 0 := by
    intro hzero
    rw [hzero] at hsize
    exact hne (List.eq_nil_of_length_eq_zero hsize.symm)
  have hgoes : ¬ (efiError status = true ∨ st.confPolicy = none ∨ st.confPolicySize = 0) := by
    rw [hstatus, hok, hbuffer]
    simp [hnonempty]
  have haccepted : ¬ efiError (cs.inPool setConfigPolicy).setConfigPolicy = true :=
    ne_true_of_eq_false hset
  rw [if_neg hgoes, if_neg haccepted]
  simp only [hbuffer, hpublished, Option.bind_some, hlive, Option.getD_some, hsize,
    List.take_length]
  rfl

end Refinement

/-! ## The sizes -/

section Sizes

variable {sv : ConfigServices}

/-- The size of the entry of a knob, as the first loop computes it: nothing when the multiplication
overflows or GetVarListSize fails. -/
def knobSize (sv : ConfigServices) (d : KnobData) : Option Nat :=
  (safeUint32 (d.nameSize % 2 ^ 32 * 2)).bind fun unicodeNameSize =>
    let size := sv.getVarListSize unicodeNameSize d.valueSize
    if efiError size.1 then none else some size.2.toNat

/-- One round of the first loop. -/
theorem neededSize_cons (d : KnobData) (ds : List KnobData) (needed : Nat) :
    neededSize sv (d :: ds) needed =
      (knobSize sv d).bind fun size =>
        (safeUint32 (needed + size)).bind fun needed => neededSize sv ds needed := by
  rw [neededSize, knobSize]
  cases safeUint32 (d.nameSize % 2 ^ 32 * 2) with
  | none => rfl
  | some unicodeNameSize =>
      simp only [Option.bind_some]
      by_cases herror : efiError (sv.getVarListSize unicodeNameSize d.valueSize).1 = true
      · rw [if_pos herror, if_pos herror]
        rfl
      · rw [if_neg herror, if_neg herror, Option.bind_some]
        cases safeUint32 (needed + (sv.getVarListSize unicodeNameSize d.valueSize).2.toNat) <;> rfl

/-- NeededSize is the sum of the sizes. -/
theorem neededSize_some (ds : List KnobData) :
    ∀ {needed n : Nat}, neededSize sv ds needed = some n →
      ∃ sizes : List Nat, ds.map (knobSize sv) = sizes.map some ∧ n = needed + sizes.sum := by
  induction ds with
  | nil =>
      intro needed n h
      cases h
      exact ⟨[], rfl, rfl⟩
  | cons d ds ih =>
      intro needed n h
      rw [neededSize_cons] at h
      obtain ⟨size, hsize, h⟩ := Option.bind_eq_some_iff.mp h
      obtain ⟨needed', hadd, h⟩ := Option.bind_eq_some_iff.mp h
      obtain ⟨sizes, hsizes, rfl⟩ := ih h
      have hsum : needed' = needed + size := by
        unfold safeUint32 at hadd
        split_ifs at hadd
        exact (Option.some.inj hadd).symm
      refine ⟨size :: sizes, ?_, ?_⟩
      · rw [List.map_cons, hsize, hsizes, List.map_cons]
      · rw [hsum, List.sum_cons, Nat.add_assoc]

/-- Sizes that fit are added up without an overflow. -/
theorem neededSize_of_sizes (ds : List KnobData) :
    ∀ {needed : Nat} {sizes : List Nat}, ds.map (knobSize sv) = sizes.map some →
      needed + sizes.sum < 2 ^ 32 → neededSize sv ds needed = some (needed + sizes.sum) := by
  induction ds with
  | nil =>
      intro needed sizes hsizes _
      cases sizes with
      | nil => rfl
      | cons size sizes => cases hsizes
  | cons d ds ih =>
      intro needed sizes hsizes hfit
      cases sizes with
      | nil => cases hsizes
      | cons size sizes =>
          obtain ⟨hsize, hsizes⟩ := List.cons.inj hsizes
          rw [List.sum_cons] at hfit
          have hadd : safeUint32 (needed + size) = some (needed + size) := by
            rw [safeUint32, if_pos (by omega)]
          rw [neededSize_cons, hsize, Option.bind_some, hadd, Option.bind_some,
            ih hsizes (by omega), List.sum_cons, Nat.add_assoc]

end Sizes

variable {T : ConfigTables} {sv : PolicyServices}

/-- **The sizes fit**: there is one for each knob, and what they add up to is a `UINT16`. -/
structure SizesFit (T : ConfigTables) (sv : PolicyServices) (sizes : List Nat) : Prop where
  computed : T.gKnobData.map (knobSize (sv.round 0)) = sizes.map some
  sum_lt : sizes.sum < 2 ^ 16

/-- NeededSize, when the sizes fit. -/
theorem SizesFit.neededSize {sizes : List Nat} (h : SizesFit T sv sizes) :
    neededSize (sv.round 0) T.gKnobData 0 = some sizes.sum := by
  have hsum := h.sum_lt
  rw [neededSize_of_sizes T.gKnobData h.computed (by omega), Nat.zero_add]

/-- **Without a size for every knob, or beyond 64k**, nothing is allocated or published. -/
theorem createConfPolicyInPool_unfit (hunfit : ¬ ∃ sizes, SizesFit T sv sizes) (memory : Memory)
    (cache : Caches) (unicodeName : List UInt16) (size : UInt16) (pool : Pool)
    (published : List Published) :
    createConfPolicyInPool T sv memory cache unicodeName ⟨none, size, pool, published⟩ =
      (efiUnsupported, ⟨none, 0, pool, published⟩) := by
  unfold createConfPolicyInPool
  cases hneeded : neededSize (sv.round 0) T.gKnobData 0 with
  | none => simp only [createPolicyExitInPool, efiError_unsupported, if_true]
  | some needed =>
      obtain ⟨sizes, hsizes, rfl⟩ := neededSize_some T.gKnobData hneeded
      have hlarge : 2 ^ 16 ≤ 0 + sizes.sum := by
        by_contra hsmall
        exact hunfit ⟨sizes, hsizes, by omega⟩
      simp only [hlarge, if_true, createPolicyExitInPool, efiError_unsupported]

/-! ## The loops agree -/

/-- **ConvertVariableEntryToVariableList** writes as much as GetVarListSize says for the name with
its terminator and for the data, when that much room is offered. -/
def Converts (sv : PolicyServices) : Prop :=
  ∀ (i : Nat) (entry : ConfigVarListEntry) (room : Nat),
    let size := sv.getVarListSize (2 * (entry.name.length + 1)) entry.dataSize.toNat
    let list := sv.convertVariableEntryToVariableList i entry room
    efiError size.1 = false → size.2.toNat ≤ room →
      efiError list.1 = false ∧ list.2.length = size.2.toNat

/-- The entry names the knob. -/
structure EntryOf (d : KnobData) (e : ConfigVarListEntry) : Prop where
  name : e.name = d.name.map fun c => UInt16.ofNat c.toNat
  guid : e.guid = d.vendorNamespace
  dataSize : e.dataSize.toNat = d.valueSize

/-- A knob of the generated table: NameSize counts the terminator, and both sizes are `UINT32`s. -/
structure KnobData.Generated (d : KnobData) : Prop where
  nameSize : d.nameSize = d.name.length + 1
  nameSize_lt : d.nameSize < 2 ^ 32
  valueSize_lt : d.valueSize < 2 ^ 32

/-- The size computed for a knob is the one of its entry. -/
theorem knobSize_entry {d : KnobData} (hd : d.Generated) {size : Nat}
    (hsize : knobSize (sv.round 0) d = some size) {e : ConfigVarListEntry} (he : EntryOf d e) :
    let s := sv.getVarListSize (2 * (e.name.length + 1)) e.dataSize.toNat
    efiError s.1 = false ∧ s.2.toNat = size := by
  obtain ⟨unicodeNameSize, hname, hsize⟩ := Option.bind_eq_some_iff.mp hsize
  have hlength : 2 * (e.name.length + 1) = unicodeNameSize := by
    unfold safeUint32 at hname
    split_ifs at hname
    have hmod : d.nameSize % 2 ^ 32 = d.nameSize := Nat.mod_eq_of_lt hd.nameSize_lt
    rw [Option.some.injEq, hmod, hd.nameSize] at hname
    rw [he.name, List.length_map, ← hname, Nat.mul_comm]
  rw [hlength, he.dataSize]
  have hcomputed : (if efiError (sv.getVarListSize unicodeNameSize d.valueSize).1 then none
      else some (sv.getVarListSize unicodeNameSize d.valueSize).2.toNat) = some size := hsize
  split_ifs at hcomputed with herror
  exact ⟨Bool.eq_false_of_not_eq_true herror, Option.some.inj hcomputed⟩

section Loop

variable (hconverts : Converts sv)
  (hoverrides : ∀ i name, Tolerated (sv.getConfigKnobOverride i name).1)
include hconverts hoverrides

/-- **One round** writes one entry of the size predicted at Offset, and moves Offset behind it. -/
theorem fillKnob_fits {needed : Nat} (hneeded : needed < 2 ^ 16) {d : KnobData} (hd : d.Generated)
    {size : Nat} (hsize : knobSize (sv.round 0) d = some size) (i : Nat) (st : Filling)
    (hroom : st.offset.toNat + size ≤ needed) :
    ∃ st' e b, fillKnob sv needed i d st = .ok st' ∧ EntryOf d e ∧ b.length = size ∧
      (∃ room, b = (sv.convertVariableEntryToVariableList i e room).2) ∧
      st'.buffer = splice st.offset.toNat b st.buffer ∧
      st'.offset.toNat = st.offset.toNat + size ∧
      st'.written = st.written ++ [⟨st.offset.toNat, b⟩] ∧ st'.entries = st.entries ++ [e] := by
  have hname : asciiStrToUnicodeStrS d.name st.unicodeName d.nameSize =
      d.name.map fun c => UInt16.ofNat c.toNat := by
    rw [asciiStrToUnicodeStrS, if_pos (by rw [hd.nameSize]; omega)]
  have hgoes := hoverrides i (d.name.map fun c => UInt16.ofNat c.toNat)
  unfold Tolerated at hgoes
  -- the entry of this round, and the room it is offered
  let cache := readStored i d (sv.getConfigKnobOverride i
    (d.name.map fun c => UInt16.ofNat c.toNat)) st.cache
  let e : ConfigVarListEntry := ⟨d.name.map fun c => UInt16.ofNat c.toNat, d.vendorNamespace,
    variableAttributeNvBsRt, cache i, UInt32.ofNat d.valueSize⟩
  have he : EntryOf d e := ⟨rfl, rfl, by
    show (UInt32.ofNat d.valueSize).toNat = d.valueSize
    rw [UInt32.toNat_ofNat', Nat.mod_eq_of_lt hd.valueSize_lt]⟩
  have hleft : (2 ^ 64 + needed - st.offset.toNat) % 2 ^ 64 = needed - st.offset.toNat := by
    omega
  obtain ⟨hok, hentry⟩ := knobSize_entry hd hsize he
  obtain ⟨hwritten, hlength⟩ := hconverts i e (needed - st.offset.toNat) hok (by omega)
  rw [hentry] at hlength
  let b := (sv.convertVariableEntryToVariableList i e (needed - st.offset.toNat)).2
  refine ⟨⟨cache, e.name, splice st.offset.toNat b st.buffer, st.offset + UInt32.ofNat b.length,
    st.written ++ [⟨st.offset.toNat, b⟩], st.entries ++ [e]⟩, e, b, ?_, he, hlength, ⟨_, rfl⟩, rfl,
    ?_, rfl, rfl⟩
  · unfold fillKnob
    simp only [hname, hgoes, if_false, hleft]
    exact if_neg (ne_true_of_eq_false hwritten)
  · show (st.offset + UInt32.ofNat b.length).toNat = st.offset.toNat + size
    rw [UInt32.toNat_add, UInt32.toNat_ofNat', hlength]
    omega

/-- **The whole loop**, by induction on the knobs still to come: their entries are written end to
end from Offset on. -/
theorem fill_fits {needed : Nat} (hneeded : needed < 2 ^ 16) (ds : List KnobData) :
    (∀ d ∈ ds, d.Generated) → ∀ {sizes : List Nat} {i : Nat} {st : Filling},
      ds.map (knobSize (sv.round 0)) = sizes.map some →
      st.offset.toNat + sizes.sum ≤ needed → st.buffer.length = needed →
      ∃ st' blocks es, fill sv needed i ds st = .ok st' ∧ blocks.map List.length = sizes ∧
        st'.buffer = splice st.offset.toNat blocks.flatten st.buffer ∧
        st'.offset.toNat = st.offset.toNat + sizes.sum ∧
        st'.written = st.written ++ endToEnd st.offset.toNat blocks ∧
        st'.entries = st.entries ++ es ∧
        ∀ j d, ds[j]? = some d → ∃ e b room, es[j]? = some e ∧ blocks[j]? = some b ∧ EntryOf d e ∧
          b = (sv.convertVariableEntryToVariableList (i + j) e room).2 := by
  induction ds with
  | nil =>
      intro _ sizes i st hsizes hroom hbuffer
      cases sizes with
      | cons size sizes => cases hsizes
      | nil =>
          refine ⟨st, [], [], rfl, rfl, ?_, rfl, (List.append_nil _).symm, (List.append_nil _).symm,
            fun j d hj => nomatch hj⟩
          rw [List.flatten_nil, splice, List.append_nil, List.length_nil, Nat.add_zero,
            List.take_append_drop]
  | cons d ds ih =>
      intro hgenerated sizes i st hsizes hroom hbuffer
      cases sizes with
      | nil => cases hsizes
      | cons size sizes =>
          obtain ⟨hsize, hsizes⟩ := List.cons.inj hsizes
          rw [List.sum_cons] at hroom
          obtain ⟨st₁, e, b, hstep, he, hb, ⟨room, hconv⟩, hbuffer₁, hoffset₁, hwritten₁,
              hentries₁⟩ :=
            fillKnob_fits hconverts hoverrides hneeded (hgenerated d List.mem_cons_self) hsize i st
              (by omega)
          have hlength₁ : st₁.buffer.length = needed := by
            rw [hbuffer₁, length_splice (by omega), hbuffer]
          obtain ⟨st', blocks, es, hrun, hlengths, hbuffer', hoffset', hwritten', hentries',
              hall⟩ :=
            ih (fun d' hd' => hgenerated d' (List.mem_cons_of_mem _ hd')) hsizes (i := i + 1)
              (by omega) hlength₁
          refine ⟨st', b :: blocks, e :: es, ?_, ?_, ?_, ?_, ?_, ?_, ?_⟩
          · rw [fill, hstep]
            exact hrun
          · rw [List.map_cons, hb, hlengths]
          · -- two writes side by side are one
            rw [hbuffer', hoffset₁, hbuffer₁, ← hb, splice_splice_adjacent (by omega),
              List.flatten_cons]
          · rw [hoffset', hoffset₁, List.sum_cons, Nat.add_assoc]
          · rw [hwritten', hwritten₁, hoffset₁, ← hb, List.append_assoc]
            rfl
          · rw [hentries', hentries₁, List.append_assoc]
            rfl
          · intro j d' hj
            cases j with
            | zero =>
                cases hj
                exact ⟨e, b, room, rfl, rfl, he, hconv⟩
            | succ j =>
                obtain ⟨e', b', room', hes, hbs, he', hb'⟩ := hall j d' hj
                have hij : i + 1 + j = i + (j + 1) := by omega
                exact ⟨e', b', room', hes, hbs, he', hij ▸ hb'⟩

end Loop

/-! ## The metadata -/

/-- The profile that is reported: the one asked for when it is in the table and all its overrides
are of knobs in order, else the generic one. -/
def activeProfileIndex (T : ConfigTables) (sv : ConfigServices) : UInt32 :=
  let index := requestedProfile T sv
  if index.toNat < T.gProfileData.length ∧
      ∀ o ∈ T.gProfileData.getD index.toNat [], knobInOrder T o.knob = true then index
  else T.genericProfileIndex

/-- ApplyProfileOverrides fails when an override is out of order. -/
theorem applyOverrides_error {rest : List KnobOverride}
    (h : ¬ ∀ o ∈ rest, knobInOrder T o.knob = true) :
    ∀ (applied : List KnobOverride) (cache : Caches),
      (applyOverrides T applied rest cache).1 = efiInvalidParameter := by
  induction rest with
  | nil => exact absurd (fun o ho => nomatch ho) h
  | cons o rest ih =>
      intro applied cache
      by_cases ho : knobInOrder T o.knob = true
      · have hrest : ¬ ∀ o' ∈ rest, knobInOrder T o'.knob = true := fun hall =>
          h fun o' ho' => (List.mem_cons.mp ho').elim (fun e => e ▸ ho) (hall o')
        rw [applyOverrides, if_pos ho]
        exact ih hrest _ _
      · rw [applyOverrides, if_neg ho]

theorem selectProfile_index (sv : ConfigServices) (cache : Caches) :
    (selectProfile T sv cache).2 = activeProfileIndex T sv := by
  unfold selectProfile activeProfileIndex
  generalize requestedProfile T sv = index
  dsimp only
  by_cases hlisted : index.toNat < T.gProfileData.length
  · rw [if_pos hlisted]
    simp only [hlisted, true_and, applyProfileOverrides]
    by_cases horder : ∀ o ∈ T.gProfileData.getD index.toNat [], knobInOrder T o.knob = true
    · simp only [applyOverrides_of_inOrder horder, efiError_success, Bool.false_eq_true, if_false]
      exact (if_pos horder).symm
    · simp only [applyOverrides_error horder, efiError_invalidParameter, if_true]
      exact (if_neg horder).symm
  · simp only [hlisted, if_false, false_and]

/-- The metadata steps succeed: the flavor name is copied, and SetPolicy accepts. -/
structure MetadataSucceeds (T : ConfigTables) (sv : PolicyServices) : Prop where
  flavorName : (profileFlavorName T (activeProfileIndex T (sv.round 0))).length <
    T.profileFlavorNameLength
  setPolicy : efiError sv.setMetadataPolicy = false

/-- The metadata is published, or CreatePolicyExit is reached with an error. -/
theorem publishMetadata_cases (T : ConfigTables) (sv : PolicyServices) (st : Creator) :
    (MetadataSucceeds T sv ∧ publishMetadata T sv (activeProfileIndex T (sv.round 0)) st =
      (sv.setMetadataPolicy, { st with
        published := st.published ++ [.metadata ⟨activeProfileIndex T (sv.round 0),
          profileFlavorName T (activeProfileIndex T (sv.round 0))⟩] })) ∨
    (¬ MetadataSucceeds T sv ∧ ∃ status, efiError status = true ∧
      publishMetadata T sv (activeProfileIndex T (sv.round 0)) st =
        createPolicyExitInPool status st) := by
  unfold publishMetadata
  by_cases hlong : T.profileFlavorNameLength ≤
      (profileFlavorName T (activeProfileIndex T (sv.round 0))).length
  · rw [if_pos hlong]
    exact Or.inr ⟨fun h => absurd h.flavorName (Nat.not_lt.mpr hlong), _,
      efiError_bufferTooSmall, rfl⟩
  rw [if_neg hlong]
  by_cases hset : efiError sv.setMetadataPolicy = true
  · rw [if_pos hset]
    exact Or.inr ⟨fun h => absurd hset (ne_true_of_eq_false h.setPolicy), _, hset, rfl⟩
  · rw [if_neg hset, createPolicyExitInPool, if_neg hset]
    exact Or.inl ⟨⟨Nat.lt_of_not_le hlong, Bool.eq_false_of_not_eq_true hset⟩, rfl⟩

/-- What CreateConfPolicy does once its sizes fit and its buffer is allocated. -/
theorem createConfPolicyInPool_allocated {sizes : List Nat} (hfit : SizesFit T sv sizes)
    (halloc : sv.allocated = true) (memory : Memory) (cache : Caches) (unicodeName : List UInt16)
    (size : UInt16) (pool : Pool) (published : List Published) :
    createConfPolicyInPool T sv memory cache unicodeName ⟨none, size, pool, published⟩ =
      let st : Creator := ⟨some pool.next, UInt16.ofNat sizes.sum,
        (pool.allocatePool (copyMem sizes.sum memory)).2, published⟩
      match fill sv sizes.sum 0 T.gKnobData
          (startFilling sizes.sum memory (selectProfile T (sv.round 0) cache).1 unicodeName) with
      | .error status => createPolicyExitInPool status st
      | .ok filled =>
          let st := { st with pool := st.pool.fill pool.next filled.buffer }
          if filled.offset.toNat ≠ sizes.sum then createPolicyExitInPool efiAborted st
          else publishMetadata T sv (activeProfileIndex T (sv.round 0)) st := by
  have hsmall : ¬ 2 ^ 16 ≤ sizes.sum := Nat.not_le.mpr hfit.sum_lt
  rw [← selectProfile_index (sv.round 0) cache]
  unfold createConfPolicyInPool
  rw [hfit.neededSize]
  simp only [hsmall, if_false, halloc, Bool.not_true, Bool.false_eq_true]
  rfl

/-! ## The policy -/

/-- **The filled buffer is the concatenation of the entries**, of the given sizes: Offset has come
to its end, every piece lies where the sizes before it say and was written by its knob's round, and
no byte of the buffer belongs to none or to two of them. -/
structure IsConcatenation (T : ConfigTables) (sv : PolicyServices) (sizes : List Nat)
    (filled : Filling) : Prop where
  offset : filled.offset.toNat = sizes.sum
  length : filled.buffer.length = sizes.sum
  piece : ∀ i size, sizes[i]? = some size → ∃ s, filled.written[i]? = some s ∧
    s.offset = (sizes.take i).sum ∧ s.bytes.length = size ∧
    slice s.offset size filled.buffer = s.bytes
  entry : ∀ i d, T.gKnobData[i]? = some d → ∃ e s room, filled.entries[i]? = some e ∧
    filled.written[i]? = some s ∧ EntryOf d e ∧
    s.bytes = (sv.convertVariableEntryToVariableList i e room).2
  covered : ∀ p < sizes.sum, ∃! i : Nat, ∃ s : Piece, filled.written[i]? = some s ∧ s.Covers p
  concatenated : filled.buffer = filled.written.flatMap Piece.bytes

/-- The loop fills the buffer. -/
theorem fill_isConcatenation (hconverts : Converts sv)
    (hoverrides : ∀ i name, Tolerated (sv.getConfigKnobOverride i name).1)
    (hgenerated : ∀ d ∈ T.gKnobData, d.Generated) {sizes : List Nat} (hfit : SizesFit T sv sizes)
    (memory : Memory) (cache : Caches) (unicodeName : List UInt16) :
    ∃ filled, fill sv sizes.sum 0 T.gKnobData (startFilling sizes.sum memory cache unicodeName) =
        .ok filled ∧ IsConcatenation T sv sizes filled := by
  have hnew : (startFilling sizes.sum memory cache unicodeName).buffer.length = sizes.sum := by
    simp [startFilling, copyMem]
  have hroom : (startFilling sizes.sum memory cache unicodeName).offset.toNat + sizes.sum ≤
      sizes.sum := by
    show 0 + sizes.sum ≤ sizes.sum
    omega
  obtain ⟨filled, blocks, es, hrun, hlengths, hbuffer, hoffset, hwritten, hentries, hall⟩ :=
    fill_fits hconverts hoverrides hfit.sum_lt T.gKnobData hgenerated hfit.computed hroom hnew
  have hstart : (startFilling sizes.sum memory cache unicodeName).offset.toNat = 0 := rfl
  rw [hstart] at hbuffer hoffset hwritten
  have htotal : totalLength blocks = sizes.sum := by rw [totalLength, hlengths]
  have hwritten : filled.written = endToEnd 0 blocks := hwritten
  have hbuffer : filled.buffer = blocks.flatten := by
    rw [hbuffer, splice, List.take_zero, List.nil_append, Nat.zero_add,
      List.drop_eq_nil_of_le (by rw [hnew, length_flatten_eq, htotal]), List.append_nil]
  refine ⟨filled, hrun, ?_, ?_, ?_, ?_, ?_, ?_⟩
  · rw [hoffset, Nat.zero_add]
  · rw [hbuffer, length_flatten_eq, htotal]
  · intro i size hi
    have hsize := hi
    rw [← hlengths, List.getElem?_map] at hsize
    obtain ⟨b, hb, rfl⟩ := Option.map_eq_some_iff.mp hsize
    have hpiece : (endToEnd 0 blocks)[i]? = some ⟨0 + totalLength (blocks.take i), b⟩ := by
      rw [getElem?_endToEnd, hb]
      rfl
    refine ⟨_, hwritten ▸ hpiece, ?_, rfl, ?_⟩
    · show 0 + totalLength (blocks.take i) = (sizes.take i).sum
      rw [Nat.zero_add, totalLength, List.map_take, hlengths]
    · rw [hbuffer]
      exact slice_endToEnd hpiece
  · intro i d hi
    obtain ⟨e, b, room, he, hb, hentry, hconv⟩ := hall i d hi
    refine ⟨e, ⟨0 + totalLength (blocks.take i), b⟩, room, hentries ▸ he, ?_, hentry, ?_⟩
    · rw [hwritten, getElem?_endToEnd, hb]
      rfl
    · rw [Nat.zero_add] at hconv
      exact hconv
  · intro p hp
    rw [hwritten]
    exact existsUnique_covers blocks 0 p (Nat.zero_le p) (by rw [htotal, Nat.zero_add]; exact hp)
  · rw [hbuffer, hwritten, flatMap_endToEnd]

/-- **The config policy is exactly the concatenation of its entries.** Over every table and services
that do as they should: when the sizes do not fit, the request is unsupported, the size is cleared
and nothing is published; when they do and the buffer is allocated, the loop fills it, Offset ends
at NeededSize, and with the metadata published the buffer and its size are handed out. -/
theorem policy_is_concatenation (T : ConfigTables) (sv : PolicyServices) (confVarNameLen : UInt32)
    (hnames : ∀ d ∈ T.gKnobData, d.nameSize = d.name.length + 1)
    (hvalues : ∀ d ∈ T.gKnobData, d.valueSize < 2 ^ 32)
    (hoverrides : ∀ i name, Tolerated (sv.getConfigKnobOverride i name).1)
    (hconverts : Converts sv) (memory : Memory) (cache : Caches) (unicodeName : List UInt16)
    (size : UInt16) (pool : Pool) (published : List Published) :
    let r := createConfPolicyInPool T sv memory cache unicodeName ⟨none, size, pool, published⟩
    ((¬ ∃ sizes, SizesFit T sv sizes) →
        r.1 = efiUnsupported ∧ r.2.confPolicySize = 0 ∧ r.2.published = published) ∧
      ∀ sizes, SizesFit T sv sizes →
        (∀ d ∈ T.gKnobData, d.nameSize ≤ confVarNameLen.toNat) → sv.allocated = true →
        ∃ filled, fill sv sizes.sum 0 T.gKnobData (startFilling sizes.sum memory
            (selectProfile T (sv.round 0) cache).1 unicodeName) = .ok filled ∧
          IsConcatenation T sv sizes filled ∧
          (MetadataSucceeds T sv → efiError r.1 = false ∧ r.2.confPolicySize.toNat = sizes.sum ∧
            r.2.confPolicy = some pool.next ∧ r.2.pool.live pool.next = some filled.buffer) := by
  intro r
  constructor
  · intro hunfit
    have hr : r = _ := createConfPolicyInPool_unfit hunfit memory cache unicodeName size pool
      published
    rw [hr]
    exact ⟨rfl, rfl, rfl⟩
  · intro sizes hfit hshort halloc
    have hgenerated : ∀ d ∈ T.gKnobData, d.Generated := fun d hd =>
      ⟨hnames d hd, lt_of_le_of_lt (hshort d hd) confVarNameLen.toNat_lt, hvalues d hd⟩
    obtain ⟨filled, hrun, hconcat⟩ := fill_isConcatenation hconverts hoverrides hgenerated hfit
      memory (selectProfile T (sv.round 0) cache).1 unicodeName
    refine ⟨filled, hrun, hconcat, fun hmeta => ?_⟩
    have hr : r = _ := createConfPolicyInPool_allocated hfit halloc memory cache unicodeName size
      pool published
    simp only [hrun, hconcat.offset, ne_eq, not_true_eq_false, if_false] at hr
    obtain ⟨-, hpublish⟩ | ⟨hnot, -⟩ := publishMetadata_cases T sv
      ⟨some pool.next, UInt16.ofNat sizes.sum,
        (pool.allocatePool (copyMem sizes.sum memory)).2.fill pool.next filled.buffer, published⟩
    · rw [hr, hpublish]
      refine ⟨hmeta.setPolicy, ?_, rfl, Pool.fill_live ..⟩
      show (UInt16.ofNat sizes.sum).toNat = sizes.sum
      rw [UInt16.toNat_ofNat', Nat.mod_eq_of_lt hfit.sum_lt]
    · exact absurd hmeta hnot

/-! ## One serialiser -/

/-- The services of `serializer`, with a buffer to write to. -/
def serializing : PolicyServices := serializer.inPool efiSuccess

theorem serializing_converts : Converts serializing := by
  intro i e room size list hsize hroom
  have hlength := length_entryBytes e
  by_cases hfit : 32 + 2 * (e.name.length + 1) + e.dataSize.toNat < 2 ^ 32
  · have hpredicted : size = (efiSuccess,
        UInt32.ofNat (32 + 2 * (e.name.length + 1) + e.dataSize.toNat)) := if_pos hfit
    have hnat : size.2.toNat = (entryBytes e).length := by
      rw [hpredicted, hlength]
      show (UInt32.ofNat _).toNat = _
      rw [UInt32.toNat_ofNat', Nat.mod_eq_of_lt hfit]
    have hlist : list = (efiSuccess, entryBytes e) := if_neg (by omega)
    rw [hlist, hnat]
    exact ⟨efiError_success, rfl⟩
  · have hfailed : size = (efiBufferTooSmall, 0) := if_neg hfit
    rw [hfailed] at hsize
    exact absurd hsize (by decide)

theorem serializing_overrides (i : Nat) (name : List UInt16) :
    Tolerated (serializing.getConfigKnobOverride i name).1 := by
  by_cases hi : i = 0
  · simp only [serializing, serializer, ConfigServices.inPool, hi, if_true]
    exact tolerated_success
  · simp only [serializing, serializer, ConfigServices.inPool, hi, if_false]
    exact tolerated_notFound

theorem policy_is_concatenation_two_knobs :
    let r := createConfPolicyInPool twoKnobs serializing (fun _ => 0) twoKnobsCaches []
      ⟨none, 0, ⟨fun _ => none, [], 0⟩, []⟩
    efiError r.1 = false ∧ r.2.confPolicySize.toNat = 74 := by
  have hnames : ∀ d ∈ twoKnobs.gKnobData, d.nameSize = d.name.length + 1 ∧
      d.valueSize < 2 ^ 32 ∧ d.nameSize ≤ (64 : UInt32).toNat := by
    intro d hd
    simp only [twoKnobs, List.mem_cons, List.not_mem_nil, or_false] at hd
    rcases hd with rfl | rfl <;> decide
  have hfit : SizesFit twoKnobs serializing [37, 37] := ⟨by decide, by decide⟩
  have hmeta : MetadataSucceeds twoKnobs serializing := ⟨by decide, by decide⟩
  obtain ⟨-, hpolicy⟩ := policy_is_concatenation twoKnobs serializing 64
    (fun d hd => (hnames d hd).1) (fun d hd => (hnames d hd).2.1) serializing_overrides
    serializing_converts (fun _ => 0) twoKnobsCaches [] 0 ⟨fun _ => none, [], 0⟩ []
  obtain ⟨filled, -, -, hdone⟩ := hpolicy [37, 37] hfit (fun d hd => (hnames d hd).2.2) rfl
  exact ⟨(hdone hmeta).1, (hdone hmeta).2.1⟩

end OemPkg.Config
