/-
# OemPkg.FrontPage.FirmwareVersions — the firmware versions on the front page

UpdateFormWithFirmwareVersions asks every instance of the firmware management protocol for its image
descriptors and adds a row for the first of them: two ids of strings that HiiSetString has taken for
the name and for the version. The ids are in two locals that the whole loop shares, and a name or a
version that is NULL is reported but leaves its id as it was. `firmware_rows_own_iff` says when each
row shows the name and the version of its own descriptor.
-/
import OemPkg.FrontPage.FormMap
import OemPkg.Uefi.Status
import Mathlib.Data.List.Forall2
import Mathlib.Data.List.Nodup
import Mathlib.Logic.Function.Basic

namespace OemPkg.FrontPage

open OemPkg.Uefi

/-! ## UpdateFormWithFirmwareVersions -/

/-- A string of 16-bit characters. -/
abbrev Text := List UInt16

/-- EFI_FIRMWARE_IMAGE_DESCRIPTOR: the two strings, which may be NULL. -/
structure FirmwareImageDescriptor where
  imageIdName : Option Text
  versionName : Option Text
  deriving DecidableEq

/-- An instance of the firmware management protocol, and what is answered while it is looked at. -/
structure FmpInstance where
  /-- GetImageInfo without a buffer -/
  imageInfoSize : EfiStatus
  /-- there is memory for the descriptors -/
  allocated : Bool
  /-- GetImageInfo with a buffer: an error, or the descriptors -/
  imageInfo : Except { s : EfiStatus // efiError s = true } (List FirmwareImageDescriptor)
  /-- HiiSetString of the name: the new id, or 0 -/
  nameId : EfiStringId
  /-- HiiSetString of the version: the new id, or 0 -/
  versionId : EfiStringId

/-- The strings of the HII package. -/
abbrev StringPackage := EfiStringId → Option Text

/-- HiiSetString of a new string, when it returns `id`. -/
def hiiSetString (id : EfiStringId) (s : Text) (strings : StringPackage) : StringPackage :=
  if id = 0 then strings else Function.update strings id (some s)

/-- The locals StringId and StringId1, the strings, and the rows: ids of a name and a version. -/
structure FirmwareRun where
  stringId : EfiStringId
  stringId1 : EfiStringId
  strings : StringPackage
  rows : List (EfiStringId × EfiStringId)

/-- One of the two strings of a descriptor, with the local for its id: whether a row is still to be
added, the local, and the strings. -/
def setImageString (s : Option Text) (answer old : EfiStringId) (strings : StringPackage) :
    Bool × EfiStringId × StringPackage :=
  match s with
  -- only a message
  | none => (true, old, strings)
  | some s => (answer != 0, answer, hiiSetString answer s strings)

/-- The row for a descriptor. -/
def addFirmwareRow (d : FirmwareImageDescriptor) (nameId versionId : EfiStringId)
    (st : FirmwareRun) : FirmwareRun :=
  let name := setImageString d.imageIdName nameId st.stringId st.strings
  let st := { st with stringId := name.2.1, strings := name.2.2 }
  if name.1 then
    let version := setImageString d.versionName versionId st.stringId1 st.strings
    let st := { st with stringId1 := version.2.1, strings := version.2.2 }
    if version.1 then { st with rows := st.rows ++ [(st.stringId, st.stringId1)] } else st
  else st

/-- An iteration of the loop. -/
def fmpRound (fmp : FmpInstance) (st : FirmwareRun) : FirmwareRun :=
  if fmp.imageInfoSize ≠ efiBufferTooSmall then st
  else if fmp.allocated = false then st
  else
    match fmp.imageInfo with
    | .error _ => st
    | .ok [] => st
    | .ok (d :: _) => addFirmwareRow d fmp.nameId fmp.versionId st

/-- The loop. -/
def fmpLoop : List FmpInstance → FirmwareRun → FirmwareRun
  | [], st => st
  | fmp :: fmps, st => fmpLoop fmps (fmpRound fmp st)

/-- What is outside the function. -/
structure FirmwareEnv where
  /-- the two op-code handles were allocated -/
  opCodeHandles : Bool
  /-- EfiLocateProtocolBuffer -/
  locateProtocolBuffer : EfiStatus
  fmpList : List FmpInstance

/-- UpdateFormWithFirmwareVersions, for whatever the two locals hold at first. -/
def updateFormWithFirmwareVersions (env : FirmwareEnv) (stringId stringId1 : EfiStringId)
    (strings : StringPackage) : FirmwareRun :=
  if env.opCodeHandles = false then ⟨stringId, stringId1, strings, []⟩
  else if efiError env.locateProtocolBuffer then ⟨stringId, stringId1, strings, []⟩
  else fmpLoop env.fmpList ⟨stringId, stringId1, strings, []⟩

/-! ## Which rows there are -/

/-- The string is NULL or has been taken. -/
def stringTaken (s : Option Text) (answer : EfiStringId) : Bool := s.isNone || answer != 0

/-- The descriptor of an instance. -/
def FmpInstance.descriptor (fmp : FmpInstance) : Option FirmwareImageDescriptor :=
  if fmp.imageInfoSize = efiBufferTooSmall ∧ fmp.allocated = true then
    fmp.imageInfo.toOption.bind List.head?
  else none

/-- The descriptor that a row is added for. -/
def FmpInstance.shownDescriptor (fmp : FmpInstance) : Option FirmwareImageDescriptor :=
  fmp.descriptor.filter fun d =>
    stringTaken d.imageIdName fmp.nameId && stringTaken d.versionName fmp.versionId

/-- The id of a string that has been taken. -/
def newId (s : Option Text) (answer : EfiStringId) : List EfiStringId :=
  if s.isSome && answer != 0 then [answer] else []

/-- The ids that HiiSetString returns while an instance is looked at. -/
def FmpInstance.newIds (fmp : FmpInstance) : List EfiStringId :=
  match fmp.descriptor with
  | none => []
  | some d =>
      newId d.imageIdName fmp.nameId ++
        if stringTaken d.imageIdName fmp.nameId then newId d.versionName fmp.versionId else []

theorem fmpRound_eq (fmp : FmpInstance) (st : FirmwareRun) :
    fmpRound fmp st =
      match fmp.descriptor with
      | none => st
      | some d => addFirmwareRow d fmp.nameId fmp.versionId st := by
  unfold fmpRound FmpInstance.descriptor
  by_cases hsize : fmp.imageInfoSize = efiBufferTooSmall
  · cases hallocated : fmp.allocated with
    | false =>
        rw [if_neg (not_not.mpr hsize), if_pos rfl, if_neg fun hno => Bool.false_ne_true hno.2]
    | true =>
        rw [if_neg (not_not.mpr hsize), if_neg Bool.false_ne_true.symm,
          if_pos ⟨hsize, rfl⟩]
        cases fmp.imageInfo with
        | error e => rfl
        | ok ds =>
            cases ds with
            | nil => rfl
            | cons d ds => rfl
  · rw [if_pos hsize, if_neg fun hno => hsize hno.1]

/-! ## One instance -/

theorem hiiSetString_of_ne {id id' : EfiStringId} (s : Text) (strings : StringPackage)
    (h : id' ≠ id) : hiiSetString id s strings id' = strings id' := by
  unfold hiiSetString
  split_ifs
  · rfl
  · exact Function.update_of_ne h ..

section Image

variable {s : Option Text} {answer old : EfiStringId} {strings : StringPackage}

theorem setImageString_taken : (setImageString s answer old strings).1 = stringTaken s answer := by
  cases s with
  | none => rfl
  | some s => rfl

/-- Only the new string is different. -/
theorem setImageString_frame {id : EfiStringId} (h : id ∉ newId s answer) :
    (setImageString s answer old strings).2.2 id = strings id := by
  cases s with
  | none => rfl
  | some s =>
      by_cases hzero : answer = 0
      · rw [setImageString, hiiSetString, if_pos hzero]
      · apply hiiSetString_of_ne s strings
        intro hid
        apply h
        rw [newId, if_pos (by rw [Option.isSome_some, Bool.true_and]; exact bne_iff_ne.mpr hzero),
          hid]
        exact List.mem_singleton_self answer

/-- A string that is not NULL and has been taken is found under the id in the local. -/
theorem setImageString_some {s : Text} (h : stringTaken (some s) answer = true)
    (old : EfiStringId) (strings : StringPackage) :
    (setImageString (some s) answer old strings).2.1 = answer ∧
      (setImageString (some s) answer old strings).2.2 answer = some s ∧
      newId (some s) answer = [answer] := by
  have hne : answer ≠ 0 := bne_iff_ne.mp h
  refine ⟨rfl, ?_, if_pos h⟩
  show hiiSetString answer s strings answer = some s
  rw [hiiSetString, if_neg hne, Function.update_self]

end Image

/-- **A row shows the name and the version of a descriptor.** -/
def ShowsOwn (strings : StringPackage) (row : EfiStringId × EfiStringId)
    (d : FirmwareImageDescriptor) : Prop :=
  ∃ name version, d.imageIdName = some name ∧ d.versionName = some version ∧
    strings row.1 = some name ∧ strings row.2 = some version

/-- Neither of the two strings is NULL. -/
def FirmwareImageDescriptor.Complete (d : FirmwareImageDescriptor) : Prop :=
  d.imageIdName ≠ none ∧ d.versionName ≠ none

section Row

variable {d : FirmwareImageDescriptor} {nameId versionId : EfiStringId} {st : FirmwareRun}

/-- The row is added once both strings have been taken, or are NULL. -/
theorem addFirmwareRow_of_taken (hname : stringTaken d.imageIdName nameId = true)
    (hversion : stringTaken d.versionName versionId = true) :
    addFirmwareRow d nameId versionId st =
      let name := setImageString d.imageIdName nameId st.stringId st.strings
      let version := setImageString d.versionName versionId st.stringId1 name.2.2
      ⟨name.2.1, version.2.1, version.2.2, st.rows ++ [(name.2.1, version.2.1)]⟩ := by
  unfold addFirmwareRow
  simp only [setImageString_taken, hname, hversion, if_true]

theorem addFirmwareRow_rows (h : (stringTaken d.imageIdName nameId &&
    stringTaken d.versionName versionId) = false) :
    (addFirmwareRow d nameId versionId st).rows = st.rows := by
  unfold addFirmwareRow
  simp only [setImageString_taken]
  cases hname : stringTaken d.imageIdName nameId with
  | false => rfl
  | true =>
      rw [hname, Bool.true_and] at h
      rw [h]
      rfl

theorem addFirmwareRow_frame {id : EfiStringId} (hname : id ∉ newId d.imageIdName nameId)
    (hversion : stringTaken d.imageIdName nameId = true → id ∉ newId d.versionName versionId) :
    (addFirmwareRow d nameId versionId st).strings id = st.strings id := by
  unfold addFirmwareRow
  simp only [setImageString_taken]
  cases htaken : stringTaken d.imageIdName nameId with
  | false => exact setImageString_frame hname
  | true =>
      rw [if_pos rfl]
      have hboth : (setImageString d.versionName versionId st.stringId1
          (setImageString d.imageIdName nameId st.stringId st.strings).2.2).2.2 id =
          st.strings id :=
        (setImageString_frame (hversion htaken)).trans (setImageString_frame hname)
      split_ifs
      · exact hboth
      · exact hboth

end Row

section Instance

variable {fmp : FmpInstance} {st : FirmwareRun}

/-- Strings that are not new are left alone. -/
theorem fmpRound_frame {id : EfiStringId} (h : id ∉ fmp.newIds) :
    (fmpRound fmp st).strings id = st.strings id := by
  rw [fmpRound_eq]
  unfold FmpInstance.newIds at h
  cases hd : fmp.descriptor with
  | none => rfl
  | some d =>
      rw [hd] at h
      obtain ⟨hname, hversion⟩ := not_or.mp (List.mem_append.not.mp h)
      apply addFirmwareRow_frame hname
      intro htaken
      rwa [if_pos htaken] at hversion

/-- An instance without a descriptor to show has no row. -/
theorem fmpRound_rows_of_none (h : fmp.shownDescriptor = none) :
    (fmpRound fmp st).rows = st.rows := by
  rw [fmpRound_eq]
  unfold FmpInstance.shownDescriptor at h
  cases hd : fmp.descriptor with
  | none => rfl
  | some d =>
      rw [hd, Option.filter_some] at h
      split_ifs at h with htaken
      exact addFirmwareRow_rows (Bool.eq_false_iff.mpr htaken)

/-- **The row of an instance** shows its own descriptor if both strings are there, and then its ids
are new. -/
theorem fmpRound_rows_of_some (st : FirmwareRun) {d : FirmwareImageDescriptor}
    (h : fmp.shownDescriptor = some d) (hnodup : fmp.newIds.Nodup) :
    ∃ row, (fmpRound fmp st).rows = st.rows ++ [row] ∧ (d.Complete →
      ShowsOwn (fmpRound fmp st).strings row d ∧ row.1 ∈ fmp.newIds ∧ row.2 ∈ fmp.newIds) := by
  obtain ⟨hd, htaken⟩ := Option.filter_eq_some_iff.mp h
  obtain ⟨hname, hversion⟩ := Bool.and_eq_true_iff.mp htaken
  rw [fmpRound_eq]
  unfold FmpInstance.newIds at hnodup ⊢
  rw [hd] at hnodup ⊢
  dsimp only at hnodup ⊢
  rw [if_pos hname] at hnodup ⊢
  rw [addFirmwareRow_of_taken hname hversion]
  refine ⟨_, rfl, fun hcomplete => ?_⟩
  obtain ⟨name, hsomeName⟩ := Option.ne_none_iff_exists'.mp hcomplete.1
  obtain ⟨version, hsomeVersion⟩ := Option.ne_none_iff_exists'.mp hcomplete.2
  rw [hsomeName] at hname hnodup ⊢
  rw [hsomeVersion] at hversion hnodup ⊢
  obtain ⟨hid, hstored, hnew⟩ :=
    setImageString_some hname st.stringId st.strings
  obtain ⟨hid1, hstored1, hnew1⟩ := setImageString_some hversion st.stringId1
    (setImageString (some name) fmp.nameId st.stringId st.strings).2.2
  rw [hnew, hnew1] at hnodup ⊢
  have hne : fmp.nameId ∉ newId (some version) fmp.versionId := by
    rw [hnew1]
    exact List.disjoint_of_nodup_append hnodup (List.mem_singleton_self _)
  dsimp only
  rw [hid, hid1]
  refine ⟨⟨name, version, hsomeName, hsomeVersion, ?_, hstored1⟩, List.mem_cons_self,
    List.mem_cons_of_mem _ List.mem_cons_self⟩
  exact (setImageString_frame hne).trans hstored

end Instance

/-! ## The whole loop -/

/-- Later instances leave the strings of a row alone. -/
theorem fmpLoop_frame (fmps : List FmpInstance) :
    ∀ {st : FirmwareRun} {id : EfiStringId}, id ∉ fmps.flatMap FmpInstance.newIds →
      (fmpLoop fmps st).strings id = st.strings id := by
  induction fmps with
  | nil => intro st id _; rfl
  | cons fmp fmps ih =>
      intro st id h
      rw [List.flatMap_cons] at h
      obtain ⟨hfirst, hrest⟩ := not_or.mp (List.mem_append.not.mp h)
      exact (ih hrest).trans (fmpRound_frame hfirst)

/-- **The rows of the loop**, by induction on the instances: one for each descriptor to be shown, in
their order, and they show their own strings exactly when none of these is NULL. -/
theorem fmpLoop_rows (fmps : List FmpInstance) :
    ∀ (st : FirmwareRun), (fmps.flatMap FmpInstance.newIds).Nodup →
      ∃ rows, (fmpLoop fmps st).rows = st.rows ++ rows ∧
        (List.Forall₂ (ShowsOwn (fmpLoop fmps st).strings) rows
            (fmps.filterMap FmpInstance.shownDescriptor) ↔
          ∀ d ∈ fmps.filterMap FmpInstance.shownDescriptor, d.Complete) := by
  induction fmps with
  | nil =>
      intro st _
      exact ⟨[], (List.append_nil _).symm, iff_of_true .nil fun d hd => (nomatch hd)⟩
  | cons fmp fmps ih =>
      intro st hnodup
      rw [List.flatMap_cons] at hnodup
      obtain ⟨rows, hrows, hiff⟩ := ih (fmpRound fmp st) hnodup.of_append_right
      cases hshown : fmp.shownDescriptor with
      | none =>
          rw [List.filterMap_cons_none hshown]
          exact ⟨rows, hrows.trans (by rw [fmpRound_rows_of_none hshown]), hiff⟩
      | some d =>
          obtain ⟨row, hrow, hown⟩ :=
            fmpRound_rows_of_some st hshown hnodup.of_append_left
          rw [List.filterMap_cons_some hshown]
          refine ⟨row :: rows, ?_, ?_⟩
          · rw [fmpLoop, hrows, hrow, List.append_assoc, List.singleton_append]
          · rw [List.forall₂_cons, List.forall_mem_cons]
            refine and_congr ⟨fun hshows => ?_, fun hcomplete => ?_⟩ hiff
            · obtain ⟨name, version, hname, hversion, -, -⟩ := hshows
              exact ⟨by rw [hname]; exact Option.some_ne_none name,
                by rw [hversion]; exact Option.some_ne_none version⟩
            · -- what follows has other ids
              obtain ⟨⟨name, version, hname, hversion, hid, hid1⟩, hnew, hnew1⟩ := hown hcomplete
              have hlater := List.disjoint_of_nodup_append hnodup
              exact ⟨name, version, hname, hversion, (fmpLoop_frame fmps (hlater hnew)).trans hid,
                (fmpLoop_frame fmps (hlater hnew1)).trans hid1⟩

/-- The descriptors that rows are added for. -/
def FirmwareEnv.shownDescriptors (env : FirmwareEnv) : List FirmwareImageDescriptor :=
  if env.opCodeHandles = true ∧ efiError env.locateProtocolBuffer = false then
    env.fmpList.filterMap FmpInstance.shownDescriptor
  else []

/-- **When the rows show the name and the version of their own descriptor**, in the end and for
whatever the two locals hold at first: no row is for a descriptor with a string that is NULL. -/
theorem firmware_rows_own_iff (env : FirmwareEnv)
    (hnodup : (env.fmpList.flatMap FmpInstance.newIds).Nodup) (stringId stringId1 : EfiStringId)
    (strings : StringPackage) :
    List.Forall₂
        (ShowsOwn (updateFormWithFirmwareVersions env stringId stringId1 strings).strings)
        (updateFormWithFirmwareVersions env stringId stringId1 strings).rows
        env.shownDescriptors ↔
      ∀ d ∈ env.shownDescriptors, d.imageIdName ≠ none ∧ d.versionName ≠ none := by
  have hnone : List.Forall₂ (ShowsOwn strings) [] [] ↔
      ∀ d ∈ ([] : List FirmwareImageDescriptor), d.imageIdName ≠ none ∧ d.versionName ≠ none :=
    iff_of_true .nil fun d hd => (nomatch hd)
  unfold updateFormWithFirmwareVersions FirmwareEnv.shownDescriptors
  cases env.opCodeHandles with
  | false =>
      rw [if_pos rfl, if_neg fun hno => Bool.false_ne_true hno.1]
      exact hnone
  | true =>
      rw [if_neg Bool.false_ne_true.symm]
      cases efiError env.locateProtocolBuffer with
      | true =>
          rw [if_pos rfl, if_neg fun hno => Bool.false_ne_true hno.2.symm]
          exact hnone
      | false =>
          rw [if_neg Bool.false_ne_true, if_pos ⟨rfl, rfl⟩]
          obtain ⟨rows, hrows, hiff⟩ :=
            fmpLoop_rows env.fmpList ⟨stringId, stringId1, strings, []⟩ hnodup
          rw [hrows]
          exact hiff

/-- Two instances with one descriptor each: the first has the name "A" and the version "1", the
second one the version "2" and this name. -/
def twoInstances (name : Option Text) : FirmwareEnv where
  opCodeHandles := true
  locateProtocolBuffer := efiSuccess
  fmpList :=
    [⟨efiBufferTooSmall, true, .ok [⟨some [0x41], some [0x31]⟩], 5, 6⟩,
      ⟨efiBufferTooSmall, true, .ok [⟨name, some [0x32]⟩], 7, 8⟩]

/-- With a name of its own, the second row is right as well. -/
theorem firmware_rows_own_two :
    List.Forall₂ (ShowsOwn (updateFormWithFirmwareVersions (twoInstances (some [0x42])) 0 0
        fun _ => none).strings)
      (updateFormWithFirmwareVersions (twoInstances (some [0x42])) 0 0 fun _ => none).rows
      [⟨some [0x41], some [0x31]⟩, ⟨some [0x42], some [0x32]⟩] := by
  apply (firmware_rows_own_iff (twoInstances (some [0x42])) (by decide) 0 0 fun _ => none).mpr
  intro d hd
  rcases List.mem_pair.mp hd with rfl | rfl
  · exact ⟨Option.some_ne_none _, Option.some_ne_none _⟩
  · exact ⟨Option.some_ne_none _, Option.some_ne_none _⟩

/-- Without one it shows the name of the first instance and the version of the second. -/
theorem firmware_rows_mixed :
    ((updateFormWithFirmwareVersions (twoInstances none) 0 0 fun _ => none).rows.map fun row =>
      ((updateFormWithFirmwareVersions (twoInstances none) 0 0 fun _ => none).strings row.1,
        (updateFormWithFirmwareVersions (twoInstances none) 0 0 fun _ => none).strings row.2)) =
      [(some [0x41], some [0x31]), (some [0x41], some [0x32])] ∧
    ¬ ∀ (env : FirmwareEnv), (env.fmpList.flatMap FmpInstance.newIds).Nodup →
      ∀ (stringId stringId1 : EfiStringId) (strings : StringPackage),
        List.Forall₂
          (ShowsOwn (updateFormWithFirmwareVersions env stringId stringId1 strings).strings)
          (updateFormWithFirmwareVersions env stringId stringId1 strings).rows
          env.shownDescriptors := by
  refine ⟨by decide, fun hall => ?_⟩
  have hcomplete := (firmware_rows_own_iff (twoInstances none) (by decide) 0 0 fun _ => none).mp
    (hall (twoInstances none) (by decide) 0 0 fun _ => none)
  exact (hcomplete ⟨none, some [0x32]⟩ (by decide)).1 rfl

end OemPkg.FrontPage
