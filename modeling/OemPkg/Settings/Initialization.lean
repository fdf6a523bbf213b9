/-
# OemPkg.Settings.Initialization — what one boot leaves of the settings record

`Registers` says what a boot must leave alone. This module says what a boot makes of every state it
can find (`InitialState`), whichever of its variable calls fail: one lemma for each repair path of
`InitializeNvVariable`, and from them the two questions a later firmware generation asks.

* Is the record at the current version? `initialize_reaches_version3_iff`: exactly where an older
  record was upgraded. The record of defaults has no version.
* Is there a record at all when the answer was `EFI_SUCCESS`? `initialize_success_present_iff`:
  always, but for an old record deleted for its conversion and not written back.
-/
import OemPkg.Settings.Registers

namespace OemPkg.Settings

open OemPkg.Lib OemPkg.Uefi

/-! ## The states a boot finds and leaves -/

/-- The record is there, under its attributes and with the current signature. -/
def Present (H : MsBootManagerSettingsH) (v : Option Variable) : Prop :=
  ∃ m : H.Record, v = some ⟨H.attributes, m.bytes⟩ ∧ m.get .signature = H.signature

/-- The record is there and of the current version. -/
def AtVersion3 (H : MsBootManagerSettingsH) (v : Option Variable) : Prop :=
  ∃ m : H.Record, v = some ⟨H.attributes, m.bytes⟩ ∧ m.get .signature = H.signature ∧
    m.get .version = H.version3

/-- A record of the old signature, which had run-time access. -/
def AwaitsConversion (H : MsBootManagerSettingsH) (v : Option Variable) : Prop :=
  ∃ m : H.Record, v = some ⟨H.attributes ||| efiVariableRuntimeAccess, m.bytes⟩ ∧
    m.get .signature = H.signatureOld

/-- A record some released version wrote: the old one, or the current one at a version from 1
to 3. -/
def Upgradable (H : MsBootManagerSettingsH) (v : Option Variable) : Prop :=
  AwaitsConversion H v ∨
    ∃ m : H.Record, v = some ⟨H.attributes, m.bytes⟩ ∧ m.get .signature = H.signature ∧
      H.version1 ≤ m.get .version ∧ m.get .version ≤ H.version3

/-- What a boot can find, in the order of the source's checks. -/
inductive InitialState (H : MsBootManagerSettingsH) : Option Variable → Prop
  | absent : InitialState H none
  | wrongSize {v : Variable} (size : v.data.length ≠ H.layout.size) : InitialState H (some v)
  | old {m : H.Record} (signature : m.get .signature = H.signatureOld) :
      InitialState H (some ⟨H.attributes ||| efiVariableRuntimeAccess, m.bytes⟩)
  | wrongAttributes {m : H.Record} {a : Attributes} (attributes : a ≠ H.attributes)
      (notOld : ¬ (m.get .signature = H.signatureOld ∧
        a = H.attributes ||| efiVariableRuntimeAccess)) :
      InitialState H (some ⟨a, m.bytes⟩)
  | corrupted {m : H.Record} (signature : m.get .signature ≠ H.signature) :
      InitialState H (some ⟨H.attributes, m.bytes⟩)
  | older {m : H.Record} (signature : m.get .signature = H.signature)
      (version : H.version1 ≤ m.get .version ∧ m.get .version < H.version3) :
      InitialState H (some ⟨H.attributes, m.bytes⟩)
  | current {m : H.Record} (current : Current m) : InitialState H (some ⟨H.attributes, m.bytes⟩)

theorem runtime_ne_attributes (H : MsBootManagerSettingsH) :
    H.attributes ||| efiVariableRuntimeAccess ≠ H.attributes := by
  intro h
  have hand := congrArg (· &&& efiVariableRuntimeAccess) h
  simp only [H.attributes_not_runtime, BitVec.and_or_distrib_right, BitVec.zero_or,
    BitVec.and_self] at hand
  exact absurd hand (by decide)

/-- Every variable is one of these. -/
theorem initialState (H : MsBootManagerSettingsH) (v : Option Variable) : InitialState H v := by
  cases v with
  | none => exact .absent
  | some v =>
      by_cases hsize : v.data.length = H.layout.size
      case neg => exact .wrongSize hsize
      obtain ⟨a, data⟩ := v
      let m : H.Record := ⟨data, hsize⟩
      show InitialState H (some ⟨a, m.bytes⟩)
      by_cases hold : m.get .signature = H.signatureOld ∧
          a = H.attributes ||| efiVariableRuntimeAccess
      · obtain ⟨hsig, rfl⟩ := hold
        exact .old hsig
      by_cases ha : a = H.attributes
      case neg => exact .wrongAttributes ha hold
      subst ha
      by_cases hsig : m.get .signature = H.signature
      case neg => exact .corrupted hsig
      by_cases hver : H.version1 ≤ m.get .version ∧ m.get .version < H.version3
      · exact .older hsig hver
      · exact .current ⟨hsig, hver⟩

/-! ## What a boot does about each -/

section Paths

variable {H : MsBootManagerSettingsH} (pcd : BootManagerPcds) (settings : H.Record)
  {s : VarService}

/-- The read fails: step 3 with the status of the failure. -/
theorem initialize_unread {e : EfiStatus} (he : s.readFaults.head?.join = some e)
    (herr : efiError e = true) :
    initializeNvVariable H pcd settings s =
      createNvVariable H pcd e { s with readFaults := s.readFaults.tail } := by
  unfold initializeNvVariable VarService.getVariable
  rw [he]
  by_cases h : e = efiBufferTooSmall
  · simp only [h, if_true, efiError_bufferTooSmall]
  · simp only [h, if_false, herr, if_true]

section Answered

variable (hr : s.readFaults.head?.join = none)
include hr

theorem getVariable_answers (n : Nat) :
    s.getVariable n = (readVariable s.var n, { s with readFaults := s.readFaults.tail }) := by
  simp only [VarService.getVariable, hr]

/-- No variable: step 3. -/
theorem initialize_absent (hv : s.var = none) :
    initializeNvVariable H pcd settings s =
      createNvVariable H pcd efiNotFound { s with readFaults := s.readFaults.tail } := by
  unfold initializeNvVariable
  rw [getVariable_answers hr, hv, readVariable_none]
  simp only [efiError_notFound, if_true]

/-- A variable of another size: step 3, which deletes it first. -/
theorem initialize_wrongSize {v : Variable} (hv : s.var = some v)
    (hsize : v.data.length ≠ H.layout.size) :
    ∃ status, status ≠ efiNotFound ∧ initializeNvVariable H pcd settings s =
      createNvVariable H pcd status { s with readFaults := s.readFaults.tail } := by
  unfold initializeNvVariable
  rw [getVariable_answers hr, hv]
  by_cases hfit : v.data.length ≤ H.layout.size
  · refine ⟨efiCompromisedData, compromisedData_ne_notFound, ?_⟩
    simp only [readVariable_fits hfit, efiError_success, Bool.false_eq_true, if_false,
      validateNvVariable, ne_eq, hsize, not_false_eq_true, if_true, efiError_compromisedData]
  · refine ⟨efiBufferTooSmall, bufferTooSmall_ne_notFound, ?_⟩
    simp only [readVariable_large hfit, efiError_bufferTooSmall, if_true]

/-- A variable of the right size: step 2 sees its bytes. -/
theorem initialize_rightSize {m : H.Record} {a : Attributes} (hv : s.var = some ⟨a, m.bytes⟩) :
    initializeNvVariable H pcd settings s =
      let r := validateNvVariable H pcd ⟨efiSuccess, H.layout.size, some a, m.bytes⟩ m
        { s with readFaults := s.readFaults.tail }
      if efiError r.1 then createNvVariable H pcd r.1 r.2 else r := by
  have hfit : (⟨a, m.bytes⟩ : Variable).data.length ≤ H.layout.size := m.length_bytes.le
  unfold initializeNvVariable
  rw [getVariable_answers hr, hv, readVariable_fits hfit]
  simp only [efiError_success, Bool.false_eq_true, if_false, m.length_bytes,
    Layout.Image.copyIn_self]

/-- Other attributes or another signature: step 3. -/
theorem initialize_rejected {m : H.Record} {a : Attributes} (hv : s.var = some ⟨a, m.bytes⟩)
    (hbad : a ≠ H.attributes ∨ m.get .signature ≠ H.signature)
    (hold : ¬ (m.get .signature = H.signatureOld ∧
      a = H.attributes ||| efiVariableRuntimeAccess)) :
    initializeNvVariable H pcd settings s =
      createNvVariable H pcd efiCompromisedData { s with readFaults := s.readFaults.tail } := by
  rw [initialize_rightSize pcd settings hr hv]
  have hvalid : validateNvVariable H pcd ⟨efiSuccess, H.layout.size, some a, m.bytes⟩ m
      { s with readFaults := s.readFaults.tail } =
        (efiCompromisedData, { s with readFaults := s.readFaults.tail }) := by
    unfold validateNvVariable
    rw [if_neg (not_not.mpr rfl), if_neg (by simpa only [Option.some.injEq] using hold)]
    rcases hbad with ha | hsig
    · rw [if_pos (by simpa only [ne_eq, Option.some.injEq] using ha)]
    · rw [if_pos hsig]
      exact ite_self _
  simp only [hvalid, efiError_compromisedData, if_true]

/-- An old record: deleted, then written in its new form. Neither failure shows. -/
theorem initialize_old {m : H.Record}
    (hv : s.var = some ⟨H.attributes ||| efiVariableRuntimeAccess, m.bytes⟩)
    (hsig : m.get .signature = H.signatureOld) :
    let r := (({ s with readFaults := s.readFaults.tail } : VarService).setVariable 0#32
      []).2.setVariable H.attributes (convertOld H pcd m).bytes
    initializeNvVariable H pcd settings s =
      (if efiError r.1 then efiSuccess else r.1, r.2) := by
  intro r
  rw [initialize_rightSize pcd settings hr hv]
  have hvalid : validateNvVariable H pcd ⟨efiSuccess, H.layout.size,
      some (H.attributes ||| efiVariableRuntimeAccess), m.bytes⟩ m
      { s with readFaults := s.readFaults.tail } =
        (if efiError r.1 then efiSuccess else r.1, r.2) := by
    unfold validateNvVariable
    rw [if_neg (not_not.mpr rfl), if_pos ⟨hsig, rfl⟩]
  cases herr : efiError r.1 <;> simp [hvalid, herr]

/-- A record of an older version: rewritten in place. A failure does not show. -/
theorem initialize_older {m : H.Record} (hv : s.var = some ⟨H.attributes, m.bytes⟩)
    (hsig : m.get .signature = H.signature)
    (hver : H.version1 ≤ m.get .version ∧ m.get .version < H.version3) :
    let r := ({ s with readFaults := s.readFaults.tail } : VarService).setVariable H.attributes
      (migrate H pcd m).bytes
    initializeNvVariable H pcd settings s =
      (if efiError r.1 then efiSuccess else r.1, r.2) := by
  intro r
  rw [initialize_rightSize pcd settings hr hv]
  have hvalid : validateNvVariable H pcd ⟨efiSuccess, H.layout.size, some H.attributes, m.bytes⟩ m
      { s with readFaults := s.readFaults.tail } =
        (if efiError r.1 then efiSuccess else r.1, r.2) := by
    unfold validateNvVariable
    rw [if_neg (not_not.mpr rfl), if_neg (by rw [hsig]; exact fun h => H.signature_ne h.1),
      if_neg (not_not.mpr rfl), if_neg (not_not.mpr hsig), if_pos hver]
  cases herr : efiError r.1 <;> simp [hvalid, herr]

/-- A record no boot has anything to do to. -/
theorem initialize_current {m : H.Record} (hv : s.var = some ⟨H.attributes, m.bytes⟩)
    (hcur : Current m) :
    initializeNvVariable H pcd settings s =
      (efiSuccess, { s with readFaults := s.readFaults.tail }) := by
  rw [initialize_rightSize pcd settings hr hv]
  have hvalid : validateNvVariable H pcd ⟨efiSuccess, H.layout.size, some H.attributes, m.bytes⟩ m
      { s with readFaults := s.readFaults.tail } =
        (efiSuccess, { s with readFaults := s.readFaults.tail }) := by
    unfold validateNvVariable
    rw [if_neg (not_not.mpr rfl),
      if_neg (by rw [hcur.signature]; exact fun h => H.signature_ne h.1),
      if_neg (not_not.mpr rfl), if_neg (not_not.mpr hcur.signature), if_neg hcur.version]
  simp only [hvalid, efiError_success, Bool.false_eq_true, if_false]

end Answered

end Paths

/-! ## The version -/

variable {H : MsBootManagerSettingsH}

/-- A variable of the right size is attributes and a record. -/
theorem record_some_inj {m m' : H.Record} {a a' : Attributes}
    (h : some (⟨a, m.bytes⟩ : Variable) = some ⟨a', m'.bytes⟩) : a = a' ∧ m = m' := by
  obtain ⟨ha, hdata⟩ := Variable.mk.inj (Option.some.inj h)
  exact ⟨ha, Layout.Image.ext hdata⟩

theorem atVersion3_some {m : H.Record} :
    AtVersion3 H (some ⟨H.attributes, m.bytes⟩) ↔
      m.get .signature = H.signature ∧ m.get .version = H.version3 := by
  constructor
  · rintro ⟨m', hv, hsig, hver⟩
    obtain ⟨-, rfl⟩ := record_some_inj hv
    exact ⟨hsig, hver⟩
  · rintro ⟨hsig, hver⟩
    exact ⟨m, rfl, hsig, hver⟩

theorem awaitsConversion_some {m : H.Record} {a : Attributes} :
    AwaitsConversion H (some ⟨a, m.bytes⟩) ↔
      a = H.attributes ||| efiVariableRuntimeAccess ∧ m.get .signature = H.signatureOld := by
  constructor
  · rintro ⟨m', hv, hsig⟩
    obtain ⟨ha, rfl⟩ := record_some_inj hv
    exact ⟨ha, hsig⟩
  · rintro ⟨rfl, hsig⟩
    exact ⟨m, rfl, hsig⟩

/-- Under its own attributes the record has been converted. -/
theorem not_awaitsConversion (m : H.Record) :
    ¬ AwaitsConversion H (some ⟨H.attributes, m.bytes⟩) := by
  rw [awaitsConversion_some]
  rintro ⟨ha, -⟩
  exact runtime_ne_attributes H ha.symm

/-- The record of defaults is of version 0. -/
theorem defaults_not_atVersion3 (pcd : BootManagerPcds) :
    ¬ AtVersion3 H (some ⟨H.attributes, (defaultRecord H pcd).bytes⟩) := by
  rw [atVersion3_some, get_version_defaultRecord]
  rintro ⟨-, hver⟩
  have := H.version1_pos
  have := H.version1_lt
  have := H.version2_lt
  omega

theorem upgradable_some {m : H.Record} {a : Attributes} :
    Upgradable H (some ⟨a, m.bytes⟩) ↔
      (a = H.attributes ||| efiVariableRuntimeAccess ∧ m.get .signature = H.signatureOld) ∨
        a = H.attributes ∧ m.get .signature = H.signature ∧
          H.version1 ≤ m.get .version ∧ m.get .version ≤ H.version3 := by
  unfold Upgradable
  rw [awaitsConversion_some]
  apply or_congr_right
  constructor
  · rintro ⟨m', hv, h⟩
    obtain ⟨ha, rfl⟩ := record_some_inj hv
    exact ⟨ha, h⟩
  · rintro ⟨rfl, h⟩
    exact ⟨m, rfl, h⟩

section Reliable

variable (pcd : BootManagerPcds) (settings : H.Record)

/-- A boot that ends in step 3 leaves the record of defaults. -/
theorem created_not_atVersion3 {v : Option Variable} {status : EfiStatus}
    (hnone : status = efiNotFound → v = none)
    (hr : initializeNvVariable H pcd settings (.reliable v) =
      createNvVariable H pcd status (.reliable v)) :
    ¬ AtVersion3 H (initializeNvVariable H pcd settings (.reliable v)).2.var := by
  rw [hr, createNvVariable_reliable pcd hnone]
  exact defaults_not_atVersion3 pcd

theorem initialize_old_reliable {m : H.Record} (hsig : m.get .signature = H.signatureOld) :
    initializeNvVariable H pcd settings
        (.reliable (some ⟨H.attributes ||| efiVariableRuntimeAccess, m.bytes⟩)) =
      (efiSuccess, .reliable (some ⟨H.attributes, (convertOld H pcd m).bytes⟩)) := by
  refine (initialize_old pcd settings rfl rfl hsig).trans ?_
  simp only [VarService.reliable, VarService.setVariable, List.head?_nil, List.tail_nil,
    Option.join_none, writeVariable_delete, write_record_none, efiError_success,
    Bool.false_eq_true, if_false]

theorem initialize_older_reliable {m : H.Record} (hsig : m.get .signature = H.signature)
    (hver : H.version1 ≤ m.get .version ∧ m.get .version < H.version3) :
    initializeNvVariable H pcd settings (.reliable (some ⟨H.attributes, m.bytes⟩)) =
      (efiSuccess, .reliable (some ⟨H.attributes, (migrate H pcd m).bytes⟩)) := by
  refine (initialize_older pcd settings rfl rfl hsig hver).trans ?_
  simp only [VarService.reliable, VarService.setVariable, List.head?_nil, List.tail_nil,
    Option.join_none, write_record_some, efiError_success, Bool.false_eq_true, if_false]

end Reliable

/-- A variable of another size is no record of any version. -/
theorem not_upgradable_of_size {v : Variable} (size : v.data.length ≠ H.layout.size) :
    ¬ Upgradable H (some v) := by
  rintro (⟨m, hv, -⟩ | ⟨m, hv, -⟩) <;> cases hv <;> exact size m.length_bytes

/-- **A boot brings exactly the upgradable records to the current version.** From any other state
it ends with a record too, but with one whose version was never set or not understood. -/
theorem initialize_reaches_version3_iff (pcd : BootManagerPcds) (settings : H.Record)
    (v : Option Variable) :
    let r := initializeNvVariable H pcd settings (.reliable v)
    (r.1 = efiSuccess ∧ AtVersion3 H r.2.var) ↔ Upgradable H v := by
  intro r
  cases initialState H v with
  | absent =>
      have hcreated := created_not_atVersion3 pcd settings (fun _ => rfl)
        (initialize_absent pcd settings rfl rfl)
      refine iff_of_false (fun h => hcreated h.2) ?_
      rintro (⟨m, hv, -⟩ | ⟨m, hv, -⟩) <;> cases hv
  | wrongSize size =>
      obtain ⟨status, hstatus, hr⟩ := initialize_wrongSize pcd settings (s := .reliable _) rfl
        rfl size
      have hcreated := created_not_atVersion3 pcd settings (fun e => absurd e hstatus) hr
      exact iff_of_false (fun h => hcreated h.2) (not_upgradable_of_size size)
  | @old m signature =>
      have hr : r = _ := initialize_old_reliable pcd settings signature
      refine iff_of_true ?_ (upgradable_some.mpr (Or.inl ⟨rfl, signature⟩))
      rw [hr, VarService.reliable_var, atVersion3_some]
      exact ⟨rfl, get_signature_convertOld pcd m, get_version_convertOld pcd m⟩
  | wrongAttributes attributes notOld =>
      have hcreated := created_not_atVersion3 pcd settings (by simp)
        (initialize_rejected pcd settings rfl rfl (Or.inl attributes) notOld)
      refine iff_of_false (fun h => hcreated h.2) ?_
      rw [upgradable_some]
      rintro (⟨ha, hsig⟩ | ⟨ha, -⟩)
      · exact notOld ⟨hsig, ha⟩
      · exact attributes ha
  | corrupted signature =>
      have hcreated := created_not_atVersion3 pcd settings (by simp)
        (initialize_rejected pcd settings rfl rfl (Or.inr signature)
          (fun h => runtime_ne_attributes H h.2.symm))
      refine iff_of_false (fun h => hcreated h.2) ?_
      rw [upgradable_some]
      rintro (⟨ha, -⟩ | ⟨-, hsig, -⟩)
      · exact runtime_ne_attributes H ha.symm
      · exact signature hsig
  | @older m signature version =>
      have hr : r = _ := initialize_older_reliable pcd settings signature version
      refine iff_of_true ?_ (upgradable_some.mpr
        (Or.inr ⟨rfl, signature, version.1, version.2.le⟩))
      rw [hr, VarService.reliable_var, atVersion3_some]
      exact ⟨rfl, (get_signature_migrate pcd m).trans signature, get_version_migrate pcd m⟩
  | current current =>
      have hr : r = _ := initialize_current pcd settings rfl rfl current
      have hlt : H.version1 < H.version3 := H.version1_lt.trans H.version2_lt
      have hver := current.version
      rw [hr]
      show efiSuccess = efiSuccess ∧ AtVersion3 H (some ⟨H.attributes, _⟩) ↔ _
      rw [atVersion3_some, upgradable_some]
      constructor
      · rintro ⟨-, hsig, h3⟩
        exact Or.inr ⟨rfl, hsig, by omega, h3.le⟩
      · rintro (⟨ha, -⟩ | ⟨-, hsig, hmin, hmax⟩)
        · exact absurd ha.symm (runtime_ne_attributes H)
        · exact ⟨rfl, hsig, by omega⟩

/-- A boot that finds no variable: `EFI_SUCCESS`, and a record no migration will ever look at. -/
theorem initialize_leaves_version_unset :
    let r := initializeNvVariable packedH ⟨1, 0, 0, 1, 0⟩ (Layout.Image.zero packedH.layout)
      (.reliable none)
    ¬ (r.1 = efiSuccess ∧ AtVersion3 packedH r.2.var) := by
  intro r
  rintro ⟨-, h⟩
  have hr : r = _ := initialize_absent (H := packedH) ⟨1, 0, 0, 1, 0⟩ _ rfl rfl
  rw [hr] at h
  exact defaults_not_atVersion3 _ h

/-! ## The record -/

/-- One of the two calls of a conversion fails: its deletion or its write. -/
def ConversionFails (s : VarService) : Prop :=
  s.writeFaults.head?.join ≠ none ∨ s.writeFaults.tail.head?.join ≠ none

/-- Every setting can be set. -/
def AcceptsSets (H : MsBootManagerSettingsH) (v : Option Variable) : Prop :=
  ∀ b value flags settings,
    (setBootManagerSetting H settings (.boot b) value (some flags) (.reliable v)).1.1 = efiSuccess

theorem acceptsSets_of_present {v : Option Variable} (h : Present H v) : AcceptsSets H v := by
  obtain ⟨m, rfl, -⟩ := h
  intro b value flags settings
  obtain ⟨hread, hcopy⟩ := getVariable_of_current settings m
  simp only [setBootManagerSetting, hread, hcopy, efiError_success, Bool.false_eq_true, if_false,
    VarService.setVariable_reliable, write_record_some]
  split_ifs <;> rfl

theorem present_of_signature {m : H.Record} (h : m.get .signature = H.signature) :
    Present H (some ⟨H.attributes, m.bytes⟩) :=
  ⟨m, rfl, h⟩

/-- An old record is not a record: its attributes are others. -/
theorem not_present_runtime (data : Bytes) :
    ¬ Present H (some ⟨H.attributes ||| efiVariableRuntimeAccess, data⟩) := by
  rintro ⟨m, hv, -⟩
  exact runtime_ne_attributes H (congrArg Variable.attributes (Option.some.inj hv))

section Faults

variable {s : VarService} (hwrite : ∀ e, some e ∈ s.writeFaults → efiError e = true)

theorem setVariable_of_fault {e : EfiStatus} (he : s.writeFaults.head?.join = some e)
    (a : Attributes) (data : Bytes) :
    s.setVariable a data = (e, { s with writeFaults := s.writeFaults.tail }) := by
  simp only [VarService.setVariable, he]

theorem setVariable_of_no_fault (h : s.writeFaults.head?.join = none) (a : Attributes)
    (data : Bytes) :
    s.setVariable a data = ((writeVariable s.var a data).1,
      { s with var := (writeVariable s.var a data).2, writeFaults := s.writeFaults.tail }) := by
  simp only [VarService.setVariable, h]

theorem writeFaults_setVariable (s : VarService) (a : Attributes) (data : Bytes) :
    (s.setVariable a data).2.writeFaults = s.writeFaults.tail := by
  unfold VarService.setVariable
  cases s.writeFaults.head?.join <;> rfl

theorem mem_of_fault {fs : List (Option EfiStatus)} {e : EfiStatus}
    (h : fs.head?.join = some e) : some e ∈ fs := by
  cases fs with
  | nil => cases h
  | cons f fs =>
      obtain rfl : f = some e := h
      exact List.mem_cons_self

include hwrite

/-- A write of the record: it is there, or the call failed and nothing changed. -/
theorem setVariable_record (m : H.Record) :
    let r := s.setVariable H.attributes m.bytes
    r.1 = efiSuccess ∧ r.2.var = some ⟨H.attributes, m.bytes⟩ ∨
      efiError r.1 = true ∧ r.2.var = s.var := by
  intro r
  cases hf : s.writeFaults.head?.join with
  | some e =>
      have hr : r = _ := setVariable_of_fault hf _ _
      rw [hr]
      exact Or.inr ⟨hwrite e (mem_of_fault hf), rfl⟩
  | none =>
      have hr : r = _ := setVariable_of_no_fault hf _ _
      rw [hr]
      cases hv : s.var with
      | none =>
          left
          rw [write_record_none]
          exact ⟨rfl, rfl⟩
      | some old =>
          obtain ⟨a, data⟩ := old
          by_cases ha : a = H.attributes
          · left
            rw [ha, write_record_some]
            exact ⟨rfl, rfl⟩
          · right
            have hne : m.bytes.isEmpty = false := by
              simpa using record_ne_nil m
            simp [writeVariable, validAttributes_record, hasAccess_record, hne, ha]

/-- Step 3 does not report success without a record. -/
theorem createNvVariable_present (pcd : BootManagerPcds) (status : EfiStatus)
    (h : (createNvVariable H pcd status s).1 = efiSuccess) :
    Present H (createNvVariable H pcd status s).2.var := by
  unfold createNvVariable at h ⊢
  have hwrite' : ∀ e, some e ∈ (if status ≠ efiNotFound then (s.setVariable 0#32 []).2 else
      s).writeFaults → efiError e = true := by
    split_ifs
    · rw [writeFaults_setVariable]
      exact fun e he => hwrite e (List.mem_of_mem_tail he)
    · exact hwrite
  rcases setVariable_record hwrite' (defaultRecord H pcd) with ⟨-, hvar⟩ | ⟨herr, -⟩
  · rw [hvar]
    exact present_of_signature (get_signature_defaultRecord pcd)
  · exact absurd h (ne_success_of_error herr)

/-- A conversion ends with a record iff both its calls succeed. If only the deletion fails, the
write is refused for its other attributes; if only the write fails, nothing is left. -/
theorem conversion_present_iff {m : H.Record}
    (hv : s.var = some ⟨H.attributes ||| efiVariableRuntimeAccess, m.bytes⟩) {new : H.Record}
    (hnew : new.get .signature = H.signature) :
    Present H ((s.setVariable 0#32 []).2.setVariable H.attributes new.bytes).2.var ↔
      ¬ ConversionFails s := by
  unfold ConversionFails
  cases hdel : s.writeFaults.head?.join with
  | some e =>
      have hs : ∀ e, some e ∈ s.writeFaults.tail → efiError e = true :=
        fun e he => hwrite e (List.mem_of_mem_tail he)
      rw [setVariable_of_fault hdel]
      refine iff_of_false (fun hpres => ?_) (fun h => h (Or.inl (Option.some_ne_none e)))
      cases hw : s.writeFaults.tail.head?.join with
      | some e' =>
          rw [setVariable_of_fault hw, hv] at hpres
          exact not_present_runtime _ hpres
      | none =>
          rw [setVariable_of_no_fault hw, hv] at hpres
          have hne : new.bytes.isEmpty = false := by simpa using record_ne_nil new
          simp only [writeVariable, validAttributes_record, hasAccess_record, hne, Bool.not_true,
            Bool.false_eq_true, Bool.or_self, if_false, runtime_ne_attributes] at hpres
          exact not_present_runtime _ hpres
  | none =>
      rw [setVariable_of_no_fault hdel, writeVariable_delete]
      cases hw : s.writeFaults.tail.head?.join with
      | some e =>
          rw [setVariable_of_fault hw]
          refine iff_of_false ?_ (fun h => h (Or.inr (Option.some_ne_none e)))
          rintro ⟨m, hm, -⟩
          cases hm
      | none =>
          rw [setVariable_of_no_fault hw, write_record_none]
          exact iff_of_true (present_of_signature hnew) (by simp)

end Faults

section Success

variable (pcd : BootManagerPcds) (settings : H.Record) (s : VarService)
  (hwrite : ∀ e, some e ∈ s.writeFaults → efiError e = true)
include hwrite

/-- A boot that ends in step 3 has a record when it reports success. -/
theorem present_of_created {status : EfiStatus}
    (hr : initializeNvVariable H pcd settings s =
      createNvVariable H pcd status { s with readFaults := s.readFaults.tail })
    (hok : (initializeNvVariable H pcd settings s).1 = efiSuccess) :
    Present H (initializeNvVariable H pcd settings s).2.var := by
  rw [hr] at hok ⊢
  exact createNvVariable_present (s := { s with readFaults := s.readFaults.tail }) hwrite pcd
    status hok

/-- An old record: the boot reports success, and the record is there iff its conversion is. -/
theorem initialize_old_present_iff (hr : s.readFaults.head?.join = none) {m : H.Record}
    (hv : s.var = some ⟨H.attributes ||| efiVariableRuntimeAccess, m.bytes⟩)
    (hsig : m.get .signature = H.signatureOld) :
    let r := initializeNvVariable H pcd settings s
    (r.1 = efiSuccess → Present H r.2.var) ↔ ¬ ConversionFails s := by
  intro r
  have hold : r = _ := initialize_old pcd settings hr hv hsig
  have hpres := conversion_present_iff (s := { s with readFaults := s.readFaults.tail })
    hwrite hv (get_signature_convertOld pcd m)
  have hok : r.1 = efiSuccess := by
    rw [hold]
    rcases setVariable_record (s := (VarService.setVariable
      { s with readFaults := s.readFaults.tail } 0#32 []).2)
      (by
        rw [writeFaults_setVariable]
        exact fun e he => hwrite e (List.mem_of_mem_tail he))
      (convertOld H pcd m) with ⟨h, -⟩ | ⟨h, -⟩
    · simp only [h, efiError_success, Bool.false_eq_true, if_false]
    · simp only [h, if_true]
  rw [forall_prop_of_true hok, hold]
  exact hpres

/-- The read answers: the record is there unless its conversion fails. -/
theorem initialize_answered_present_iff (hr : s.readFaults.head?.join = none) :
    let r := initializeNvVariable H pcd settings s
    (r.1 = efiSuccess → Present H r.2.var) ↔
      ¬ (AwaitsConversion H s.var ∧ ConversionFails s) := by
  intro r
  obtain ⟨v, hv⟩ : ∃ v, s.var = v := ⟨s.var, rfl⟩
  rw [hv]
  cases initialState H v with
  | absent =>
      refine iff_of_true
        (present_of_created pcd settings s hwrite (initialize_absent pcd settings hr hv)) ?_
      rintro ⟨⟨m, hm, -⟩, -⟩
      cases hm
  | wrongSize size =>
      obtain ⟨status, -, hcreate⟩ := initialize_wrongSize pcd settings hr hv size
      refine iff_of_true (present_of_created pcd settings s hwrite hcreate) ?_
      exact fun h => not_upgradable_of_size size (Or.inl h.1)
  | @old m signature =>
      have hawaits := awaitsConversion_some.mpr ⟨rfl, signature⟩
      have hconverted := initialize_old_present_iff pcd settings s hwrite hr hv signature
      exact hconverted.trans (not_congr (and_iff_right hawaits).symm)
  | wrongAttributes attributes notOld =>
      refine iff_of_true (present_of_created pcd settings s hwrite
        (initialize_rejected pcd settings hr hv (Or.inl attributes) notOld)) ?_
      rw [awaitsConversion_some]
      rintro ⟨⟨ha, hsig⟩, -⟩
      exact notOld ⟨hsig, ha⟩
  | corrupted signature =>
      refine iff_of_true (present_of_created pcd settings s hwrite
        (initialize_rejected pcd settings hr hv (Or.inr signature)
          (fun h => runtime_ne_attributes H h.2.symm))) ?_
      exact fun h => not_awaitsConversion _ h.1
  | @older m signature version =>
      -- a migration that cannot be written leaves the old version, which is a record
      refine iff_of_true (fun _ => ?_) ?_
      · have holder : r = _ := initialize_older pcd settings hr hv signature version
        show Present H r.2.var
        rw [holder]
        rcases setVariable_record (s := { s with readFaults := s.readFaults.tail }) hwrite
          (migrate H pcd m) with ⟨-, hvar⟩ | ⟨-, hvar⟩
        · rw [hvar]
          exact present_of_signature ((get_signature_migrate pcd m).trans signature)
        · rw [hvar]
          exact hv ▸ present_of_signature signature
      · exact fun h => not_awaitsConversion _ h.1
  | current current =>
      refine iff_of_true (fun _ => ?_) ?_
      · have hcurrent : r = _ := initialize_current pcd settings hr hv current
        show Present H r.2.var
        rw [hcurrent]
        exact hv ▸ present_of_signature current.signature
      · exact fun h => not_awaitsConversion _ h.1

/-- **Success is reported over a lost record exactly when a conversion fails.** Everywhere else an
answer of `EFI_SUCCESS` means that the record is there and that its settings can be set. -/
theorem initialize_success_present_iff
    (hread : ∀ e, some e ∈ s.readFaults → efiError e = true) :
    let r := initializeNvVariable H pcd settings s
    (r.1 = efiSuccess → Present H r.2.var ∧ AcceptsSets H r.2.var) ↔
      ¬ (s.readFaults.head?.join = none ∧ AwaitsConversion H s.var ∧ ConversionFails s) := by
  intro r
  have hsets : (r.1 = efiSuccess → Present H r.2.var ∧ AcceptsSets H r.2.var) ↔
      (r.1 = efiSuccess → Present H r.2.var) :=
    ⟨fun h hok => (h hok).1, fun h hok => ⟨h hok, acceptsSets_of_present (h hok)⟩⟩
  rw [hsets]
  cases hr : s.readFaults.head?.join with
  | some e =>
      have hunread := initialize_unread pcd settings hr (hread e (mem_of_fault hr))
      refine iff_of_true (present_of_created pcd settings s hwrite hunread) ?_
      rintro ⟨hnone, -⟩
      cases hnone
  | none =>
      have hanswered := initialize_answered_present_iff pcd settings s hwrite hr
      simp only [true_and]
      exact hanswered

end Success

/-- The old record as its firmware left it: run-time access, the old signature. -/
def oldRecord : Variable :=
  ⟨packedH.attributes ||| efiVariableRuntimeAccess, [1, 0, 0, 0, 1, 1, 0, 0, 0, 0]⟩

/-- Converted on a machine that never fails, the old record stays a record. -/
theorem initialize_success_present_iff_reliable :
    let r := initializeNvVariable packedH ⟨1, 0, 0, 1, 0⟩ (Layout.Image.zero packedH.layout)
      (.reliable (some oldRecord))
    r.1 = efiSuccess → Present packedH r.2.var ∧ AcceptsSets packedH r.2.var := by
  have hnone : ∀ e, some e ∈ ([] : List (Option EfiStatus)) → efiError e = true :=
    fun e he => absurd he List.not_mem_nil
  refine (initialize_success_present_iff ⟨1, 0, 0, 1, 0⟩ (Layout.Image.zero packedH.layout)
    (.reliable (some oldRecord)) hnone hnone).mpr ?_
  rintro ⟨-, -, hdelete | hwrite⟩
  · exact hdelete rfl
  · exact hwrite rfl

/-- The old record is deleted, the write that should follow finds no room: `EFI_SUCCESS`, no
variable, and every Set is refused until the next boot. -/
theorem conversion_loses_record :
    let r := initializeNvVariable packedH ⟨1, 0, 0, 1, 0⟩ (Layout.Image.zero packedH.layout)
      ⟨some oldRecord, [], [none, some efiOutOfResources]⟩
    ¬ (r.1 = efiSuccess → Present packedH r.2.var ∧ AcceptsSets packedH r.2.var) := by
  intro r h
  have hr : r.1 = efiSuccess ∧ r.2.var = none := by decide +kernel
  obtain ⟨⟨m, hm, -⟩, -⟩ := h hr.1
  rw [hr.2] at hm
  cases hm

end OemPkg.Settings
