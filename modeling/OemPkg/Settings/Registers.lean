/-
# OemPkg.Settings.Registers — the settings record refines five registers

What the boot-manager settings are for: five registers, each of which reads back the last value set
for it, whatever boots and other settings come in between (`Lib.registerFile`). The record in flash
is one image that every boot re-validates and every Set rewrites whole, so the refinement rests on
what a record must look like for a boot to leave it alone: present with the current attributes, size
and signature, and with no version that still waits for a migration (`Holds`). Whatever the variable
contains, the first boot establishes such a record (`initialize_establishes`); from then on a boot
is a no-op (`initialize_of_holds`) and a Set changes one register (`set_of_holds`).
-/
import OemPkg.Lib.Machine
import OemPkg.Settings.BootManagerSettings

namespace OemPkg.Settings

open OemPkg.Lib OemPkg.Uefi

variable {H : MsBootManagerSettingsH}

/-! ## What the header guarantees about writing a record -/

theorem validAttributes_record (H : MsBootManagerSettingsH) :
    validAttributes H.attributes = true := by
  simp [validAttributes, H.attributes_not_runtime]

theorem hasAccess_record (H : MsBootManagerSettingsH) : hasAccess H.attributes = true := by
  have hboot := H.attributes_boot
  simp only [hasAccess, bne_iff_ne, ne_eq]
  intro h
  apply hboot
  have hand := congrArg (· &&& efiVariableBootserviceAccess) h
  simp only [efiVariableBootserviceAccess, efiVariableRuntimeAccess] at hand ⊢
  rw [BitVec.and_assoc] at hand
  simpa using hand

theorem record_ne_nil (m : H.Record) : m.bytes ≠ [] := by
  intro h
  have hlen := m.length_bytes
  have hfits := H.layout.fits (.setting .ipv6)
  rw [H.width_setting] at hfits
  rw [h, List.length_nil] at hlen
  omega

theorem write_record_none (m : H.Record) :
    writeVariable none H.attributes m.bytes = (efiSuccess, some ⟨H.attributes, m.bytes⟩) :=
  writeVariable_create (validAttributes_record H) (hasAccess_record H) (record_ne_nil m)

theorem write_record_some (m : H.Record) (data : Bytes) :
    writeVariable (some ⟨H.attributes, data⟩) H.attributes m.bytes =
      (efiSuccess, some ⟨H.attributes, m.bytes⟩) :=
  writeVariable_rewrite (validAttributes_record H) (hasAccess_record H) (record_ne_nil m) rfl

theorem read_record (m : H.Record) :
    readVariable (some ⟨H.attributes, m.bytes⟩) H.layout.size =
      ⟨efiSuccess, H.layout.size, some H.attributes, m.bytes⟩ := by
  rw [readVariable_fits (by simp only [m.length_bytes, le_refl])]
  simp only [m.length_bytes]

theorem value_set_self (m : H.Record) (b : BootSetting) (v : UInt8) :
    H.value (m.set (.setting b) v.toNat) b = v := by
  have hfit : v.toNat < 256 ^ H.layout.width (.setting b) := by
    rw [H.width_setting, Nat.pow_one]
    exact v.toNat_lt
  rw [MsBootManagerSettingsH.value, Layout.Image.get_set_self hfit, UInt8.ofNat_toNat]

theorem value_set_ne (m : H.Record) {b : BootSetting} {f : SettingsField} (n : Nat)
    (h : f ≠ .setting b) : H.value (m.set f n) b = H.value m b := by
  rw [MsBootManagerSettingsH.value, Layout.Image.get_set_ne h, MsBootManagerSettingsH.value]

/-! ## The record a boot leaves alone -/

/-- A record no boot has anything to do to: the current signature, and no version that a migration
would still upgrade. (Version 0, which `defaultRecord` leaves behind, is such a version.) -/
structure Current (m : H.Record) : Prop where
  signature : m.get .signature = H.signature
  version : ¬ (H.version1 ≤ m.get .version ∧ m.get .version < H.version3)

/-- The variable holds a current record whose settings are `regs`. -/
def Holds (H : MsBootManagerSettingsH) (v : Option Variable) (regs : BootSetting → UInt8) : Prop :=
  ∃ m : H.Record, v = some ⟨H.attributes, m.bytes⟩ ∧ Current m ∧ regs = H.value m

@[simp] theorem get_signature_convertOld (pcd : BootManagerPcds) (m : H.Record) :
    (convertOld H pcd m).get .signature = H.signature := by
  simp only [convertOld]
  rw [Layout.Image.get_set_ne (by simp), Layout.Image.get_set_ne (by simp),
    Layout.Image.get_set_ne (by simp), Layout.Image.get_set_ne (by simp),
    Layout.Image.get_set_self H.signature_fits]

@[simp] theorem get_version_convertOld (pcd : BootManagerPcds) (m : H.Record) :
    (convertOld H pcd m).get .version = H.version3 := by
  rw [convertOld, Layout.Image.get_set_self H.version3_fits]

@[simp] theorem get_signature_migrate (pcd : BootManagerPcds) (m : H.Record) :
    (migrate H pcd m).get .signature = m.get .signature := by
  simp only [migrate]
  rw [Layout.Image.get_set_ne (by simp)]
  split_ifs <;> simp only [Layout.Image.get_set_ne, ne_eq, reduceCtorEq, not_false_eq_true]

@[simp] theorem get_version_migrate (pcd : BootManagerPcds) (m : H.Record) :
    (migrate H pcd m).get .version = H.version3 := by
  rw [migrate, Layout.Image.get_set_self H.version3_fits]

@[simp] theorem get_signature_defaultRecord (pcd : BootManagerPcds) :
    (defaultRecord H pcd).get .signature = H.signature := by
  simp only [defaultRecord]
  rw [Layout.Image.get_set_ne (by simp), Layout.Image.get_set_ne (by simp),
    Layout.Image.get_set_ne (by simp), Layout.Image.get_set_ne (by simp),
    Layout.Image.get_set_ne (by simp), Layout.Image.get_set_self H.signature_fits]

@[simp] theorem get_version_defaultRecord (pcd : BootManagerPcds) :
    (defaultRecord H pcd).get .version = 0 := by
  simp only [defaultRecord]
  rw [Layout.Image.get_set_ne (by simp), Layout.Image.get_set_ne (by simp),
    Layout.Image.get_set_ne (by simp), Layout.Image.get_set_ne (by simp),
    Layout.Image.get_set_ne (by simp), Layout.Image.get_set_ne (by simp),
    Layout.Image.get_zero]

theorem current_convertOld (pcd : BootManagerPcds) (m : H.Record) :
    Current (convertOld H pcd m) where
  signature := get_signature_convertOld pcd m
  version := by rw [get_version_convertOld]; omega

theorem current_migrate (pcd : BootManagerPcds) {m : H.Record}
    (h : m.get .signature = H.signature) : Current (migrate H pcd m) where
  signature := (get_signature_migrate pcd m).trans h
  version := by rw [get_version_migrate]; omega

theorem current_defaultRecord (pcd : BootManagerPcds) : Current (defaultRecord H pcd) where
  signature := get_signature_defaultRecord pcd
  version := by
    rw [get_version_defaultRecord]
    have := H.version1_pos
    omega

theorem current_set {m : H.Record} (h : Current m) (b : BootSetting) (n : Nat) :
    Current (m.set (.setting b) n) where
  signature := by rw [Layout.Image.get_set_ne (by simp), h.signature]
  version := by rw [Layout.Image.get_set_ne (by simp)]; exact h.version

theorem holds_of_current {m : H.Record} (h : Current m) :
    Holds H (some ⟨H.attributes, m.bytes⟩) (H.value m) :=
  ⟨m, rfl, h, rfl⟩

/-! ## One lemma per operation -/

/-- Step 3 with no call failing: the record of defaults is written. -/
theorem createNvVariable_reliable (pcd : BootManagerPcds) {status : EfiStatus}
    {v : Option Variable} (h : status = efiNotFound → v = none) :
    createNvVariable H pcd status (.reliable v) =
      (efiSuccess, .reliable (some ⟨H.attributes, (defaultRecord H pcd).bytes⟩)) := by
  unfold createNvVariable
  by_cases hs : status = efiNotFound
  · simp only [hs, ne_eq, not_true_eq_false, if_false, h hs, VarService.setVariable_reliable,
      write_record_none]
  · simp only [hs, ne_eq, not_false_eq_true, if_true, VarService.setVariable_reliable,
      writeVariable_delete, write_record_none]

/-- Step 3 always ends with a current record. -/
theorem createNvVariable_establishes (pcd : BootManagerPcds) {status : EfiStatus}
    {v : Option Variable} (h : status = efiNotFound → v = none) :
    ∃ regs, Holds H (createNvVariable H pcd status (.reliable v)).2.var regs := by
  rw [createNvVariable_reliable pcd h]
  exact ⟨_, holds_of_current (current_defaultRecord pcd)⟩

/-- What step 2 does with a variable of any contents: it asks for a new record, or the variable
holds a current one. -/
theorem validateNvVariable_cases (pcd : BootManagerPcds) (m : H.Record) (v : Variable)
    (hsome : v.data.length = H.layout.size → m.bytes = v.data) :
    let r := validateNvVariable H pcd ⟨efiSuccess, v.data.length, some v.attributes, v.data⟩ m
      (.reliable (some v))
    r = (efiCompromisedData, .reliable (some v)) ∨
      r.1 = efiSuccess ∧ ∃ regs, Holds H r.2.var regs := by
  intro r
  by_cases hsize : v.data.length ≠ H.layout.size
  · exact Or.inl (if_pos hsize)
  have hbytes := hsome (not_not.mp hsize)
  have hr : r = _ := if_neg hsize
  by_cases hold : m.get .signature = H.signatureOld ∧
      some v.attributes = some (H.attributes ||| efiVariableRuntimeAccess)
  · -- converted: deleted, then written with the current attributes
    right
    rw [hr, if_pos hold]
    simp only [VarService.setVariable_reliable, writeVariable_delete, write_record_none,
      efiError_success, Bool.false_eq_true, if_false, VarService.reliable_var, true_and]
    exact ⟨_, holds_of_current (current_convertOld pcd m)⟩
  by_cases hattr : some v.attributes ≠ some H.attributes
  · left
    rw [hr, if_neg hold, if_pos hattr]
  have hv : v = ⟨H.attributes, m.bytes⟩ := by
    cases v
    simp only [ne_eq, not_not, Option.some.injEq] at hattr
    simp only [hattr, hbytes]
  by_cases hsig : m.get .signature ≠ H.signature
  · left
    rw [hr, if_neg hold, if_neg hattr, if_pos hsig]
  right
  by_cases hver : H.version1 ≤ m.get .version ∧ m.get .version < H.version3
  · -- migrated: rewritten in place
    rw [hr, if_neg hold, if_neg hattr, if_neg hsig, if_pos hver, hv]
    simp only [VarService.setVariable_reliable, write_record_some, efiError_success,
      Bool.false_eq_true, if_false, VarService.reliable_var, true_and]
    exact ⟨_, holds_of_current (current_migrate pcd (not_not.mp hsig))⟩
  · rw [hr, if_neg hold, if_neg hattr, if_neg hsig, if_neg hver, hv]
    exact ⟨rfl, _, holds_of_current ⟨not_not.mp hsig, hver⟩⟩

theorem copyIn_of_length (settings : H.Record) {data : Bytes} (h : data.length = H.layout.size) :
    settings.copyIn data = ⟨data, h⟩ :=
  Layout.Image.copyIn_self settings ⟨data, h⟩

/-- **Whatever the variable contains, a boot leaves a current record.** -/
theorem initialize_establishes (pcd : BootManagerPcds) (settings : H.Record)
    (v : Option Variable) :
    ∃ regs, Holds H (initializeNvVariable H pcd settings (.reliable v)).2.var regs := by
  unfold initializeNvVariable
  cases v with
  | none =>
      simpa using createNvVariable_establishes pcd (fun _ => rfl)
  | some v =>
      by_cases hfit : v.data.length ≤ H.layout.size
      · simp only [VarService.getVariable_reliable, readVariable_fits hfit, efiError_success,
          Bool.false_eq_true, if_false]
        have hsome : v.data.length = H.layout.size →
            (settings.copyIn v.data).bytes = v.data := by
          intro h
          rw [copyIn_of_length settings h]
        rcases validateNvVariable_cases pcd (settings.copyIn v.data) v hsome with h | ⟨hok, hheld⟩
        · rw [h]
          simp only [efiError_compromisedData, if_true]
          exact createNvVariable_establishes pcd (by simp)
        · simp only [hok, efiError_success, Bool.false_eq_true, if_false]
          exact hheld
      · simp only [VarService.getVariable_reliable, readVariable_large hfit,
          efiError_bufferTooSmall, if_true]
        exact createNvVariable_establishes pcd (by simp)

/-- What every operation reads from a current record. -/
theorem getVariable_of_current (settings m : H.Record) :
    ((VarService.reliable (some ⟨H.attributes, m.bytes⟩)).getVariable H.layout.size =
        (⟨efiSuccess, H.layout.size, some H.attributes, m.bytes⟩,
          .reliable (some ⟨H.attributes, m.bytes⟩))) ∧
      settings.copyIn m.bytes = m := by
  refine ⟨?_, Layout.Image.copyIn_self settings m⟩
  rw [VarService.getVariable_reliable, read_record]

/-- **A boot leaves a current record alone.** -/
theorem initialize_of_holds (pcd : BootManagerPcds) (settings : H.Record) {v : Option Variable}
    {regs : BootSetting → UInt8} (h : Holds H v regs) :
    initializeNvVariable H pcd settings (.reliable v) = (efiSuccess, .reliable v) := by
  obtain ⟨m, rfl, hcur, -⟩ := h
  obtain ⟨hread, hcopy⟩ := getVariable_of_current settings m
  have hold : ¬ (m.get .signature = H.signatureOld ∧
      some H.attributes = some (H.attributes ||| efiVariableRuntimeAccess)) := by
    rintro ⟨hsig, -⟩
    exact H.signature_ne (hcur.signature.symm.trans hsig)
  have hvalid : validateNvVariable H pcd ⟨efiSuccess, H.layout.size, some H.attributes, m.bytes⟩ m
      (.reliable (some ⟨H.attributes, m.bytes⟩)) =
        (efiSuccess, .reliable (some ⟨H.attributes, m.bytes⟩)) := by
    unfold validateNvVariable
    rw [if_neg (not_not.mpr rfl), if_neg hold, if_neg (not_not.mpr rfl),
      if_neg (not_not.mpr hcur.signature), if_neg hcur.version]
  unfold initializeNvVariable
  simp only [hread, hcopy, efiError_success, Bool.false_eq_true, if_false, hvalid]

/-- **A Get answers with the setting's register.** -/
theorem get_of_holds (pcd : BootManagerPcds) (settings : H.Record) {v : Option Variable}
    {regs : BootSetting → UInt8} (h : Holds H v regs) (b : BootSetting) :
    getBootManagerSetting H pcd settings (.boot b) (.reliable v) =
      ((efiSuccess, some (regs b)), .reliable v) := by
  obtain ⟨m, rfl, -, rfl⟩ := h
  obtain ⟨hread, hcopy⟩ := getVariable_of_current settings m
  simp only [getBootManagerSetting, hread, hcopy, efiError_success, Bool.false_eq_true, if_false]

/-- **A Set changes the setting's register and no other.** -/
theorem set_of_holds (settings : H.Record) {v : Option Variable} {regs : BootSetting → UInt8}
    (h : Holds H v regs) (b : BootSetting) (value : UInt8) (flags : DfciSettingFlags) :
    let r := setBootManagerSetting H settings (.boot b) value (some flags) (.reliable v)
    r.1.1 = efiSuccess ∧ r.2 = .reliable r.2.var ∧
      Holds H r.2.var (Function.update regs b value) := by
  obtain ⟨m, rfl, hcur, rfl⟩ := h
  obtain ⟨hread, hcopy⟩ := getVariable_of_current settings m
  intro r
  by_cases hchanged : H.value m b ≠ value
  · have hr : r = ((efiSuccess, some flags),
        .reliable (some ⟨H.attributes, (m.set (.setting b) value.toNat).bytes⟩)) := by
      simp only [r, setBootManagerSetting, hread, hcopy, efiError_success, Bool.false_eq_true,
        if_false, if_pos hchanged, VarService.setVariable_reliable, write_record_some]
    rw [hr]
    refine ⟨rfl, rfl, m.set (.setting b) value.toNat, rfl, current_set hcur b _, ?_⟩
    show Function.update (H.value m) b value = H.value (m.set (.setting b) value.toNat)
    funext b'
    by_cases hb : b' = b
    · subst hb
      rw [Function.update_self, value_set_self]
    · rw [Function.update_of_ne hb, value_set_ne]
      simpa using fun e => hb e.symm
  · have hr : r = ((efiSuccess, some { alreadySet := true }),
        .reliable (some ⟨H.attributes, m.bytes⟩)) := by
      simp only [r, setBootManagerSetting, hread, hcopy, efiError_success, Bool.false_eq_true,
        if_false, if_neg hchanged]
    rw [hr]
    refine ⟨rfl, rfl, m, rfl, hcur, ?_⟩
    show Function.update (H.value m) b value = H.value m
    rw [← not_not.mp hchanged, Function.update_eq_self]

/-! ## Runs -/

/-- What happens to the settings after the first boot: later boots, Sets and Gets. Each comes with
the platform defaults of the moment and with the contents of its uninitialised local. -/
inductive SettingsRequest (H : MsBootManagerSettingsH) where
  | boot (pcd : BootManagerPcds) (settings : H.Record)
  | set (b : BootSetting) (value : UInt8) (flags : DfciSettingFlags) (settings : H.Record)
  | get (b : BootSetting) (pcd : BootManagerPcds) (settings : H.Record)

/-- The register a request is about. -/
def SettingsRequest.toRegister : SettingsRequest H → RegisterRequest BootSetting UInt8
  | .boot _ _ => .idle
  | .set b value _ _ => .write b value
  | .get b _ _ => .read b

/-- The settings variable as a component: its answers are the values Gets write. The variable is
non-volatile, so that a boot starts from what the last one left. -/
def settingsMachine (H : MsBootManagerSettingsH) :
    Machine (Option Variable) (SettingsRequest H) (Option UInt8) where
  step v
    | .boot pcd settings => ((initializeNvVariable H pcd settings (.reliable v)).2.var, none)
    | .set b value flags settings =>
        ((setBootManagerSetting H settings (.boot b) value (some flags) (.reliable v)).2.var, none)
    | .get b pcd settings =>
        let r := getBootManagerSetting H pcd settings (.boot b) (.reliable v)
        (r.2.var, r.1.2)

/-- **The settings variable simulates the register file.** -/
theorem settingsMachine_simulates (H : MsBootManagerSettingsH) :
    (settingsMachine H).Simulates registerFile SettingsRequest.toRegister id (Holds H) where
  step := by
    intro v regs i h
    cases i with
    | boot pcd settings =>
        simpa [settingsMachine, registerFile, SettingsRequest.toRegister,
          initialize_of_holds pcd settings h] using h
    | set b value flags settings => exact (set_of_holds settings h b value flags).2.2
    | get b pcd settings =>
        simpa [settingsMachine, registerFile, SettingsRequest.toRegister,
          get_of_holds pcd settings h] using h
  answer := by
    intro v regs i h
    cases i with
    | boot pcd settings => rfl
    | set b value flags settings => rfl
    | get b pcd settings =>
        simp [settingsMachine, registerFile, SettingsRequest.toRegister,
          get_of_holds pcd settings h]

/-- **Stored settings are registers across boots.** Start with any variable. After the first boot
every setting has an established value, and after any run of boots, Sets and Gets each setting reads
back the last value set for it or, if none was, its established value. -/
theorem settings_registers_across_boots (H : MsBootManagerSettingsH) (v : Option Variable)
    (pcd : BootManagerPcds) (settings : H.Record) :
    let first := (initializeNvVariable H pcd settings (.reliable v)).2.var
    ∃ established : BootSetting → UInt8,
      (∀ b pcd' settings', (getBootManagerSetting H pcd' settings' (.boot b) (.reliable first)).1 =
        (efiSuccess, some (established b))) ∧
      ∀ (rs : List (SettingsRequest H)) (b : BootSetting) (pcd' : BootManagerPcds)
        (settings' : H.Record),
        (getBootManagerSetting H pcd' settings' (.boot b)
            (.reliable ((settingsMachine H).run first rs))).1 =
          (efiSuccess, some ((lastWrite b (rs.map (·.toRegister))).getD (established b))) := by
  intro first
  obtain ⟨established, hfirst⟩ := initialize_establishes pcd settings v
  refine ⟨established, fun b pcd' settings' => ?_, fun rs b pcd' settings' => ?_⟩
  · rw [get_of_holds pcd' settings' hfirst b]
  · have hrun := (settingsMachine_simulates H).run rs hfirst
    rw [get_of_holds pcd' settings' hrun b, registerFile_run]

example :
    let pcd : BootManagerPcds := ⟨1, 0, 0, 1, 0⟩
    let zero := Layout.Image.zero packedH.layout
    let v := (settingsMachine packedH).run none [.boot pcd zero, .set .altBoot 1 {} zero,
      .set .ipv6 0 {} zero, .boot pcd zero]
    (getBootManagerSetting packedH pcd zero (.boot .altBoot) (.reliable v)).1 =
      (efiSuccess, some 1) := by decide +kernel

end OemPkg.Settings
