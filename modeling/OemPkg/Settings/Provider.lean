/-
# OemPkg.Settings.Provider — the settings as DFCI meets them

The settings manager never calls GetBootManagerSetting itself. It calls the four functions of a
DFCI_SETTING_PROVIDER (`MsBootManagerSettingsDxeLib/BootManagerSettings.c`), which check their
pointers and sizes, take the setting from `This->Id` and go on to the functions of
`Settings.BootManagerSettings`.

`provider_refines` is the whole interface against five registers with defaults: it predicts every
answer, malformed calls and unknown settings included, over every run of calls and boots.
-/
import OemPkg.Settings.Registers

namespace OemPkg.Settings

open OemPkg.Lib OemPkg.Uefi

/-! ## The four functions -/

/-- The arguments of a provider's Set. A NULL pointer is `none`. -/
structure ProviderSetCall where
  this : Option DfciSettingId
  valueSize : Nat
  value : Option UInt8
  flags : Option DfciSettingFlags

/-- The arguments of a provider's Get and GetDefault. -/
structure ProviderGetCall where
  this : Option DfciSettingId
  valueSize : Option Nat
  valueNull : Bool

section Functions

variable (H : MsBootManagerSettingsH) (pcd : BootManagerPcds)

/-- BootManagerSettingsSet: the status, and `*Flags`. -/
def bootManagerSettingsSet (settings : H.Record) (call : ProviderSetCall) (s : VarService) :
    (EfiStatus × Option DfciSettingFlags) × VarService :=
  match call.this, call.value with
  | some id, some value =>
      if call.flags.isSome ∧ call.valueSize = 1 then
        setBootManagerSetting H settings id value call.flags s
      else ((efiInvalidParameter, call.flags), s)
  | _, _ => ((efiInvalidParameter, call.flags), s)

/-- BootManagerSettingsGet: the status, and the value it writes. -/
def bootManagerSettingsGet (settings : H.Record) (call : ProviderGetCall) (s : VarService) :
    (EfiStatus × Option UInt8) × VarService :=
  match call.this with
  | some id =>
      if call.valueNull = false ∧ call.valueSize = some 1 then
        getBootManagerSetting H pcd settings id s
      else ((efiInvalidParameter, none), s)
  | none => ((efiInvalidParameter, none), s)

/-- BootManagerSettingsGetDefault -/
def bootManagerSettingsGetDefault (call : ProviderGetCall) : EfiStatus × Option UInt8 :=
  match call.this with
  | some id =>
      if call.valueNull = false ∧ call.valueSize = some 1 then getBootManagerSettingDefault pcd id
      else (efiInvalidParameter, none)
  | none => (efiInvalidParameter, none)

/-- BootManagerSettingsSetDefault. An unknown setting is an invalid parameter here. -/
def bootManagerSettingsSetDefault (settings : H.Record) (this : Option DfciSettingId)
    (s : VarService) : EfiStatus × VarService :=
  match this with
  | none => (efiInvalidParameter, s)
  | some id =>
      let (status, value) := getBootManagerSettingDefault pcd id
      match value with
      | some value =>
          if efiError status then (efiInvalidParameter, s)
          else
            let ((status, _), s) := setBootManagerSetting H settings id value (some {}) s
            (status, s)
      | none => (efiInvalidParameter, s)

end Functions

/-! ## Runs -/

/-- What happens to the settings through the interface. Each call comes with the platform's defaults
of the moment and with the contents of its uninitialised local. -/
inductive ProviderCall (H : MsBootManagerSettingsH) where
  | boot (pcd : BootManagerPcds) (settings : H.Record)
  | set (call : ProviderSetCall) (settings : H.Record)
  | get (call : ProviderGetCall) (pcd : BootManagerPcds) (settings : H.Record)
  | getDefault (call : ProviderGetCall) (pcd : BootManagerPcds)
  | setDefault (this : Option DfciSettingId) (pcd : BootManagerPcds) (settings : H.Record)

/-- The platform starts, and the constructor of the library runs. -/
def ProviderCall.boots {H : MsBootManagerSettingsH} : ProviderCall H → Bool
  | .boot _ _ => true
  | _ => false

inductive ProviderAnswer where
  | boot
  | set (status : EfiStatus) (flags : Option DfciSettingFlags)
  | value (status : EfiStatus) (value : Option UInt8)
  | status (status : EfiStatus)

/-- The interface over the settings variable. -/
def settingsProvider (H : MsBootManagerSettingsH) :
    Machine (Option Variable) (ProviderCall H) ProviderAnswer where
  step v
    | .boot pcd settings => ((initializeNvVariable H pcd settings (.reliable v)).2.var, .boot)
    | .set call settings =>
        let ((status, flags), s) := bootManagerSettingsSet H settings call (.reliable v)
        (s.var, .set status flags)
    | .get call pcd settings =>
        let ((status, value), s) := bootManagerSettingsGet H pcd settings call (.reliable v)
        (s.var, .value status value)
    | .getDefault call pcd =>
        let (status, value) := bootManagerSettingsGetDefault pcd call
        (v, .value status value)
    | .setDefault this pcd settings =>
        let (status, s) := bootManagerSettingsSetDefault H pcd settings this (.reliable v)
        (s.var, .status status)

/-! ## Five registers with defaults -/

/-- The default of a setting. -/
def BootManagerPcds.default (pcd : BootManagerPcds) : BootSetting → UInt8
  | .ipv6 => pcd.enableIPv6Boot
  | .altBoot => pcd.enableAltBoot
  | .bootOrderLock => pcd.enableBootOrderLock
  | .enableUsbBoot => pcd.enableUsbBoot
  | .startNetwork => pcd.startNetwork

/-- The setting and the value of a Set that is well formed. -/
def ProviderSetCall.request (call : ProviderSetCall) :
    Option (DfciSettingId × UInt8 × DfciSettingFlags) :=
  match call.this, call.value, call.flags with
  | some id, some value, some flags =>
      if call.valueSize = 1 then some (id, value, flags) else none
  | _, _, _ => none

/-- The setting a well-formed Get asks for. -/
def ProviderGetCall.request (call : ProviderGetCall) : Option DfciSettingId :=
  if call.valueNull = false ∧ call.valueSize = some 1 then call.this else none

/-- What a Get answers, when setting `b` has the value `value b`. -/
def answerGet (value : BootSetting → UInt8) : Option DfciSettingId → ProviderAnswer
  | none => .value efiInvalidParameter none
  | some (.other _) => .value efiUnsupported none
  | some (.boot b) => .value efiSuccess (some (value b))

/-- **The interface as its callers understand it**: five registers, each with a default. -/
def registersWithDefaults (H : MsBootManagerSettingsH) :
    Machine (BootSetting → UInt8) (ProviderCall H) ProviderAnswer where
  step regs
    | .boot _ _ => (regs, .boot)
    | .set call _ =>
        match call.request with
        | none => (regs, .set efiInvalidParameter call.flags)
        | some (.other _, _, flags) => (regs, .set efiUnsupported (some flags))
        | some (.boot b, value, flags) =>
            (Function.update regs b value,
              .set efiSuccess (some (if regs b = value then { alreadySet := true } else flags)))
    | .get call _ _ => (regs, answerGet regs call.request)
    | .getDefault call pcd => (regs, answerGet pcd.default call.request)
    | .setDefault (some (.boot b)) pcd _ =>
        (Function.update regs b (pcd.default b), .status efiSuccess)
    | .setDefault _ _ _ => (regs, .status efiInvalidParameter)

/-! ## The refinement -/

variable {H : MsBootManagerSettingsH}

/-- The flags a Set of a setting reports. -/
theorem set_flags_of_holds (settings : H.Record) {v : Option Variable} {regs : BootSetting → UInt8}
    (h : Holds H v regs) (b : BootSetting) (value : UInt8) (flags : DfciSettingFlags) :
    (setBootManagerSetting H settings (.boot b) value (some flags) (.reliable v)).1.2 =
      some (if regs b = value then { alreadySet := true } else flags) := by
  obtain ⟨m, rfl, -, rfl⟩ := h
  obtain ⟨hread, hcopy⟩ := getVariable_of_current settings m
  unfold setBootManagerSetting
  simp only [hread, hcopy, efiError_success, Bool.false_eq_true, if_false]
  by_cases hsame : H.value m b = value
  · rw [if_neg (not_not.mpr hsame), if_pos hsame]
  · rw [if_pos hsame, if_neg hsame]

theorem getDefault_boot (pcd : BootManagerPcds) (b : BootSetting) :
    getBootManagerSettingDefault pcd (.boot b) = (efiSuccess, some (pcd.default b)) := by
  cases b <;> rfl

/-- What Set does, by whether the call is well formed. -/
theorem bootManagerSettingsSet_eq (settings : H.Record) (call : ProviderSetCall) (s : VarService) :
    bootManagerSettingsSet H settings call s =
      match call.request with
      | none => ((efiInvalidParameter, call.flags), s)
      | some (id, value, flags) => setBootManagerSetting H settings id value (some flags) s := by
  obtain ⟨this, valueSize, value, flags⟩ := call
  unfold bootManagerSettingsSet ProviderSetCall.request
  cases this with
  | none => rfl
  | some id =>
      cases value with
      | none => rfl
      | some value =>
          cases flags with
          | none => rfl
          | some flags =>
              by_cases hsize : valueSize = 1
              · simp only [Option.isSome_some, hsize, and_self, if_true]
              · simp only [hsize, and_false, if_false]

/-- What Get does, by whether the call is well formed. -/
theorem bootManagerSettingsGet_eq (pcd : BootManagerPcds) (settings : H.Record)
    (call : ProviderGetCall) (s : VarService) :
    bootManagerSettingsGet H pcd settings call s =
      match call.request with
      | none => ((efiInvalidParameter, none), s)
      | some id => getBootManagerSetting H pcd settings id s := by
  obtain ⟨this, valueSize, valueNull⟩ := call
  unfold bootManagerSettingsGet ProviderGetCall.request
  cases this with
  | none => simp only [ite_self]
  | some id => split_ifs <;> rfl

theorem bootManagerSettingsGetDefault_eq (pcd : BootManagerPcds) (call : ProviderGetCall) :
    bootManagerSettingsGetDefault pcd call =
      match call.request with
      | none => (efiInvalidParameter, none)
      | some id => getBootManagerSettingDefault pcd id := by
  obtain ⟨this, valueSize, valueNull⟩ := call
  unfold bootManagerSettingsGetDefault ProviderGetCall.request
  cases this with
  | none => simp only [ite_self]
  | some id => split_ifs <;> rfl

section Operations

variable (settings : H.Record) {v : Option Variable} {regs : BootSetting → UInt8}
  (h : Holds H v regs)
include h

/-- **Set** changes its register, and says whether it had to. -/
theorem providerSet_of_holds (call : ProviderSetCall) :
    Holds H ((settingsProvider H).step v (.set call settings)).1
        ((registersWithDefaults H).step regs (.set call settings)).1 ∧
      ((settingsProvider H).step v (.set call settings)).2 =
        ((registersWithDefaults H).step regs (.set call settings)).2 := by
  dsimp only [settingsProvider, registersWithDefaults]
  rw [bootManagerSettingsSet_eq]
  cases hrequest : call.request with
  | none => exact ⟨h, rfl⟩
  | some request =>
      obtain ⟨id, value, flags⟩ := request
      cases id with
      | other id => exact ⟨h, rfl⟩
      | boot b =>
          obtain ⟨hstatus, -, hholds⟩ := set_of_holds settings h b value flags
          have hflags := set_flags_of_holds settings h b value flags
          refine ⟨hholds, ?_⟩
          dsimp only
          rw [hstatus, hflags]

/-- **Get** answers with its register. -/
theorem providerGet_of_holds (call : ProviderGetCall) (pcd : BootManagerPcds) :
    (settingsProvider H).step v (.get call pcd settings) =
      (v, answerGet regs call.request) := by
  dsimp only [settingsProvider]
  rw [bootManagerSettingsGet_eq]
  cases call.request with
  | none => rfl
  | some id =>
      cases id with
      | other id => rfl
      | boot b =>
          dsimp only
          rw [get_of_holds pcd settings h b]
          rfl

omit h in
/-- **GetDefault** answers with the default, whatever is stored. -/
theorem providerGetDefault_eq (call : ProviderGetCall) (pcd : BootManagerPcds) :
    (settingsProvider H).step v (.getDefault call pcd) =
      (v, answerGet pcd.default call.request) := by
  dsimp only [settingsProvider]
  rw [bootManagerSettingsGetDefault_eq]
  cases call.request with
  | none => rfl
  | some id =>
      cases id with
      | other id => rfl
      | boot b =>
          dsimp only
          rw [getDefault_boot]
          rfl

/-- **SetDefault** puts the default in the register. -/
theorem providerSetDefault_of_holds (this : Option DfciSettingId) (pcd : BootManagerPcds) :
    Holds H ((settingsProvider H).step v (.setDefault this pcd settings)).1
        ((registersWithDefaults H).step regs (.setDefault this pcd settings)).1 ∧
      ((settingsProvider H).step v (.setDefault this pcd settings)).2 =
        ((registersWithDefaults H).step regs (.setDefault this pcd settings)).2 := by
  cases this with
  | none => exact ⟨h, rfl⟩
  | some id =>
      cases id with
      | other id => exact ⟨h, rfl⟩
      | boot b =>
          -- SetDefault is a Set of the default, with flags of its own
          obtain ⟨hstatus, -, hholds⟩ := set_of_holds settings h b (pcd.default b) {}
          dsimp only [settingsProvider, registersWithDefaults, bootManagerSettingsSetDefault]
          rw [getDefault_boot]
          simp only [efiError_success, Bool.false_eq_true, if_false]
          exact ⟨hholds, by rw [hstatus]⟩

end Operations

/-- **The settings variable behaves as five registers with defaults**, call by call. -/
theorem settingsProvider_simulates (H : MsBootManagerSettingsH) :
    (settingsProvider H).Simulates (registersWithDefaults H) id id (Holds H) where
  step := by
    intro v regs call h
    cases call with
    | boot pcd settings =>
        show Holds H (initializeNvVariable H pcd settings (.reliable v)).2.var regs
        rw [initialize_of_holds pcd settings h]
        exact h
    | set call settings => exact (providerSet_of_holds settings h call).1
    | get call pcd settings =>
        rw [providerGet_of_holds settings h call pcd]
        exact h
    | getDefault call pcd => exact h
    | setDefault this pcd settings => exact (providerSetDefault_of_holds settings h this pcd).1
  answer := by
    intro v regs call h
    cases call with
    | boot pcd settings => rfl
    | set call settings => exact (providerSet_of_holds settings h call).2
    | get call pcd settings =>
        exact congrArg Prod.snd (providerGet_of_holds settings h call pcd)
    | getDefault call pcd => exact congrArg Prod.snd (providerGetDefault_eq call pcd)
    | setDefault this pcd settings => exact (providerSetDefault_of_holds settings h this pcd).2

/-- The record of defaults holds every default. -/
theorem value_defaultRecord (pcd : BootManagerPcds) :
    H.value (defaultRecord H pcd) = pcd.default := by
  funext b
  unfold defaultRecord
  cases b with
  | startNetwork => exact value_set_self _ _ _
  | enableUsbBoot =>
      rw [value_set_ne _ _ (by decide)]
      exact value_set_self _ _ _
  | bootOrderLock =>
      rw [value_set_ne _ _ (by decide), value_set_ne _ _ (by decide)]
      exact value_set_self _ _ _
  | altBoot =>
      rw [value_set_ne _ _ (by decide), value_set_ne _ _ (by decide), value_set_ne _ _ (by decide)]
      exact value_set_self _ _ _
  | ipv6 =>
      rw [value_set_ne _ _ (by decide), value_set_ne _ _ (by decide), value_set_ne _ _ (by decide),
        value_set_ne _ _ (by decide)]
      exact value_set_self _ _ _

/-- A first boot stores the defaults. -/
theorem initialize_blank (pcd : BootManagerPcds) (settings : H.Record) :
    Holds H (initializeNvVariable H pcd settings (.reliable none)).2.var pcd.default := by
  have hcreated : initializeNvVariable H pcd settings (.reliable none) =
      createNvVariable H pcd efiNotFound (.reliable none) := by
    unfold initializeNvVariable
    simp only [VarService.getVariable_reliable, readVariable_none, efiError_notFound, if_true]
  rw [hcreated, createNvVariable_reliable pcd fun _ => rfl, ← value_defaultRecord]
  exact holds_of_current (current_defaultRecord pcd)

/-- The values that the first boot over `v` establishes: the defaults if there was no variable, and
what a current record held. -/
structure Establishes (H : MsBootManagerSettingsH) (pcd : BootManagerPcds) (v : Option Variable)
    (established : BootSetting → UInt8) : Prop where
  absent : v = none → established = pcd.default
  current : ∀ regs, Holds H v regs → established = regs

theorem Holds.unique {v : Option Variable} {regs regs' : BootSetting → UInt8} (h : Holds H v regs)
    (h' : Holds H v regs') : regs = regs' := by
  obtain ⟨m, rfl, -, rfl⟩ := h
  obtain ⟨m', hv, -, rfl⟩ := h'
  have hbytes : m.bytes = m'.bytes := congrArg Variable.data (Option.some.inj hv)
  rw [Layout.Image.ext hbytes]

/-- After the first boot the variable holds what that has established. -/
theorem initialize_holds (pcd : BootManagerPcds) (settings : H.Record) (v : Option Variable) :
    ∃ established : BootSetting → UInt8, Establishes H pcd v established ∧
      Holds H (initializeNvVariable H pcd settings (.reliable v)).2.var established := by
  cases v with
  | none =>
      have hno : ∀ regs, ¬ Holds H none regs := by
        rintro regs ⟨m, hv, -⟩
        cases hv
      exact ⟨pcd.default, ⟨fun _ => rfl, fun regs h => absurd h (hno regs)⟩,
        initialize_blank pcd settings⟩
  | some v =>
      obtain ⟨established, hfirst⟩ := initialize_establishes pcd settings (some v)
      refine ⟨established, ⟨fun h => (nomatch h), fun regs hregs => ?_⟩, hfirst⟩
      -- a current record is not touched
      rw [initialize_of_holds pcd settings hregs] at hfirst
      exact hfirst.unique hregs

/-- **The provider interface.** Start with any variable. After the first boot every setting has an
established value, and from then on, over every run of boots and of calls of the four functions,
well formed or not, each answer is the one five registers with defaults would give. -/
theorem provider_refines (H : MsBootManagerSettingsH) (v : Option Variable) (pcd : BootManagerPcds)
    (settings : H.Record) :
    ∃ established : BootSetting → UInt8, Establishes H pcd v established ∧
      ∀ calls : List (ProviderCall H),
        (settingsProvider H).answers
            (initializeNvVariable H pcd settings (.reliable v)).2.var calls =
          (registersWithDefaults H).answers established calls := by
  obtain ⟨established, hestablishes, hfirst⟩ := initialize_holds pcd settings v
  refine ⟨established, hestablishes, fun calls => ?_⟩
  have hrun := (settingsProvider_simulates H).answers calls hfirst
  rwa [List.map_id, List.map_id] at hrun

end OemPkg.Settings
