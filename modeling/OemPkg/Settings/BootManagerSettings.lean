/-
# OemPkg.Settings.BootManagerSettings — the boot-manager settings record in flash

The model of `MsBootManagerSettingsDxeLib/BootManagerSettings.c`: one packed record, holding five
settings behind a signature and a version, kept in a single variable.

* `initializeNvVariable` runs at every boot. It re-validates the record through the cascade of the
  source: wrong size, old signature with run-time access (converted), wrong attributes, wrong
  signature, old version (migrated), and creates a default record when none of it will do;
* `getBootManagerSetting` / `setBootManagerSetting` read one field of the record, or read the whole
  record, change one field and write the whole record back.

The header `MsBootManagerSettings.h` is not part of the repository, so the layout of the record and
its constants are a parameter, `MsBootManagerSettingsH`, with what is known of them as its fields.
The local `Settings` of each function is an uninitialised stack variable in C; here it is an
argument, copied over by what `GetVariable` returns and by nothing else.
-/
import OemPkg.Uefi.Variable

namespace OemPkg.Settings

open OemPkg.Lib OemPkg.Uefi

/-! ## The record -/

/-- The five settings the record holds. -/
inductive BootSetting where
  | ipv6 | altBoot | bootOrderLock | enableUsbBoot | startNetwork
  deriving DecidableEq, Repr

/-- DFCI_SETTING_ID_STRING: the ids IsIdSupported accepts, and any other string. -/
inductive DfciSettingId where
  | boot (b : BootSetting)
  | other (id : String)
  deriving DecidableEq, Repr

/-- DFCI_SETTING_FLAGS as a provider reports them. -/
structure DfciSettingFlags where
  alreadySet : Bool := false
  rebootRequired : Bool := false
  writeAccess : Bool := false
  deriving DecidableEq, Repr

/-- The fields of MS_BOOT_MANAGER_SETTINGS. -/
inductive SettingsField where
  | signature | version
  | setting (b : BootSetting)
  deriving DecidableEq, Repr

/-- `MsBootManagerSettings.h`: the packed record and the constants that go with it. -/
structure MsBootManagerSettingsH where
  layout : Layout SettingsField
  signature : Nat
  signatureOld : Nat
  version1 : Nat
  version2 : Nat
  version3 : Nat
  attributes : Attributes
  /-- every setting is a BOOLEAN -/
  width_setting : ∀ b, layout.width (.setting b) = 1
  signature_fits : signature < 256 ^ layout.width .signature
  version3_fits : version3 < 256 ^ layout.width .version
  version1_pos : 0 < version1
  version1_lt : version1 < version2
  version2_lt : version2 < version3
  signature_ne : signature ≠ signatureOld
  attributes_boot : attributes &&& efiVariableBootserviceAccess ≠ 0#32
  attributes_not_runtime : attributes &&& efiVariableRuntimeAccess = 0#32

/-- The bytes of a record: the local variable `Settings`. -/
abbrev MsBootManagerSettingsH.Record (H : MsBootManagerSettingsH) := H.layout.Image

/-- The platform's defaults, read with PcdGet8. -/
structure BootManagerPcds where
  enableIPv6Boot : UInt8
  enableAltBoot : UInt8
  enableBootOrderLock : UInt8
  enableUsbBoot : UInt8
  startNetwork : UInt8
  deriving DecidableEq, Repr

/-- Where the fields lie when the record is packed in the order of `SettingsField`, with a
four-byte signature and a one-byte version. -/
def packedOffset : SettingsField → Nat
  | .signature => 0
  | .version => 4
  | .setting .ipv6 => 5
  | .setting .altBoot => 6
  | .setting .bootOrderLock => 7
  | .setting .enableUsbBoot => 8
  | .setting .startNetwork => 9

def packedWidth : SettingsField → Nat
  | .signature => 4
  | _ => 1

/-- One header that meets the description: the packed record, versions 1, 2 and 3, attributes
non-volatile and boot-service. -/
def packedH : MsBootManagerSettingsH where
  layout :=
    { size := 10
      offset := packedOffset
      width := packedWidth
      fits := by rintro (_ | _ | _ | _) <;> decide
      disjoint := by
        rintro (_ | _ | (_ | _ | _ | _ | _)) (_ | _ | (_ | _ | _ | _ | _)) h <;>
          first | exact absurd rfl h | decide }
  signature := 2
  signatureOld := 1
  version1 := 1
  version2 := 2
  version3 := 3
  attributes := efiVariableNonVolatile ||| efiVariableBootserviceAccess
  width_setting := fun _ => rfl
  signature_fits := by decide
  version3_fits := by decide
  version1_pos := by decide
  version1_lt := by decide
  version2_lt := by decide
  signature_ne := by decide
  attributes_boot := by decide
  attributes_not_runtime := by decide

/-! ## InitializeNvVariable -/

section Initialize

variable (H : MsBootManagerSettingsH) (pcd : BootManagerPcds)

/-- The old record, brought to the current signature and version. -/
def convertOld (settings : H.Record) : H.Record :=
  ((((settings.set .signature H.signature).set
    (.setting .bootOrderLock) 0).set
    (.setting .enableUsbBoot) pcd.enableUsbBoot.toNat).set
    (.setting .startNetwork) pcd.startNetwork.toNat).set
    .version H.version3

/-- The current record of an older version: the settings that version did not have yet get their
defaults. -/
def migrate (settings : H.Record) : H.Record :=
  let v := settings.get .version
  let settings :=
    if v = H.version1 then settings.set (.setting .enableUsbBoot) pcd.enableUsbBoot.toNat
    else settings
  let settings :=
    if v ≤ H.version2 then settings.set (.setting .startNetwork) pcd.startNetwork.toNat
    else settings
  settings.set .version H.version3

/-- The record of defaults. The source sets no version here: it stays 0. -/
def defaultRecord : H.Record :=
  (((((((Layout.Image.zero H.layout).set
    .signature H.signature).set
    (.setting .ipv6) pcd.enableIPv6Boot.toNat).set
    (.setting .altBoot) pcd.enableAltBoot.toNat).set
    (.setting .bootOrderLock) pcd.enableBootOrderLock.toNat).set
    (.setting .enableUsbBoot) pcd.enableUsbBoot.toNat).set
    (.setting .startNetwork) pcd.startNetwork.toNat)

/-- Step 2: the variable exists and was read as `out` into `settings`. The status it returns says
whether step 3 must make a new record. -/
def validateNvVariable (out : ReadOutcome) (settings : H.Record) (s : VarService) :
    EfiStatus × VarService :=
  if out.dataSize ≠ H.layout.size then
    (efiCompromisedData, s)
  else if settings.get .signature = H.signatureOld ∧
      out.attributes = some (H.attributes ||| efiVariableRuntimeAccess) then
    -- delete it first as it has RT set; a failure to delete or to write is only logged
    let (_, s) := s.setVariable 0#32 []
    let (status, s) := s.setVariable H.attributes (convertOld H pcd settings).bytes
    (if efiError status then efiSuccess else status, s)
  else if out.attributes ≠ some H.attributes then
    (efiCompromisedData, s)
  else if settings.get .signature ≠ H.signature then
    (efiCompromisedData, s)
  else if H.version1 ≤ settings.get .version ∧ settings.get .version < H.version3 then
    let (status, s) := s.setVariable H.attributes (migrate H pcd settings).bytes
    (if efiError status then efiSuccess else status, s)
  else
    (out.status, s)

/-- Step 3: no usable record was found, for the reason `status`. -/
def createNvVariable (status : EfiStatus) (s : VarService) : EfiStatus × VarService :=
  let s := if status ≠ efiNotFound then (s.setVariable 0#32 []).2 else s
  s.setVariable H.attributes (defaultRecord H pcd).bytes

/-- InitializeNvVariable, with `settings` the contents of the uninitialised local. -/
def initializeNvVariable (settings : H.Record) (s : VarService) : EfiStatus × VarService :=
  let (out, s) := s.getVariable H.layout.size
  let (status, s) :=
    if efiError out.status then (out.status, s)
    else validateNvVariable H pcd out (settings.copyIn out.data) s
  if efiError status then createNvVariable H pcd status s else (status, s)

end Initialize

/-! ## Get and Set -/

/-- GetBootManagerSettingDefault: the status, and the value if one is written. -/
def getBootManagerSettingDefault (pcd : BootManagerPcds) : DfciSettingId → EfiStatus × Option UInt8
  | .boot .ipv6 => (efiSuccess, some pcd.enableIPv6Boot)
  | .boot .altBoot => (efiSuccess, some pcd.enableAltBoot)
  | .boot .bootOrderLock => (efiSuccess, some pcd.enableBootOrderLock)
  | .boot .enableUsbBoot => (efiSuccess, some pcd.enableUsbBoot)
  | .boot .startNetwork => (efiSuccess, some pcd.startNetwork)
  | .other _ => (efiUnsupported, none)

/-- The BOOLEAN stored for setting `b`. -/
def MsBootManagerSettingsH.value (H : MsBootManagerSettingsH) (settings : H.Record)
    (b : BootSetting) : UInt8 :=
  UInt8.ofNat (settings.get (.setting b))

/-- GetBootManagerSetting: the status and the value it writes, if any. -/
def getBootManagerSetting (H : MsBootManagerSettingsH) (pcd : BootManagerPcds)
    (settings : H.Record) (id : DfciSettingId) (s : VarService) :
    (EfiStatus × Option UInt8) × VarService :=
  match id with
  | .other _ => ((efiUnsupported, none), s)
  | .boot b =>
      let (out, s) := s.getVariable H.layout.size
      if efiError out.status then (getBootManagerSettingDefault pcd id, s)
      else ((out.status, some (H.value (settings.copyIn out.data) b)), s)

/-- SetBootManagerSetting: the status and the flags it reports, if any. `flags` is the caller's
`Flags`, absent for a NULL pointer. -/
def setBootManagerSetting (H : MsBootManagerSettingsH) (settings : H.Record) (id : DfciSettingId)
    (value : UInt8) (flags : Option DfciSettingFlags) (s : VarService) :
    (EfiStatus × Option DfciSettingFlags) × VarService :=
  match flags, id with
  | none, _ => ((efiInvalidParameter, none), s)
  | some _, .other _ => ((efiUnsupported, flags), s)
  | some _, .boot b =>
      let (out, s) := s.getVariable H.layout.size
      if efiError out.status then ((out.status, flags), s)
      else
        let settings := settings.copyIn out.data
        if H.value settings b ≠ value then
          let (status, s) :=
            s.setVariable H.attributes (settings.set (.setting b) value.toNat).bytes
          ((status, flags), s)
        else
          ((efiSuccess, some { alreadySet := true }), s)

end OemPkg.Settings
