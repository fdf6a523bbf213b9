/-
# OemPkg.Boot.VariableLock — the boot order, locked before the boot

The model of `BdsBootLockBootVariables` in `DeviceBootManagerLib.c`. When the BootOrderLock setting
is on, it registers a lock for BootOrder, deletes and locks BootNext, and locks the variable of
every option BootOrder names. What it is for is a statement about everything that can still happen:
no sequence of SetVariable requests changes what will boot (`boot_order_stays_locked`).

The variable policy engine, PrintLib and the settings library are other packages: what is used of
them is `LockServices`, and `GlobalVariables` has the locks next to the variables they protect.
-/
import OemPkg.Lib.Machine
import OemPkg.Settings.BootManagerSettings

namespace OemPkg.Boot

open OemPkg.Lib OemPkg.Uefi OemPkg.Settings

/-! ## Names -/

/-- A digit as PrintLib prints it for `%x`. -/
def hexDigit (n : Nat) : Char := "0123456789ABCDEF".toList.getD n '0'

/-- The variable of load option `n`: Boot####, four upper-case digits. -/
def bootOptionName (n : UInt16) : String :=
  String.ofList ['B', 'o', 'o', 't', hexDigit (n.toNat / 4096), hexDigit (n.toNat / 256 % 16),
    hexDigit (n.toNat / 16 % 16), hexDigit (n.toNat % 16)]

/-- EFI_BOOT_ORDER_VARIABLE_NAME -/
def efiBootOrderVariableName : String := "BootOrder"

/-- EFI_BOOT_NEXT_VARIABLE_NAME -/
def efiBootNextVariableName : String := "BootNext"

theorem hexDigit_ne_N {n : Nat} (h : n < 16) : hexDigit n ≠ 'N' := by
  have hall : ∀ k : Fin 16, hexDigit k ≠ 'N' := by decide
  exact hall ⟨n, h⟩

/-- No load option is called BootNext: N is no digit. -/
theorem bootOptionName_ne_bootNext (n : UInt16) : bootOptionName n ≠ efiBootNextVariableName := by
  intro h
  have hnext : efiBootNextVariableName.toList = ['B', 'o', 'o', 't', 'N', 'e', 'x', 't'] := rfl
  have hchars := congrArg String.toList h
  rw [bootOptionName, String.toList_ofList, hnext] at hchars
  simp only [List.cons.injEq] at hchars
  have hlt : n.toNat / 4096 < 16 := by
    have := n.toNat_lt
    omega
  exact hexDigit_ne_N hlt hchars.2.2.2.2.1

theorem bootOrder_ne_bootNext : efiBootOrderVariableName ≠ efiBootNextVariableName := by decide

/-! ## Variables under locks -/

/-- The variables of the EFI global namespace, and the names for which there is a policy of type
VARIABLE_POLICY_TYPE_LOCK_NOW. -/
structure GlobalVariables where
  vars : VarStore String
  locked : List String

/-- EFI_VARIABLE_APPEND_WRITE -/
def efiVariableAppendWrite : Attributes := 0x40#32

/-- SetVariable with EFI_VARIABLE_APPEND_WRITE, `a` being the other attributes. Appending nothing
is no deletion. -/
def appendVariable (v : Option Variable) (a : Attributes) (data : Bytes) :
    EfiStatus × Option Variable :=
  match v with
  | none => writeVariable none a data
  | some old =>
      if data.isEmpty then (efiSuccess, v)
      else if old.attributes = a then (efiSuccess, some ⟨a, old.data ++ data⟩)
      else (efiInvalidParameter, v)

namespace GlobalVariables

/-- SetVariable: a locked variable is not created, changed or deleted. -/
def setVariable (st : GlobalVariables) (name : String) (a : Attributes) (data : Bytes) :
    EfiStatus × GlobalVariables :=
  if name ∈ st.locked then (efiWriteProtected, st)
  else
    let r :=
      if a &&& efiVariableAppendWrite = 0#32 then writeVariable (st.vars name) a data
      else appendVariable (st.vars name) (a &&& ~~~efiVariableAppendWrite) data
    (r.1, { st with vars := Function.update st.vars name r.2 })

/-- RegisterBasicVariablePolicy with VARIABLE_POLICY_TYPE_LOCK_NOW. `fault` is the status with which
it fails for another reason than a lock that is there already. -/
def registerLockNow (st : GlobalVariables) (fault : Option EfiStatus) (name : String) :
    EfiStatus × GlobalVariables :=
  match fault with
  | some status => (status, st)
  | none =>
      if name ∈ st.locked then (efiAlreadyStarted, st)
      else (efiSuccess, { st with locked := name :: st.locked })

/-- GetVariable2, for the value only: NULL if the variable cannot be read, is not there or is
empty. -/
def getVariable2 (st : GlobalVariables) (fault : Option EfiStatus) (name : String) :
    Option Bytes :=
  match fault with
  | some _ => none
  | none => (st.vars name).bind fun v => if v.data.isEmpty then none else some v.data

end GlobalVariables

/-! ## BdsBootLockBootVariables -/

/-- What BdsBootLockBootVariables calls. -/
structure LockServices where
  /-- GetBootManagerSetting: the status, and the value it writes, if any -/
  getBootManagerSetting : DfciSettingId → EfiStatus × Option UInt8
  /-- LocateProtocol for the variable policy protocol -/
  locateProtocol : EfiStatus
  /-- RegisterBasicVariablePolicy fails for this name, other than for a lock already there -/
  registerFault : String → Option EfiStatus
  /-- GetVariable2 of BootOrder fails though the variable is there -/
  readFault : Option EfiStatus
  /-- what UnicodeSPrint writes for the format Boot%04x -/
  unicodeSPrint : UInt16 → String

/-- AlreadyLocked: a static the source tests and never sets. -/
def alreadyLocked : Bool := false

/-- The `UINT16`s in a buffer, its size divided by two; an odd byte at the end is not looked at. -/
def uint16s : Bytes → List UInt16
  | lo :: hi :: rest => UInt16.ofNat (lo.toNat + 256 * hi.toNat) :: uint16s rest
  | _ => []

section Lock

variable (sv : LockServices)

/-- Lock one variable. A failure is only logged. -/
def lockVariable (st : GlobalVariables) (name : String) : GlobalVariables :=
  (st.registerLockNow (sv.registerFault name) name).2

/-- BdsBootLockBootVariables -/
def bdsBootLockBootVariables (st : GlobalVariables) : GlobalVariables :=
  if alreadyLocked then st
  else
    let setting := sv.getBootManagerSetting (.boot .bootOrderLock)
    if efiError setting.1 then st
    else if setting.2.getD 0 = 0 then st
    else if efiError sv.locateProtocol then st
    else
      let st := lockVariable sv st efiBootOrderVariableName
      -- a locked BootNext is a bad thing: it is deleted first
      let st := (st.setVariable efiBootNextVariableName 0#32 []).2
      let st := lockVariable sv st efiBootNextVariableName
      match st.getVariable2 sv.readFault efiBootOrderVariableName with
      | none => st
      | some bootOrder =>
          (uint16s bootOrder).foldl (fun st n => lockVariable sv st (sv.unicodeSPrint n)) st

end Lock

/-! ## What a lock keeps -/

/-- A SetVariable request on the global namespace. -/
structure SetRequest where
  name : String
  attributes : Attributes
  data : Bytes

/-- The namespace as a component: it serves SetVariable requests. -/
def globalNamespace : Machine GlobalVariables SetRequest EfiStatus where
  step st r := ((st.setVariable r.name r.attributes r.data).2,
    (st.setVariable r.name r.attributes r.data).1)

theorem locked_setVariable (st : GlobalVariables) (name : String) (a : Attributes) (data : Bytes) :
    (st.setVariable name a data).2.locked = st.locked := by
  unfold GlobalVariables.setVariable
  split_ifs <;> rfl

/-- One request leaves a locked variable alone. -/
theorem vars_setVariable_of_locked {st : GlobalVariables} {locked : String}
    (h : locked ∈ st.locked) (name : String) (a : Attributes) (data : Bytes) :
    (st.setVariable name a data).2.vars locked = st.vars locked := by
  unfold GlobalVariables.setVariable
  by_cases hname : name ∈ st.locked
  · rw [if_pos hname]
  · have hne : locked ≠ name := fun e => hname (e ▸ h)
    rw [if_neg hname]
    exact Function.update_of_ne hne _ _

/-- **A locked variable stays as it is**, along every run of requests. -/
theorem run_vars_of_locked {st : GlobalVariables} {locked : String} (h : locked ∈ st.locked)
    (reqs : List SetRequest) : (globalNamespace.run st reqs).vars locked = st.vars locked := by
  have hrun := globalNamespace.run_preserves
    (I := fun s => locked ∈ s.locked ∧ s.vars locked = st.vars locked)
    (fun s r hs => ⟨by
      show locked ∈ (s.setVariable r.name r.attributes r.data).2.locked
      rw [locked_setVariable]
      exact hs.1, (vars_setVariable_of_locked hs.1 _ _ _).trans hs.2⟩) reqs ⟨h, rfl⟩
  exact hrun.2

/-! ## What BdsBootLockBootVariables locks -/

/-- The options BootOrder names, in order. -/
def bootOptions (st : GlobalVariables) : List UInt16 :=
  ((st.vars efiBootOrderVariableName).map fun v => uint16s v.data).getD []

/-- What will be tried, in order: each option BootOrder names with its variable, if it has one. -/
def bootSequence (st : GlobalVariables) : List (UInt16 × Option Variable) :=
  (bootOptions st).map fun n => (n, st.vars (bootOptionName n))

section Locking

variable {sv : LockServices}

@[simp] theorem vars_lockVariable (st : GlobalVariables) (name : String) :
    (lockVariable sv st name).vars = st.vars := by
  unfold lockVariable GlobalVariables.registerLockNow
  cases sv.registerFault name with
  | some status => rfl
  | none =>
      dsimp only
      split_ifs <;> rfl

variable (hregister : ∀ name, sv.registerFault name = none)
include hregister

/-- The lock is there afterwards, whether or not it was already, with the locks before it. -/
theorem mem_lockVariable (st : GlobalVariables) {name name' : String} :
    name' ∈ (lockVariable sv st name).locked ↔ name' = name ∨ name' ∈ st.locked := by
  unfold lockVariable GlobalVariables.registerLockNow
  rw [hregister]
  dsimp only
  by_cases h : name ∈ st.locked
  · rw [if_pos h]
    constructor
    · exact Or.inr
    · rintro (rfl | hmem)
      · exact h
      · exact hmem
  · rw [if_neg h, List.mem_cons]

/-- The loop over the options, by induction on those still to come. -/
theorem lockOptions_spec (ns : List UInt16) : ∀ st : GlobalVariables,
    let st' := ns.foldl (fun st n => lockVariable sv st (sv.unicodeSPrint n)) st
    st'.vars = st.vars ∧ (∀ name ∈ st.locked, name ∈ st'.locked) ∧
      ∀ n ∈ ns, sv.unicodeSPrint n ∈ st'.locked := by
  induction ns with
  | nil =>
      intro st
      exact ⟨rfl, fun name h => h, fun n hn => absurd hn List.not_mem_nil⟩
  | cons n ns ih =>
      intro st
      obtain ⟨hvars, hkept, hlocked⟩ := ih (lockVariable sv st (sv.unicodeSPrint n))
      refine ⟨hvars.trans (vars_lockVariable st _), ?_, ?_⟩
      · intro name h
        exact hkept name ((mem_lockVariable hregister st).mpr (Or.inr h))
      · intro n' hn'
        rcases List.mem_cons.mp hn' with rfl | hmem
        · exact hkept _ ((mem_lockVariable hregister st).mpr (Or.inl rfl))
        · exact hlocked n' hmem

end Locking

/-- A run of BdsBootLockBootVariables that is to lock: the setting is on, the policy protocol is
there, no registration fails but for a lock that is there already, BootOrder can be read if it is
there, and deleting BootNext succeeds or finds none. PrintLib prints `%04x` as four upper-case
digits. -/
structure LocksBoot (sv : LockServices) (st : GlobalVariables) : Prop where
  setting : efiError (sv.getBootManagerSetting (.boot .bootOrderLock)).1 = false
  enabled : (sv.getBootManagerSetting (.boot .bootOrderLock)).2.getD 0 ≠ 0
  protocol : efiError sv.locateProtocol = false
  register : ∀ name, sv.registerFault name = none
  read : sv.readFault = none
  delete : let status := ((lockVariable sv st efiBootOrderVariableName).setVariable
      efiBootNextVariableName 0#32 []).1
    status = efiSuccess ∨ status = efiNotFound
  print : ∀ n, sv.unicodeSPrint n = bootOptionName n

/-- A deletion that was not refused leaves no variable. -/
theorem vars_delete {st : GlobalVariables} {name : String}
    (h : (st.setVariable name 0#32 []).1 = efiSuccess ∨
      (st.setVariable name 0#32 []).1 = efiNotFound) :
    (st.setVariable name 0#32 []).2.vars = Function.update st.vars name none := by
  unfold GlobalVariables.setVariable at h ⊢
  by_cases hlocked : name ∈ st.locked
  · rw [if_pos hlocked] at h
    rcases h with h | h
    · exact absurd h (show efiWriteProtected ≠ efiSuccess by decide)
    · exact absurd h (show efiWriteProtected ≠ efiNotFound by decide)
  · have hplain : (0#32 &&& efiVariableAppendWrite : Attributes) = 0#32 := by decide
    rw [if_neg hlocked]
    simp only [hplain, if_true, writeVariable_delete]

/-- What GetVariable2 reads of BootOrder are its options: an empty or absent variable has none. -/
theorem bootOptions_of_getVariable2 (st : GlobalVariables) :
    bootOptions st =
      ((st.getVariable2 none efiBootOrderVariableName).map uint16s).getD [] := by
  unfold bootOptions GlobalVariables.getVariable2
  cases st.vars efiBootOrderVariableName with
  | none => rfl
  | some v =>
      obtain ⟨a, data⟩ := v
      cases data with
      | nil => rfl
      | cons x xs => rfl

/-- **What BdsBootLockBootVariables does**: BootNext is deleted and nothing else changes; BootNext,
BootOrder and every option BootOrder names are locked. -/
theorem bdsBootLockBootVariables_spec {sv : LockServices} {st : GlobalVariables}
    (h : LocksBoot sv st) :
    let st' := bdsBootLockBootVariables sv st
    st'.vars = Function.update st.vars efiBootNextVariableName none ∧
      efiBootNextVariableName ∈ st'.locked ∧ efiBootOrderVariableName ∈ st'.locked ∧
      ∀ n ∈ bootOptions st, bootOptionName n ∈ st'.locked := by
  have hmem : ∀ (st : GlobalVariables) (name name' : String),
      name' ∈ (lockVariable sv st name).locked ↔ name' = name ∨ name' ∈ st.locked :=
    fun st _ _ => mem_lockVariable h.register st
  -- the state in front of the loop
  obtain ⟨st₁, hst₁⟩ : ∃ st₁, st₁ = lockVariable sv ((lockVariable sv st
      efiBootOrderVariableName).setVariable efiBootNextVariableName 0#32 []).2
        efiBootNextVariableName := ⟨_, rfl⟩
  have hvars : st₁.vars = Function.update st.vars efiBootNextVariableName none := by
    rw [hst₁, vars_lockVariable, vars_delete h.delete, vars_lockVariable]
  have hnext : efiBootNextVariableName ∈ st₁.locked := by
    rw [hst₁, hmem]
    exact Or.inl rfl
  have horder : efiBootOrderVariableName ∈ st₁.locked := by
    rw [hst₁, hmem, locked_setVariable, hmem]
    exact Or.inr (Or.inl rfl)
  have hoptions : bootOptions st = bootOptions st₁ := by
    unfold bootOptions
    rw [hvars, Function.update_of_ne bootOrder_ne_bootNext]
  have hrun : bdsBootLockBootVariables sv st =
      (bootOptions st₁).foldl (fun st n => lockVariable sv st (sv.unicodeSPrint n)) st₁ := by
    unfold bdsBootLockBootVariables
    rw [bootOptions_of_getVariable2, hst₁]
    simp only [alreadyLocked, Bool.false_eq_true, if_false, h.setting, h.enabled, h.protocol,
      h.read]
    cases GlobalVariables.getVariable2 _ none efiBootOrderVariableName <;> rfl
  intro st'
  obtain ⟨hkeeps, hlocks, hall⟩ := lockOptions_spec h.register (bootOptions st₁) st₁
  rw [← hrun] at hkeeps hlocks hall
  refine ⟨hkeeps.trans hvars, hlocks _ hnext, hlocks _ horder, ?_⟩
  intro n hn
  rw [hoptions] at hn
  exact h.print n ▸ hall n hn

/-- **A locked boot order stays locked.** After BdsBootLockBootVariables has locked, no sequence of
SetVariable requests brings BootNext back or changes BootOrder, and the options it names keep their
variables, or their absence, as they were before the lock. -/
theorem boot_order_stays_locked (sv : LockServices) (st : GlobalVariables) (h : LocksBoot sv st)
    (reqs : List SetRequest) :
    let later := globalNamespace.run (bdsBootLockBootVariables sv st) reqs
    later.vars efiBootNextVariableName = none ∧
      later.vars efiBootOrderVariableName = st.vars efiBootOrderVariableName ∧
      bootSequence later = bootSequence st := by
  intro later
  obtain ⟨hvars, hnext, horder, hall⟩ := bdsBootLockBootVariables_spec h
  have hkept : ∀ {name}, name ∈ (bdsBootLockBootVariables sv st).locked →
      name ≠ efiBootNextVariableName → later.vars name = st.vars name := by
    intro name hlocked hne
    show (globalNamespace.run (bdsBootLockBootVariables sv st) reqs).vars name = st.vars name
    rw [run_vars_of_locked hlocked reqs, hvars, Function.update_of_ne hne]
  have hsame := hkept horder bootOrder_ne_bootNext
  refine ⟨?_, hsame, ?_⟩
  · show (globalNamespace.run (bdsBootLockBootVariables sv st) reqs).vars _ = none
    rw [run_vars_of_locked hnext reqs, hvars, Function.update_self]
  · have hoptions : bootOptions later = bootOptions st := by
      unfold bootOptions
      rw [hsame]
    unfold bootSequence
    rw [hoptions]
    apply List.map_congr_left
    intro n hn
    rw [hkept (hall n hn) (bootOptionName_ne_bootNext n)]

/-- A machine with the setting on. -/
def lockingServices : LockServices where
  getBootManagerSetting _ := (efiSuccess, some 1)
  locateProtocol := efiSuccess
  registerFault _ := none
  readFault := none
  unicodeSPrint := bootOptionName

/-- BootOrder names options 0x0001 and 0x00AB, of which only the first exists. BootNext is set. -/
def twoOptionsOneDangling : GlobalVariables where
  vars := Function.update (Function.update (Function.update (fun _ => none)
    "BootOrder" (some ⟨7#32, [0x01, 0x00, 0xAB, 0x00]⟩))
    "Boot0001" (some ⟨7#32, [1, 0, 0, 0]⟩))
    "BootNext" (some ⟨7#32, [0xAB, 0x00]⟩)
  locked := []

/-- The dangling option cannot be filled in, nor BootNext set again. -/
theorem boot_order_stays_locked_dangling :
    let later := globalNamespace.run
      (bdsBootLockBootVariables lockingServices twoOptionsOneDangling)
      [⟨"Boot00AB", 7#32, [1, 0, 0, 0]⟩, ⟨"BootNext", 7#32, [0x01, 0x00]⟩,
        ⟨"BootOrder", 7#32 ||| efiVariableAppendWrite, [0x02, 0x00]⟩]
    later.vars efiBootNextVariableName = none ∧
      later.vars efiBootOrderVariableName =
        twoOptionsOneDangling.vars efiBootOrderVariableName ∧
      bootSequence later = bootSequence twoOptionsOneDangling := by
  refine boot_order_stays_locked lockingServices twoOptionsOneDangling ?_ _
  refine ⟨by decide, by decide, by decide, fun _ => rfl, rfl, Or.inl ?_, fun _ => rfl⟩
  decide +kernel

end OemPkg.Boot
