/-
# OemPkg.Boot.ReadyToBoot — what happens once on the way out of the firmware

The events around ready-to-boot, and the protocol that may bring up the network before it. The
device boot manager listens to two event groups (`DeviceBootManagerLib.c`): at PreReadyToBoot it
locks the boot variables and turns the on-screen keyboard on, and closes the event; at PostReadyToBoot
it does most of its work on the first pass only. DfciUiExitSecurityBoundary (`DfciUiSupportLib.c`)
signals the first group early. The boot manager policy protocol (`BootManagerPolicyDxe.c`) connects
devices when an image asks for it, and starts the network stack if nobody has.

Each of these is armed once (`Machine.oneShot`). `boot_work_done_once` says what is done and how
often, over every order of the events, and `keyboard_on_iff` draws from one of them when the keyboard
comes up. Of the network device list nothing is left but its use of the pool (`device_list_owned`).
-/
import OemPkg.Lib.Machine
import OemPkg.Lib.Pool
import OemPkg.Uefi.Status

namespace OemPkg.Boot

open OemPkg.Lib OemPkg.Uefi

/-! ## The device list -/

/-- A handle of ConnectAllAndCreateNetworkDeviceList's loop. -/
structure NetworkHandle where
  /-- HandleProtocol returns a device path -/
  hasPath : Bool
  /-- AppendDevicePathInstance returns a list -/
  appended : Bool

/-- The local Devices, and what the function does with the pool. Blocks are numbered from `next`. -/
structure DeviceList where
  devices : Option Nat
  next : Nat
  events : List PoolEvent

/-- One round of the loop over the handles. -/
def DeviceList.append (l : DeviceList) (h : NetworkHandle) : DeviceList :=
  if !h.hasPath then l
  else
    let tempDevicePath := l.devices
    let l :=
      if h.appended then ⟨some l.next, l.next + 1, l.events ++ [.allocates l.next]⟩
      else { l with devices := none }
    match tempDevicePath with
    | none => l
    | some b => { l with events := l.events ++ [.frees (some b)] }

/-- After the loop. -/
def DeviceList.release (l : DeviceList) : EfiStatus × DeviceList :=
  match l.devices with
  | none => (efiDeviceError, l)
  | some b => (efiSuccess, { l with events := l.events ++ [.frees (some b)] })

/-- ConnectAllAndCreateNetworkDeviceList, after it has connected everything: its status, and its use
of the pool. `handles` are those LocateHandleBuffer returns, in a block of their own. -/
def connectAllAndCreateNetworkDeviceList (handles : Option (List NetworkHandle)) (next : Nat) :
    EfiStatus × DeviceList :=
  let located : DeviceList :=
    match handles with
    | none => ⟨none, next, []⟩
    | some _ => ⟨none, next + 1, [.allocates next]⟩
  -- the loop counts down
  ((handles.getD []).reverse.foldl DeviceList.append located).release

/-! ## The events -/

/-- What the firmware does. -/
inductive BootAction where
  | lockBootVariables
  | enableOsk
  | disableOsk
  | connectAll
  | setLowResolution
  | startNetworking
  | printMemoryMap
  | updateFacsHardwareSignature
  /-- InstallProtocolInterface for the network delay protocol, with its status -/
  | installNetworkDelay (status : EfiStatus)
  | connectDefaultConsoles
  /-- EfiBootManagerConnectDevicePath -/
  | connectDevicePath
  | connectController
  deriving DecidableEq

structure BootState where
  /-- mPreReadyToBootEvent has not been closed -/
  preReadyToBootEvent : Bool
  /-- FirstPass of PostReadyToBoot -/
  firstPass : Bool
  /-- ConnectNetwork has installed the network delay protocol -/
  networkDelay : Bool
  next : Nat
  pool : List PoolEvent
  log : List BootAction

def BootState.start : BootState := ⟨true, true, false, 0, [], []⟩

def BootState.does (s : BootState) (actions : List BootAction) : BootState :=
  { s with log := s.log ++ actions }

/-- What PostReadyToBoot meets. -/
structure PostReadyToBootCall where
  /-- BootCurrentIsInternalShell -/
  internalShell : Bool
  /-- PcdLowResolutionInternalShell -/
  lowResolution : Bool
  /-- GetBootManagerSetting for START_NETWORK: the status and the BOOLEAN it writes -/
  startNetwork : EfiStatus × Option Bool

/-- The classes ConnectDeviceClass tells apart. -/
inductive DeviceClass where
  | connectAll | console | network | other

/-- A call of BootManagerPolicyConnectDevicePath, with the statuses of what it calls. -/
structure ConnectPathCall where
  tplApplication : Bool
  devicePathNull : Bool
  recursive : Bool
  connectDevicePath : EfiStatus
  locateDevicePath : EfiStatus
  connectController : EfiStatus

/-- A call of BootManagerPolicyConnectDeviceClass. -/
structure ConnectClassCall where
  tplApplication : Bool
  deviceClass : DeviceClass
  handles : Option (List NetworkHandle)
  connectDefaultConsoles : EfiStatus
  /-- another driver has installed the network delay protocol -/
  delayInstalled : Bool
  installNetworkDelay : EfiStatus

section Functions

-- the on-screen keyboard protocol is there
variable (osk : Bool)

/-- PreReadyToBoot -/
def preReadyToBoot (s : BootState) : BootState :=
  let s := s.does (.lockBootVariables :: if osk then [.enableOsk] else [])
  { s with preReadyToBootEvent := false }

/-- The event group PreReadyToBoot is signalled. A closed event is not notified. -/
def signalPreReadyToBoot (s : BootState) : BootState :=
  if s.preReadyToBootEvent then preReadyToBoot osk s else s

/-- DfciUiExitSecurityBoundary -/
def dfciUiExitSecurityBoundary (s : BootState) : BootState :=
  (signalPreReadyToBoot osk s).does (if osk then [.disableOsk] else [])

/-- PostReadyToBoot -/
def postReadyToBoot (c : PostReadyToBootCall) (s : BootState) : BootState :=
  let s :=
    if c.internalShell then
      s.does (.connectAll :: if c.lowResolution then [.setLowResolution] else [])
    else s
  if s.firstPass then
    let s := { s with firstPass := false }
    let s :=
      if efiError c.startNetwork.1 then s
      else if c.startNetwork.2.getD false then s.does [.startNetworking, .connectAll]
      else s
    s.does [.printMemoryMap, .updateFacsHardwareSignature]
  else s

/-- ConnectNetwork -/
def connectNetwork (c : ConnectClassCall) (s : BootState) : EfiStatus × BootState :=
  if s.networkDelay || c.delayInstalled then (efiSuccess, s)
  else
    let s := s.does [.installNetworkDelay c.installNetworkDelay, .connectAll]
    (c.installNetworkDelay, { s with networkDelay := !efiError c.installNetworkDelay })

/-- BootManagerPolicyConnectDevicePath -/
def bootManagerPolicyConnectDevicePath (c : ConnectPathCall) (s : BootState) :
    EfiStatus × BootState :=
  if !c.tplApplication then (efiUnsupported, s)
  else if c.devicePathNull then (efiSuccess, s.does [.connectAll])
  else if c.recursive then (c.connectDevicePath, s.does [.connectDevicePath])
  else if efiError c.locateDevicePath then (c.locateDevicePath, s)
  else (c.connectController, s.does [.connectController])

/-- BootManagerPolicyConnectDeviceClass -/
def bootManagerPolicyConnectDeviceClass (c : ConnectClassCall) (s : BootState) :
    EfiStatus × BootState :=
  if !c.tplApplication then (efiUnsupported, s)
  else
    match c.deviceClass with
    | .connectAll =>
        let s := s.does [.connectAll]
        let (_, l) := connectAllAndCreateNetworkDeviceList c.handles s.next
        (efiSuccess, { s with next := l.next, pool := s.pool ++ l.events })
    | .console => (c.connectDefaultConsoles, s.does [.connectDefaultConsoles])
    | .network => connectNetwork c s
    | .other => (efiNotFound, s)

end Functions

/-- The events, in whatever order they come. -/
inductive BootEvent where
  /-- BDS signals the event group PreReadyToBoot -/
  | preReadyToBoot
  | exitSecurityBoundary
  | postReadyToBoot (c : PostReadyToBootCall)
  | connectDevicePath (c : ConnectPathCall)
  | connectDeviceClass (c : ConnectClassCall)

/-- The two drivers as a component. The policy protocol answers with a status. -/
def bootManager (osk : Bool) : Machine BootState BootEvent (Option EfiStatus) where
  step s
    | .preReadyToBoot => (signalPreReadyToBoot osk s, none)
    | .exitSecurityBoundary => (dfciUiExitSecurityBoundary osk s, none)
    | .postReadyToBoot c => (postReadyToBoot c s, none)
    | .connectDevicePath c =>
        let (status, s) := bootManagerPolicyConnectDevicePath c s
        (s, some status)
    | .connectDeviceClass c =>
        let (status, s) := bootManagerPolicyConnectDeviceClass c s
        (s, some status)

/-! ## What is armed once -/

/-- PreReadyToBoot is signalled. -/
def BootEvent.preReady (osk : Bool) : BootEvent → Option (List BootAction)
  | .preReadyToBoot | .exitSecurityBoundary =>
      some (.lockBootVariables :: if osk then [.enableOsk] else [])
  | _ => none

/-- The first pass of PostReadyToBoot, if this is it: the network is started if the setting can be
read and is TRUE. -/
def BootEvent.firstPostReady : BootEvent → Option (List BootAction)
  | .postReadyToBoot c =>
      some ((if !efiError c.startNetwork.1 && c.startNetwork.2.getD false then [.startNetworking]
        else []) ++ [.printMemoryMap, .updateFacsHardwareSignature])
  | _ => none

/-- The network delay protocol is installed, if ConnectNetwork has not installed it yet: the class
is the network, the caller runs at TPL_APPLICATION, nobody else has, and it succeeds. -/
def BootEvent.installsDelay : BootEvent → Option (List BootAction)
  | .connectDeviceClass c =>
      match c.deviceClass with
      | .network =>
          if c.tplApplication && !c.delayInstalled && !efiError c.installNetworkDelay then
            some [.installNetworkDelay c.installNetworkDelay]
          else none
      | _ => none
  | _ => none

/-- The actions of PreReadyToBoot. -/
def BootAction.ofPreReady : BootAction → Bool
  | .lockBootVariables | .enableOsk => true
  | _ => false

/-- The actions of the first pass, as far as nothing else does them. -/
def BootAction.ofFirstPostReady : BootAction → Bool
  | .startNetworking | .printMemoryMap | .updateFacsHardwareSignature => true
  | _ => false

def BootAction.installs : BootAction → Bool
  | .installNetworkDelay status => !efiError status
  | _ => false

/-! ### One event -/

/-- What PreReadyToBoot does. -/
def preReadyActions (osk : Bool) : List BootAction :=
  .lockBootVariables :: if osk then [.enableOsk] else []

/-- The network is to be started: the setting can be read, and it is TRUE. -/
def PostReadyToBootCall.startsNetwork (c : PostReadyToBootCall) : Bool :=
  !efiError c.startNetwork.1 && c.startNetwork.2.getD false

/-- What ConnectDevicePath does. -/
def ConnectPathCall.actions (c : ConnectPathCall) : List BootAction :=
  if !c.tplApplication then []
  else if c.devicePathNull then [.connectAll]
  else if c.recursive then [.connectDevicePath]
  else if efiError c.locateDevicePath then []
  else [.connectController]

/-- What ConnectDeviceClass does. -/
def ConnectClassCall.actions (networkDelay : Bool) (c : ConnectClassCall) : List BootAction :=
  if !c.tplApplication then []
  else
    match c.deviceClass with
    | .connectAll => [.connectAll]
    | .console => [.connectDefaultConsoles]
    | .network =>
        if networkDelay || c.delayInstalled then []
        else [.installNetworkDelay c.installNetworkDelay, .connectAll]
    | .other => []

/-- What is done at an event. -/
def BootEvent.actions (osk : Bool) (s : BootState) : BootEvent → List BootAction
  | .preReadyToBoot => if s.preReadyToBootEvent then preReadyActions osk else []
  | .exitSecurityBoundary =>
      (if s.preReadyToBootEvent then preReadyActions osk else []) ++
        if osk then [.disableOsk] else []
  | .postReadyToBoot c =>
      (if c.internalShell then .connectAll :: if c.lowResolution then [.setLowResolution] else []
        else []) ++
      if s.firstPass then
        (if c.startsNetwork then [.startNetworking, .connectAll] else []) ++
          [.printMemoryMap, .updateFacsHardwareSignature]
      else []
  | .connectDevicePath c => c.actions
  | .connectDeviceClass c => c.actions s.networkDelay

/-- What an event does to the state. -/
structure BootEvent.Leads (osk : Bool) (e : BootEvent) (s s' : BootState) : Prop where
  log : s'.log = s.log ++ e.actions osk s
  preReadyToBootEvent : s'.preReadyToBootEvent = (s.preReadyToBootEvent && (e.preReady osk).isNone)
  firstPass : s'.firstPass = (s.firstPass && e.firstPostReady.isNone)
  networkDelay : s'.networkDelay = (s.networkDelay || e.installsDelay.isSome)

/-- An event that is none of the three triggers. -/
theorem BootEvent.Leads.of_flags {osk : Bool} {e : BootEvent} {s s' : BootState}
    (hlog : s'.log = s.log ++ e.actions osk s) (hpre : e.preReady osk = none)
    (hpost : e.firstPostReady = none) (hinstall : e.installsDelay = none)
    (hevent : s'.preReadyToBootEvent = s.preReadyToBootEvent) (hpass : s'.firstPass = s.firstPass)
    (hdelay : s'.networkDelay = s.networkDelay) : e.Leads osk s s' where
  log := hlog
  preReadyToBootEvent := by rw [hpre, hevent, Option.isNone_none, Bool.and_true]
  firstPass := by rw [hpost, hpass, Option.isNone_none, Bool.and_true]
  networkDelay := by rw [hinstall, hdelay, Option.isSome_none, Bool.or_false]

/-- The signal of the event group. -/
theorem signalPreReadyToBoot_fields (osk : Bool) (s : BootState) :
    (signalPreReadyToBoot osk s).log =
        s.log ++ (if s.preReadyToBootEvent then preReadyActions osk else []) ∧
      (signalPreReadyToBoot osk s).preReadyToBootEvent = false ∧
      (signalPreReadyToBoot osk s).firstPass = s.firstPass ∧
      (signalPreReadyToBoot osk s).networkDelay = s.networkDelay := by
  unfold signalPreReadyToBoot
  by_cases h : s.preReadyToBootEvent = true
  · rw [if_pos h, if_pos h]
    exact ⟨rfl, rfl, rfl, rfl⟩
  · rw [if_neg h, if_neg h]
    exact ⟨(List.append_nil _).symm, eq_false_of_ne_true h, rfl, rfl⟩

theorem postReadyToBoot_fields (c : PostReadyToBootCall) (s : BootState) :
    (postReadyToBoot c s).log = s.log ++
        ((if c.internalShell then
            .connectAll :: if c.lowResolution then [.setLowResolution] else []
          else []) ++
        if s.firstPass then
          (if c.startsNetwork then [.startNetworking, .connectAll] else []) ++
            [.printMemoryMap, .updateFacsHardwareSignature]
        else []) ∧
      (postReadyToBoot c s).preReadyToBootEvent = s.preReadyToBootEvent ∧
      (postReadyToBoot c s).firstPass = false ∧
      (postReadyToBoot c s).networkDelay = s.networkDelay := by
  obtain ⟨open', firstPass, delay, next, pool, log⟩ := s
  unfold postReadyToBoot PostReadyToBootCall.startsNetwork
  cases c.internalShell <;> cases firstPass <;> cases efiError c.startNetwork.1 <;>
    cases c.startNetwork.2.getD false <;> simp [BootState.does]

theorem connectDevicePath_fields (c : ConnectPathCall) (s : BootState) :
    (bootManagerPolicyConnectDevicePath c s).2 = s.does c.actions := by
  unfold bootManagerPolicyConnectDevicePath ConnectPathCall.actions
  have hnothing : s = s.does [] := by
    unfold BootState.does
    rw [List.append_nil]
  split_ifs
  · exact hnothing
  · rfl
  · rfl
  · exact hnothing
  · rfl

theorem connectDeviceClass_fields (c : ConnectClassCall) (s : BootState) :
    (bootManagerPolicyConnectDeviceClass c s).2.log = s.log ++ c.actions s.networkDelay ∧
      (bootManagerPolicyConnectDeviceClass c s).2.preReadyToBootEvent = s.preReadyToBootEvent ∧
      (bootManagerPolicyConnectDeviceClass c s).2.firstPass = s.firstPass ∧
      (bootManagerPolicyConnectDeviceClass c s).2.networkDelay =
        (s.networkDelay || (BootEvent.connectDeviceClass c).installsDelay.isSome) := by
  obtain ⟨tplApplication, deviceClass, handles, consoles, delayInstalled, status⟩ := c
  unfold bootManagerPolicyConnectDeviceClass ConnectClassCall.actions BootEvent.installsDelay
  -- the policy protocol refuses callers above TPL_APPLICATION
  cases tplApplication with
  | false =>
      cases deviceClass <;>
        exact ⟨(List.append_nil _).symm, rfl, rfl, (Bool.or_false _).symm⟩
  | true =>
      cases deviceClass with
      | connectAll => exact ⟨rfl, rfl, rfl, (Bool.or_false _).symm⟩
      | console => exact ⟨rfl, rfl, rfl, (Bool.or_false _).symm⟩
      | other => exact ⟨(List.append_nil _).symm, rfl, rfl, (Bool.or_false _).symm⟩
      | network =>
          -- one of three: installed before, by this driver or another; installed now; failing
          obtain ⟨event, firstPass, delay, next, pool, log⟩ := s
          unfold connectNetwork
          cases delay <;> cases delayInstalled <;> cases herror : efiError status <;>
            simp [BootState.does, herror]

/-- **What a step can do.** -/
theorem step_leads (osk : Bool) (s : BootState) (e : BootEvent) :
    e.Leads osk s ((bootManager osk).step s e).1 := by
  cases e with
  | preReadyToBoot =>
      obtain ⟨hlog, hevent, hpass, hdelay⟩ := signalPreReadyToBoot_fields osk s
      exact ⟨hlog, hevent.trans (Bool.and_false _).symm, hpass.trans (Bool.and_true _).symm,
        hdelay.trans (Bool.or_false _).symm⟩
  | exitSecurityBoundary =>
      obtain ⟨hlog, hevent, hpass, hdelay⟩ := signalPreReadyToBoot_fields osk s
      refine ⟨?_, hevent.trans (Bool.and_false _).symm, hpass.trans (Bool.and_true _).symm,
        hdelay.trans (Bool.or_false _).symm⟩
      show (signalPreReadyToBoot osk s).log ++ _ = s.log ++ (_ ++ _)
      rw [hlog, List.append_assoc]
  | postReadyToBoot c =>
      obtain ⟨hlog, hevent, hpass, hdelay⟩ := postReadyToBoot_fields c s
      exact ⟨hlog, hevent.trans (Bool.and_true _).symm, hpass.trans (Bool.and_false _).symm,
        hdelay.trans (Bool.or_false _).symm⟩
  | connectDevicePath c =>
      have hdoes : ((bootManager osk).step s (.connectDevicePath c)).1 = s.does c.actions :=
        connectDevicePath_fields c s
      rw [hdoes]
      exact .of_flags rfl rfl rfl rfl rfl rfl rfl
  | connectDeviceClass c =>
      obtain ⟨hlog, hevent, hpass, hdelay⟩ := connectDeviceClass_fields c s
      exact ⟨hlog, hevent.trans (Bool.and_true _).symm, hpass.trans (Bool.and_true _).symm, hdelay⟩

/-! ### What it records

The log holds the actions of all three triggers, and others. Each trigger's own are told apart by a
classifier, and an event adds what the trigger gives it, while it is armed. -/

theorem ConnectPathCall.filter_actions (c : ConnectPathCall) {p : BootAction → Bool}
    (hall : p .connectAll = false) (hpath : p .connectDevicePath = false)
    (hcontroller : p .connectController = false) : c.actions.filter p = [] := by
  unfold ConnectPathCall.actions
  split_ifs <;> simp [hall, hpath, hcontroller]

theorem ConnectClassCall.filter_actions (c : ConnectClassCall) (networkDelay : Bool)
    {p : BootAction → Bool} (hall : p .connectAll = false)
    (hconsoles : p .connectDefaultConsoles = false)
    (hinstall : p (.installNetworkDelay c.installNetworkDelay) = false) :
    (c.actions networkDelay).filter p = [] := by
  unfold ConnectClassCall.actions
  cases c.deviceClass <;> split_ifs <;> simp [hall, hconsoles, hinstall]

theorem filter_ofPreReady (osk : Bool) (s : BootState) (e : BootEvent) :
    (e.actions osk s).filter BootAction.ofPreReady =
      if s.preReadyToBootEvent then (e.preReady osk).getD [] else [] := by
  have hown : (preReadyActions osk).filter BootAction.ofPreReady = preReadyActions osk := by
    cases osk <;> rfl
  cases e with
  | preReadyToBoot =>
      rw [BootEvent.actions, apply_ite (List.filter BootAction.ofPreReady), hown]
      rfl
  | exitSecurityBoundary =>
      have hrest : (if osk then [BootAction.disableOsk] else []).filter BootAction.ofPreReady =
          [] := by
        cases osk <;> rfl
      rw [BootEvent.actions, List.filter_append, hrest, List.append_nil,
        apply_ite (List.filter BootAction.ofPreReady), hown]
      rfl
  | postReadyToBoot c =>
      simp [BootEvent.actions, BootEvent.preReady, apply_ite (List.filter BootAction.ofPreReady),
        BootAction.ofPreReady]
  | connectDevicePath c => exact (c.filter_actions rfl rfl rfl).trans (ite_self _).symm
  | connectDeviceClass c => exact (c.filter_actions _ rfl rfl rfl).trans (ite_self _).symm

theorem filter_ofFirstPostReady (osk : Bool) (s : BootState) (e : BootEvent) :
    (e.actions osk s).filter BootAction.ofFirstPostReady =
      if s.firstPass then e.firstPostReady.getD [] else [] := by
  have hpre : (preReadyActions osk).filter BootAction.ofFirstPostReady = [] := by
    cases osk <;> rfl
  cases e with
  | preReadyToBoot =>
      rw [BootEvent.actions, apply_ite (List.filter BootAction.ofFirstPostReady), hpre]
      exact (ite_self _).trans (ite_self _).symm
  | exitSecurityBoundary =>
      simp [BootEvent.actions, BootEvent.firstPostReady, hpre,
        apply_ite (List.filter BootAction.ofFirstPostReady), BootAction.ofFirstPostReady]
  | postReadyToBoot c =>
      simp [BootEvent.actions, BootEvent.firstPostReady, PostReadyToBootCall.startsNetwork,
        apply_ite (List.filter BootAction.ofFirstPostReady), BootAction.ofFirstPostReady,
        List.filter_cons]
  | connectDevicePath c => exact (c.filter_actions rfl rfl rfl).trans (ite_self _).symm
  | connectDeviceClass c => exact (c.filter_actions _ rfl rfl rfl).trans (ite_self _).symm

theorem filter_installs (osk : Bool) (s : BootState) (e : BootEvent) :
    (e.actions osk s).filter BootAction.installs =
      if !s.networkDelay then e.installsDelay.getD [] else [] := by
  have hpre : (preReadyActions osk).filter BootAction.installs = [] := by cases osk <;> rfl
  cases e with
  | preReadyToBoot =>
      rw [BootEvent.actions, apply_ite (List.filter BootAction.installs), hpre]
      exact (ite_self _).trans (ite_self _).symm
  | exitSecurityBoundary =>
      simp [BootEvent.actions, BootEvent.installsDelay, hpre,
        apply_ite (List.filter BootAction.installs), BootAction.installs]
  | postReadyToBoot c =>
      simp [BootEvent.actions, BootEvent.installsDelay, apply_ite (List.filter BootAction.installs),
        BootAction.installs]
  | connectDevicePath c => exact (c.filter_actions rfl rfl rfl).trans (ite_self _).symm
  | connectDeviceClass c =>
      obtain ⟨tplApplication, deviceClass, handles, consoles, delayInstalled, status⟩ := c
      unfold BootEvent.actions ConnectClassCall.actions BootEvent.installsDelay
      cases deviceClass <;> cases tplApplication <;> cases s.networkDelay <;>
        cases delayInstalled <;> cases herror : efiError status <;>
          simp [BootAction.installs, herror]

/-! ## Runs -/

/-- What a trigger records over a run. -/
theorem log_run (osk : Bool) (p : BootAction → Bool) (armed : BootState → Bool)
    (fires : BootEvent → Option (List BootAction))
    (harmed : ∀ s e, armed ((bootManager osk).step s e).1 = (armed s && (fires e).isNone))
    (hactions : ∀ s e, (e.actions osk s).filter p = if armed s then (fires e).getD [] else [])
    (events : List BootEvent) (s : BootState) :
    ((bootManager osk).run s events).log.filter p =
      s.log.filter p ++ if armed s then (events.findSome? fires).getD [] else [] := by
  apply (bootManager osk).oneShot armed (fun s => s.log.filter p) fires harmed
  intro s e
  show (((bootManager osk).step s e).1.log).filter p = _
  rw [(step_leads osk s e).log, List.filter_append, hactions]

/-- **What is done once is done at the first event that asks for it.** In every order of the events:
the boot variables are locked and the keyboard is turned on at the first signal of PreReadyToBoot,
whoever gives it; the network is started, or not, by the setting as it is at the first
PostReadyToBoot, at which alone the memory map is printed and the hardware signature updated; and
the network delay protocol is installed by the first caller who can. -/
theorem boot_work_done_once (osk : Bool) (events : List BootEvent) :
    ((bootManager osk).run .start events).log.filter BootAction.ofPreReady =
        (events.findSome? (BootEvent.preReady osk)).getD [] ∧
      ((bootManager osk).run .start events).log.filter BootAction.ofFirstPostReady =
        (events.findSome? BootEvent.firstPostReady).getD [] ∧
      ((bootManager osk).run .start events).log.filter BootAction.installs =
        (events.findSome? BootEvent.installsDelay).getD [] := by
  refine ⟨?_, ?_, ?_⟩
  · exact log_run osk _ BootState.preReadyToBootEvent _
      (fun s e => (step_leads osk s e).preReadyToBootEvent) (filter_ofPreReady osk) events .start
  · exact log_run osk _ BootState.firstPass _ (fun s e => (step_leads osk s e).firstPass)
      (filter_ofFirstPostReady osk) events .start
  · apply log_run osk _ (fun s => !s.networkDelay) _ _ (filter_installs osk) events .start
    intro s e
    rw [(step_leads osk s e).networkDelay, Bool.not_or, Option.not_isSome]

/-! ### The keyboard -/

/-- Whether the on-screen keyboard comes up by itself after such actions. -/
def oskEnabled (log : List BootAction) : Bool :=
  log.foldl (fun on a =>
    match a with
    | .enableOsk => true
    | .disableOsk => false
    | _ => on) false

/-- The actions that change that. -/
def BootAction.ofOsk : BootAction → Bool
  | .enableOsk | .disableOsk => true
  | _ => false

theorem oskEnabled_append (log : List BootAction) {actions : List BootAction}
    (h : actions.filter BootAction.ofOsk = []) : oskEnabled (log ++ actions) = oskEnabled log := by
  induction actions generalizing log with
  | nil => rw [List.append_nil]
  | cons a actions ih =>
      obtain ⟨ha, hrest⟩ := List.forall_mem_cons.mp (List.filter_eq_nil_iff.mp h)
      rw [List.append_cons, ih _ (List.filter_eq_nil_iff.mpr hrest), oskEnabled, List.foldl_append]
      cases a <;> first | rfl | exact absurd rfl ha

/-- Only the two events of PreReadyToBoot change it, and they do only where there is a keyboard. -/
theorem filter_ofOsk {osk : Bool} {e : BootEvent} (s : BootState)
    (h : osk = false ∨ e.preReady osk = none) :
    (e.actions osk s).filter BootAction.ofOsk = [] := by
  cases e with
  | preReadyToBoot =>
      obtain rfl := h.resolve_right nofun
      simp [BootEvent.actions, apply_ite (List.filter BootAction.ofOsk), preReadyActions,
        BootAction.ofOsk]
  | exitSecurityBoundary =>
      obtain rfl := h.resolve_right nofun
      simp [BootEvent.actions, apply_ite (List.filter BootAction.ofOsk), preReadyActions,
        BootAction.ofOsk]
  | postReadyToBoot c =>
      simp [BootEvent.actions, apply_ite (List.filter BootAction.ofOsk), BootAction.ofOsk]
  | connectDevicePath c => exact c.filter_actions rfl rfl rfl
  | connectDeviceClass c => exact c.filter_actions _ rfl rfl rfl

/-- Where there is a keyboard, only the two events of PreReadyToBoot change anything about it. -/
theorem oskEnabled_run (events : List BootEvent) : ∀ s : BootState,
    oskEnabled ((bootManager true).run s events).log = true ↔
      .exitSecurityBoundary ∉ events ∧
        (oskEnabled s.log = true ∨ s.preReadyToBootEvent = true ∧ .preReadyToBoot ∈ events) := by
  have hother : ∀ (s : BootState) (e : BootEvent), e.preReady true = none →
      oskEnabled (s.log ++ e.actions true s) = oskEnabled s.log :=
    fun s e h => oskEnabled_append s.log (filter_ofOsk s (.inr h))
  induction events with
  | nil => intro s; simp [Machine.run]
  | cons e events ih =>
      intro s
      have hstep := step_leads true s e
      rw [Machine.run_cons, ih, hstep.log, hstep.preReadyToBootEvent]
      cases e with
      | preReadyToBoot =>
          cases hevent : s.preReadyToBootEvent with
          | true =>
              -- the event is still there: it turns the keyboard on
              have hon : oskEnabled (s.log ++ BootEvent.preReadyToBoot.actions true s) = true := by
                unfold BootEvent.actions oskEnabled
                rw [if_pos hevent, List.foldl_append]
                rfl
              simp [hon]
          | false =>
              -- a closed event does nothing, and the state of the keyboard stays
              have hnothing : BootEvent.preReadyToBoot.actions true s = [] := by
                unfold BootEvent.actions
                rw [if_neg (Bool.eq_false_iff.mp hevent)]
              simp [hnothing]
      | exitSecurityBoundary =>
          -- it may turn it on first, but ends by turning it off
          have hoff : oskEnabled (s.log ++ BootEvent.exitSecurityBoundary.actions true s) =
              false := by
            unfold BootEvent.actions oskEnabled
            rw [if_pos rfl, ← List.append_assoc, List.foldl_append]
            rfl
          simp [hoff, BootEvent.preReady]
      | postReadyToBoot c => simp [hother s (.postReadyToBoot c) rfl, BootEvent.preReady]
      | connectDevicePath c => simp [hother s (.connectDevicePath c) rfl, BootEvent.preReady]
      | connectDeviceClass c => simp [hother s (.connectDeviceClass c) rfl, BootEvent.preReady]

/-- **When the keyboard comes up by itself**: there is one, PreReadyToBoot has been signalled, and
the security boundary has never been left in the setup. In which order does not matter: leaving
turns the keyboard off for good, for it uses up the event that turns it on. -/
theorem keyboard_on_iff (osk : Bool) (events : List BootEvent) :
    oskEnabled ((bootManager osk).run .start events).log = true ↔
      osk = true ∧ .preReadyToBoot ∈ events ∧ .exitSecurityBoundary ∉ events := by
  cases osk with
  | true =>
      rw [oskEnabled_run]
      simp [BootState.start, oskEnabled, and_comm]
  | false =>
      have hoff : oskEnabled ((bootManager false).run .start events).log = false := by
        apply (bootManager false).run_preserves (I := fun s => oskEnabled s.log = false) _ events rfl
        intro s e hs
        show oskEnabled ((bootManager false).step s e).1.log = false
        rw [(step_leads false s e).log, oskEnabled_append s.log (filter_ofOsk s (.inl rfl)), hs]
      simp [hoff]

/-! ### The pool -/

/-- The loop, so far, has released only what it owned: from `base` on, it has come to own the list it
is building beside `own`. -/
structure DeviceList.Builds (base own : List Nat) (l : DeviceList) : Prop where
  safe : FreesOwn base l.events
  owned : ownedAfter base l.events = l.devices.toList ++ own
  fresh : ∀ b ∈ l.devices, b < l.next

theorem DeviceList.Builds.append {base own : List Nat} {l : DeviceList} (h : l.Builds base own)
    (handle : NetworkHandle) : (l.append handle).Builds base own := by
  obtain ⟨devices, next, events⟩ := l
  obtain ⟨hasPath, appended⟩ := handle
  have hsafe : FreesOwn base events := h.safe
  have howned : ownedAfter base events = devices.toList ++ own := h.owned
  unfold DeviceList.append
  cases hasPath with
  | false => exact h
  | true =>
      have hnew : ∀ b ∈ some next, b < next + 1 := by
        rintro b ⟨⟩
        exact Nat.lt_succ_self next
      cases devices with
      | none =>
          cases appended with
          | false => exact ⟨hsafe, howned, nofun⟩
          | true =>
              refine ⟨(freesOwn_append _ _).mpr ⟨hsafe, trivial⟩, ?_, hnew⟩
              show ownedAfter base (events ++ [.allocates next]) = _
              rw [ownedAfter_append, howned]
              rfl
      | some old =>
          have hold : old < next := h.fresh old rfl
          cases appended with
          | false =>
              -- AppendDevicePathInstance has failed: the old list is released all the same
              refine ⟨?_, ?_, nofun⟩
              · show FreesOwn base (events ++ [.frees (some old)])
                rw [freesOwn_append, howned]
                exact ⟨hsafe, List.mem_cons_self, trivial⟩
              · show ownedAfter base (events ++ [.frees (some old)]) = _
                rw [ownedAfter_append, howned]
                exact List.erase_cons_head old own
          | true =>
              -- the new list is on top of the old one
              have hne : ¬(next == old) = true := by
                rw [beq_iff_eq]
                omega
              refine ⟨?_, ?_, hnew⟩
              · show FreesOwn base (events ++ [.allocates next] ++ [.frees (some old)])
                rw [List.append_assoc, freesOwn_append, howned]
                exact ⟨hsafe, List.mem_cons_of_mem _ List.mem_cons_self, trivial⟩
              · show ownedAfter base (events ++ [.allocates next] ++ [.frees (some old)]) = _
                rw [List.append_assoc, ownedAfter_append, howned]
                show (next :: old :: own).erase old = next :: own
                rw [List.erase_cons_tail hne, List.erase_cons_head]

theorem DeviceList.Builds.foldl {base own : List Nat} (handles : List NetworkHandle) :
    ∀ {l : DeviceList}, l.Builds base own → (handles.foldl DeviceList.append l).Builds base own := by
  induction handles with
  | nil => intro l h; exact h
  | cons handle handles ih => intro l h; exact ih (h.append handle)

theorem DeviceList.Builds.release {base own : List Nat} {l : DeviceList} (h : l.Builds base own) :
    FreesOwn base l.release.2.events ∧ ownedAfter base l.release.2.events = own := by
  obtain ⟨devices, next, events⟩ := l
  have hsafe : FreesOwn base events := h.safe
  have howned : ownedAfter base events = devices.toList ++ own := h.owned
  cases devices with
  | none => exact ⟨hsafe, howned⟩
  | some b =>
      constructor
      · show FreesOwn base (events ++ [.frees (some b)])
        rw [freesOwn_append, howned]
        exact ⟨hsafe, List.mem_cons_self, trivial⟩
      · show ownedAfter base (events ++ [.frees (some b)]) = own
        rw [ownedAfter_append, howned]
        exact List.erase_cons_head b own

/-- **The device list is released, and the handle buffer is not.** -/
theorem connectAllAndCreateNetworkDeviceList_pool (handles : Option (List NetworkHandle))
    (next : Nat) (base : List Nat) :
    FreesOwn base (connectAllAndCreateNetworkDeviceList handles next).2.events ∧
      ownedAfter base (connectAllAndCreateNetworkDeviceList handles next).2.events =
        (handles.map fun _ => next).toList ++ base := by
  cases handles with
  | none =>
      have hstart : DeviceList.Builds base base ⟨none, next, []⟩ := ⟨trivial, rfl, nofun⟩
      exact (hstart.foldl _).release
  | some handles =>
      have hstart : DeviceList.Builds base (next :: base) ⟨none, next + 1, [.allocates next]⟩ :=
        ⟨trivial, rfl, nofun⟩
      exact (hstart.foldl _).release

/-- A request to connect everything that finds handles of network services. -/
def BootEvent.locatesHandles : BootEvent → Bool
  | .connectDeviceClass c =>
      match c.deviceClass with
      | .connectAll => c.tplApplication && c.handles.isSome
      | _ => false
  | _ => false

/-- What an event does with the pool, from `next` on. -/
def BootEvent.poolEvents (next : Nat) : BootEvent → List PoolEvent
  | .connectDeviceClass c =>
      match c.deviceClass with
      | .connectAll =>
          if c.tplApplication then (connectAllAndCreateNetworkDeviceList c.handles next).2.events
          else []
      | _ => []
  | _ => []

theorem step_pool (osk : Bool) (s : BootState) (e : BootEvent) :
    ((bootManager osk).step s e).1.pool = s.pool ++ e.poolEvents s.next := by
  cases e with
  | preReadyToBoot =>
      show (signalPreReadyToBoot osk s).pool = s.pool ++ []
      rw [List.append_nil, signalPreReadyToBoot]
      split <;> rfl
  | exitSecurityBoundary =>
      show (signalPreReadyToBoot osk s).pool = s.pool ++ []
      rw [List.append_nil, signalPreReadyToBoot]
      split <;> rfl
  | postReadyToBoot c =>
      show (postReadyToBoot c s).pool = s.pool ++ []
      rw [List.append_nil, postReadyToBoot]
      split_ifs <;> rfl
  | connectDevicePath c =>
      show (bootManagerPolicyConnectDevicePath c s).2.pool = s.pool ++ []
      rw [connectDevicePath_fields, List.append_nil]
      rfl
  | connectDeviceClass c =>
      show (bootManagerPolicyConnectDeviceClass c s).2.pool = _
      obtain ⟨tplApplication, deviceClass, handles, consoles, delayInstalled, status⟩ := c
      cases tplApplication with
      | false => cases deviceClass <;> exact (List.append_nil _).symm
      | true =>
          cases deviceClass with
          | connectAll => rfl
          | console => exact (List.append_nil _).symm
          | other => exact (List.append_nil _).symm
          | network =>
              show (connectNetwork _ s).2.pool = s.pool ++ []
              rw [List.append_nil, connectNetwork]
              split <;> rfl

/-- The block that LocateHandleBuffer allocates at an event, if blocks are numbered from `next` on:
the first one. -/
def BootEvent.handleBuffer (next : Nat) (e : BootEvent) : Option Nat :=
  if e.locatesHandles then some next else none

/-- The handle buffers of a run, the last one first. -/
def handleBuffers (osk : Bool) : BootState → List BootEvent → List Nat
  | _, [] => []
  | s, e :: events =>
      handleBuffers osk ((bootManager osk).step s e).1 events ++ (e.handleBuffer s.next).toList

theorem length_handleBuffers (osk : Bool) (events : List BootEvent) :
    ∀ s : BootState,
      (handleBuffers osk s events).length = events.countP BootEvent.locatesHandles := by
  induction events with
  | nil => intro s; rfl
  | cons e events ih =>
      intro s
      have hlast : (e.handleBuffer s.next).toList.length = e.locatesHandles.toNat := by
        unfold BootEvent.handleBuffer
        cases e.locatesHandles <;> rfl
      rw [handleBuffers, List.length_append, ih, hlast, List.countP_cons]
      cases e.locatesHandles <;> rfl

/-- An event leaves its handle buffer behind. -/
theorem poolEvents_leak (e : BootEvent) (next : Nat) (base : List Nat) :
    FreesOwn base (e.poolEvents next) ∧
      ownedAfter base (e.poolEvents next) = (e.handleBuffer next).toList ++ base := by
  have hnothing : FreesOwn base [] ∧ ownedAfter base [] = [] ++ base := ⟨trivial, rfl⟩
  cases e with
  | preReadyToBoot => exact hnothing
  | exitSecurityBoundary => exact hnothing
  | postReadyToBoot c => exact hnothing
  | connectDevicePath c => exact hnothing
  | connectDeviceClass c =>
      obtain ⟨tplApplication, deviceClass, handles, consoles, delayInstalled, status⟩ := c
      cases deviceClass with
      | console => exact hnothing
      | network => exact hnothing
      | other => exact hnothing
      | connectAll =>
          cases tplApplication with
          | false => exact hnothing
          | true =>
              obtain ⟨hsafe, howned⟩ := connectAllAndCreateNetworkDeviceList_pool handles next base
              refine ⟨hsafe, howned.trans ?_⟩
              cases handles <;> rfl

/-- **A run leaves its handle buffers behind.** -/
theorem run_pool (osk : Bool) (events : List BootEvent) : ∀ {s : BootState}, FreesOwn [] s.pool →
    FreesOwn [] ((bootManager osk).run s events).pool ∧
      ownedAfter [] ((bootManager osk).run s events).pool =
        handleBuffers osk s events ++ ownedAfter [] s.pool := by
  induction events with
  | nil => intro s h; exact ⟨h, rfl⟩
  | cons e events ih =>
      intro s h
      obtain ⟨hsafe, hleft⟩ := poolEvents_leak e s.next (ownedAfter [] s.pool)
      have hstep : FreesOwn [] ((bootManager osk).step s e).1.pool := by
        rw [step_pool, freesOwn_append]
        exact ⟨h, hsafe⟩
      obtain ⟨hrest, howned⟩ := ih hstep
      refine ⟨hrest, howned.trans ?_⟩
      rw [step_pool, ownedAfter_append, hleft, handleBuffers, List.append_assoc]

/-- **The policy protocol leaks its handle buffers, and nothing else.** In every run it releases only
what it owns, none of it twice; in the end it owns exactly the blocks LocateHandleBuffer has given
it, one for each request to connect everything that has found handles. -/
theorem device_list_owned (osk : Bool) (events : List BootEvent) :
    FreesOwn [] ((bootManager osk).run .start events).pool ∧
      ownedAfter [] ((bootManager osk).run .start events).pool =
        handleBuffers osk .start events ∧
      (ownedAfter [] ((bootManager osk).run .start events).pool).length =
        events.countP BootEvent.locatesHandles := by
  obtain ⟨hsafe, howned⟩ := run_pool osk events (s := .start) trivial
  have hbuffers : ownedAfter [] ((bootManager osk).run .start events).pool =
      handleBuffers osk .start events := howned.trans (List.append_nil _)
  refine ⟨hsafe, hbuffers, ?_⟩
  rw [hbuffers]
  exact length_handleBuffers osk events .start

end OemPkg.Boot
