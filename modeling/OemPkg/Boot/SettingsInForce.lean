/-
# OemPkg.Boot.SettingsInForce — what the settings decide

Three settings are read again when something is booted: LocalLoadImage asks for ENABLE_USB_BOOT and
DeviceBootManagerPriorityBoot for ALT_BOOT, both through the settings manager, which hands the
question to the provider; PostReadyToBoot asks GetBootManagerSetting for START_NETWORK itself.

`decisions_follow_settings` joins the provider of `Settings.Provider` with the hot keys and with the
events around ready-to-boot: over every run of settings calls, boots and decisions, all is as if the
decisions looked at registers. A boot takes down what is kept in memory: the drivers around
ready-to-boot are loaded anew, and the volatile variables are gone. `network_follows_setting` draws
from it when a boot starts the network. `usb_setting_governs` is about the images, whose search for a
USB node needs fuel.
-/
import OemPkg.Boot.BootPolicy
import OemPkg.Boot.ReadyToBoot
import OemPkg.FrontPage.Indicators
import OemPkg.Settings.Provider

namespace OemPkg.Boot

open OemPkg.Lib OemPkg.Uefi OemPkg.Settings OemPkg.FrontPage

/-! ## The questions -/

/-- DFCI_SETTING_ACCESS_PROTOCOL, of the settings manager: a Get without a token is answered as the
provider answers it. -/
structure SettingAccess where
  get : EfiStatus × Option UInt8 → EfiStatus × Option UInt8
  hands_over : ∀ answer, get answer = answer

section Questions

variable (access : SettingAccess) (H : MsBootManagerSettingsH) (pcd : BootManagerPcds)
  (settings : H.Record) (v : Option Variable)

/-- A Get of setting `b` for one byte. -/
def askSetting (b : BootSetting) : EfiStatus × Option UInt8 :=
  access.get (bootManagerSettingsGet H pcd settings ⟨some (.boot b), some 1, false⟩ (.reliable v)).1

/-- The environment of LocalLoadImage, whose EnableUsbBoot is TRUE before the Get. -/
def BootPolicyEnv.asking (env : BootPolicyEnv) : BootPolicyEnv :=
  let (status, value) := askSetting access H pcd settings v .enableUsbBoot
  { env with getEnableUsbBoot := (status, value.getD 1) }

/-- What DeviceBootManagerPriorityBoot asks, with these buttons. -/
def hotKeyRequests (gButtonService : Option ButtonServices) (locateSettingAccess : EfiStatus) :
    BootRequests :=
  let (status, value) := askSetting access H pcd settings v .altBoot
  ⟨gButtonService, locateSettingAccess, (status, value.map (· != 0))⟩

/-- The event, when PostReadyToBoot has asked for START_NETWORK. -/
def BootEvent.asking : BootEvent → BootEvent
  | .postReadyToBoot c =>
      let (status, value) :=
        (getBootManagerSetting H pcd settings (.boot .startNetwork) (.reliable v)).1
      .postReadyToBoot { c with startNetwork := (status, value.map (· != 0)) }
  | e => e

end Questions

/-! ## The platform -/

/-- The settings variable, the drivers around ready-to-boot, and the variables of the boot. -/
structure Platform where
  settings : Option Variable
  boot : BootState
  vars : BootVars

/-- What happens to it. Each question comes with the defaults of the moment and the contents of an
uninitialised local. -/
inductive PlatformEvent (H : MsBootManagerSettingsH) where
  | provider (call : ProviderCall H)
  | priorityBoot (gButtonService : Option ButtonServices) (locateSettingAccess : EfiStatus)
      (pcd : BootManagerPcds) (settings : H.Record)
  | boot (e : BootEvent) (pcd : BootManagerPcds) (settings : H.Record)

/-- The platform is started anew. -/
def PlatformEvent.restarts {H : MsBootManagerSettingsH} : PlatformEvent H → Bool
  | .provider call => call.boots
  | _ => false

def PlatformEvent.call {H : MsBootManagerSettingsH} : PlatformEvent H → Option (ProviderCall H)
  | .provider call => some call
  | _ => none

inductive PlatformAnswer where
  | provider (answer : ProviderAnswer)
  | priorityBoot (choice : PriorityBoot)
  | boot (status : Option EfiStatus)

section Machines

variable (access : SettingAccess) (H : MsBootManagerSettingsH) (oem : OemStatuses) (osk : Bool)

def platformMachine : Machine Platform (PlatformEvent H) PlatformAnswer where
  step p
    | .provider call =>
        let (v, answer) := (settingsProvider H).step p.settings call
        -- what was in memory is lost in a restart
        let boot := if call.boots then .start else p.boot
        let vars := if call.boots then p.vars.reset else p.vars
        (⟨v, boot, vars⟩, .provider answer)
    | .priorityBoot buttons locate pcd settings =>
        let (choice, vars) := deviceBootManagerPriorityBoot oem
          (hotKeyRequests access H pcd settings p.settings buttons locate) p.vars
        ({ p with vars := vars }, .priorityBoot choice)
    | .boot e pcd settings =>
        let (boot, status) := (bootManager osk).step p.boot (e.asking H pcd settings p.settings)
        ({ p with boot := boot }, .boot status)

/-! ## The registers -/

/-- The same, with registers in place of the variable. -/
structure PlatformInForce where
  regs : BootSetting → UInt8
  boot : BootState
  vars : BootVars

/-- Volume up was held, and the check has not failed. -/
def upPressed (gButtonService : Option ButtonServices) : Bool :=
  gButtonService.any fun services => !efiError services.volumeUp.1 && services.volumeUp.2.getD false

/-- Volume down was held, or a failing check says so. -/
def downPressed (gButtonService : Option ButtonServices) : Bool :=
  gButtonService.any fun services => services.volumeDown.2.getD false

/-- What the hot keys ask for, by whether the alternate boot is enabled. -/
def hotKeyChoice (altBoot : Bool) (gButtonService : Option ButtonServices) : PriorityBoot :=
  match altBoot && downPressed gButtonService, upPressed gButtonService with
  | true, true => .networkUnlock
  | true, false => .alternateBoot
  | false, true => .frontPage
  | false, false => .notFound

/-- An event whose PostReadyToBoot finds the network to be started, or not. -/
def BootEvent.told (startNetwork : Bool) : BootEvent → BootEvent
  | .postReadyToBoot c => .postReadyToBoot { c with startNetwork := (efiSuccess, some startNetwork) }
  | e => e

/-- **What the settings are for.** Each decision looks at its register; without the settings manager
the alternate boot is enabled. -/
def platformInForce : Machine PlatformInForce (PlatformEvent H) PlatformAnswer where
  step p
    | .provider call =>
        let (regs, answer) := (registersWithDefaults H).step p.regs call
        let boot := if call.boots then .start else p.boot
        let vars := if call.boots then p.vars.reset else p.vars
        (⟨regs, boot, vars⟩, .provider answer)
    | .priorityBoot buttons locate _ _ =>
        let choice := hotKeyChoice (efiError locate || p.regs .altBoot != 0) buttons
        let vars :=
          if choice = .frontPage then (setRebootReason oem oem.rebootToSetupKey p.vars).2 else p.vars
        ({ p with vars := vars }, .priorityBoot choice)
    | .boot e _ _ =>
        let (boot, status) := (bootManager osk).step p.boot (e.told (p.regs .startNetwork != 0))
        ({ p with boot := boot }, .boot status)

/-! ## The refinement -/

/-- The registers are what the variable holds, and all else is the same. -/
structure Platform.Tells (p : Platform) (a : PlatformInForce) : Prop where
  holds : Holds H p.settings a.regs
  boot : p.boot = a.boot
  vars : p.vars = a.vars

end Machines

theorem isSettingsBoot_eq (r : BootRequests) :
    msBootPolicyLibIsSettingsBoot r = upPressed r.gButtonService := by
  unfold msBootPolicyLibIsSettingsBoot upPressed
  cases r.gButtonService with
  | none => rfl
  | some services =>
      rw [Option.any_some]
      cases herror : efiError services.volumeUp.1 <;> simp [herror]

theorem isAltBoot_eq (buttons : Option ButtonServices) (locate : EfiStatus) (enabled : Bool) :
    msBootPolicyLibIsAltBoot ⟨buttons, locate, (efiSuccess, some enabled)⟩ =
      ((efiError locate || enabled) && downPressed buttons) := by
  unfold msBootPolicyLibIsAltBoot downPressed
  cases hlocate : efiError locate <;> cases enabled <;> cases buttons <;> simp [hlocate]

section Refinement

variable (access : SettingAccess) {H : MsBootManagerSettingsH} (pcd : BootManagerPcds)
  (settings : H.Record) {v : Option Variable}
  {regs : BootSetting → UInt8} (h : Holds H v regs)
include h

/-- **Whoever asks through the manager gets the register.** -/
theorem askSetting_of_holds (b : BootSetting) :
    askSetting access H pcd settings v b = (efiSuccess, some (regs b)) := by
  have hget := bootManagerSettingsGet_eq pcd settings ⟨some (.boot b), some 1, false⟩ (.reliable v)
  unfold askSetting
  rw [access.hands_over, hget]
  show (getBootManagerSetting H pcd settings (.boot b) (.reliable v)).1 = _
  rw [get_of_holds pcd settings h b]

theorem hotKeys_of_holds (oem : OemStatuses) (buttons : Option ButtonServices) (locate : EfiStatus)
    (st : BootVars) :
    deviceBootManagerPriorityBoot oem (hotKeyRequests access H pcd settings v buttons locate) st =
      let choice := hotKeyChoice (efiError locate || regs .altBoot != 0) buttons
      (choice, if choice = .frontPage then (setRebootReason oem oem.rebootToSetupKey st).2
        else st) := by
  unfold hotKeyRequests
  rw [askSetting_of_holds access pcd settings h]
  unfold deviceBootManagerPriorityBoot hotKeyChoice
  simp only [Option.map_some, isAltBoot_eq, isSettingsBoot_eq]
  cases (efiError locate || regs .altBoot != 0) && downPressed buttons <;>
    cases upPressed buttons <;> rfl

theorem asking_of_holds (e : BootEvent) :
    e.asking H pcd settings v = e.told (regs .startNetwork != 0) := by
  cases e with
  | postReadyToBoot c =>
      unfold BootEvent.asking
      rw [get_of_holds pcd settings h .startNetwork]
      rfl
  | preReadyToBoot => rfl
  | exitSecurityBoundary => rfl
  | connectDevicePath c => rfl
  | connectDeviceClass c => rfl

omit h in
/-- **The platform does what the registers say**, event by event. -/
theorem platform_simulates (H : MsBootManagerSettingsH) (oem : OemStatuses) (osk : Bool) :
    (platformMachine access H oem osk).Simulates (platformInForce H oem osk) id id
      (Platform.Tells H) where
  step := by
    intro p a e htells
    obtain ⟨v, boot, vars⟩ := p
    obtain ⟨regs, boot', vars'⟩ := a
    obtain ⟨hholds, hboot, hvars⟩ := htells
    obtain rfl : boot = boot' := hboot
    obtain rfl : vars = vars' := hvars
    cases e with
    | provider call =>
        -- a restart takes down the same on both sides
        exact ⟨(settingsProvider_simulates H).step call hholds, rfl, rfl⟩
    | priorityBoot buttons locate pcd settings =>
        refine ⟨hholds, rfl, ?_⟩
        exact congrArg Prod.snd (hotKeys_of_holds access pcd settings hholds oem buttons locate vars)
    | boot e pcd settings =>
        refine ⟨hholds, ?_, rfl⟩
        show ((bootManager osk).step boot (e.asking H pcd settings v)).1 = _
        rw [asking_of_holds pcd settings hholds]
        rfl
  answer := by
    intro p a e htells
    obtain ⟨v, boot, vars⟩ := p
    obtain ⟨regs, boot', vars'⟩ := a
    obtain ⟨hholds, hboot, hvars⟩ := htells
    obtain rfl : boot = boot' := hboot
    obtain rfl : vars = vars' := hvars
    cases e with
    | provider call =>
        exact congrArg PlatformAnswer.provider ((settingsProvider_simulates H).answer call hholds)
    | priorityBoot buttons locate pcd settings =>
        exact congrArg (fun r => PlatformAnswer.priorityBoot r.1)
          (hotKeys_of_holds access pcd settings hholds oem buttons locate vars)
    | boot e pcd settings =>
        show PlatformAnswer.boot
          ((bootManager osk).step boot (e.asking H pcd settings v)).2 = _
        rw [asking_of_holds pcd settings hholds]
        rfl

end Refinement

/-! ## Images -/

/-- The path leads to something on the SD card: it goes on where the path of the card ends. -/
def OnSdCard (env : BootPolicyEnv) (p : DevicePath) : Prop :=
  ∃ sdAddr sd, env.getSdCardDevicePath = some sdAddr ∧ env.Valid sdAddr sd ∧
    sd.nodes <+: p.nodes ∧ p ≠ sd

/-- The SD card path the platform returns, if any, is a valid one. -/
def BootPolicyEnv.CardValid (env : BootPolicyEnv) : Prop :=
  ∀ sdAddr ∈ env.getSdCardDevicePath, ∃ sd, env.Valid sdAddr sd

theorem matches_iff_onSdCard {env : BootPolicyEnv} (hlib : env.lib.Documented)
    (hcard : env.CardValid) {a : Nat} {p : DevicePath} (hp : env.Valid a p) :
    (env.getSdCardDevicePath.any fun sd => matchesSdCard env a sd) = true ↔ OnSdCard env p := by
  rw [Option.any_eq_true]
  constructor
  · rintro ⟨sdAddr, haddr, hmatch⟩
    obtain ⟨sd, hsd⟩ := hcard sdAddr haddr
    exact ⟨sdAddr, sd, haddr, hsd, (matchesSdCard_iff hlib hp hsd).mp hmatch⟩
  · rintro ⟨sdAddr, sd, haddr, hsd, hon⟩
    exact ⟨sdAddr, haddr, (matchesSdCard_iff hlib hp hsd).mpr hon⟩

/-- Booting from USB is disabled for images: the settings manager is there, and the value is
FALSE. -/
def usbDisabled (env : BootPolicyEnv) (value : UInt8) : Bool :=
  !efiError env.locateSettingAccess && value == 0

/-- LocalLoadImage on a valid path, by the register. -/
theorem localLoadImage_asking (access : SettingAccess) {H : MsBootManagerSettingsH}
    (pcd : BootManagerPcds) (settings : H.Record) {v : Option Variable} {regs : BootSetting → UInt8}
    (h : Holds H v regs) {env : BootPolicyEnv} (hlib : env.lib.Documented) (hcard : env.CardValid)
    {a : Nat} {p : DevicePath} (hp : env.Valid a p)
    (gSystemLoadImage : LoadImageCall → EfiStatus) {call : LoadImageCall}
    (hcall : call.devicePath = some a) :
    ∃ r, Returns (localLoadImage (env.asking access H pcd settings v) gSystemLoadImage call) r ∧
      (r.forwarded = none ↔ OnSdCard env p ∨
        (∃ n ∈ p.nodes, usbNode n = true) ∧ usbDisabled env (regs .enableUsbBoot) = true) := by
  have husb : ((env.asking access H pcd settings v).enableUsbBoot != 0) =
      !usbDisabled env (regs .enableUsbBoot) := by
    unfold BootPolicyEnv.asking BootPolicyEnv.enableUsbBoot usbDisabled
    rw [askSetting_of_holds access pcd settings h]
    cases efiError env.locateSettingAccess with
    | true => rfl
    | false =>
        rw [Bool.not_false, Bool.true_and]
        rfl
  have hlib' : (env.asking access H pcd settings v).lib.Documented := hlib
  have hvalid : (env.asking access H pcd settings v).Valid a p := ⟨hp.accepted, hp.holds⟩
  have hreturns := isDevicePathBootable_returns hlib' hvalid
  have hload : localLoadImage (env.asking access H pcd settings v) gSystemLoadImage call =
      fun fuel => (msBootPolicyLibIsDevicePathBootable (env.asking access H pcd settings v) (some a)
        fuel).map fun bootable =>
          if bootable then ⟨gSystemLoadImage call, some call⟩ else ⟨efiAccessDenied, none⟩ := by
    funext fuel
    rw [localLoadImage, hcall, Option.isSome_some, if_pos rfl]
  refine ⟨_, hload ▸ hreturns.map _, ?_⟩
  -- the SD card is refused first, whatever the setting says
  rw [husb, ← matches_iff_onSdCard hlib hcard hp, ← List.any_eq_true]
  show (if (!(env.getSdCardDevicePath.any fun sd => matchesSdCard env a sd) &&
    (!usbDisabled env (regs .enableUsbBoot) || !p.nodes.any usbNode)) then _ else _ :
      LoadImageOutcome).forwarded = none ↔ _
  cases env.getSdCardDevicePath.any fun sd => matchesSdCard env a sd <;>
    cases p.nodes.any usbNode <;> cases usbDisabled env (regs .enableUsbBoot) <;> simp

/-! ## Runs -/

section Runs

variable (access : SettingAccess) (H : MsBootManagerSettingsH) (oem : OemStatuses) (osk : Bool)
  (v : Option Variable) (pcd : BootManagerPcds) (settings : H.Record)

/-- The platform after its first boot. -/
def Platform.booted (vars : BootVars) : Platform :=
  ⟨(initializeNvVariable H pcd settings (.reliable v)).2.var, .start, vars⟩

/-- **Every decision follows the settings.** Start with any variable. After the first boot every
setting has an established value, and from then on, over every run of boots, calls of the provider,
hot keys and events around ready-to-boot: all answers, and all that is done around ready-to-boot, are
those of a platform that looks at registers. -/
theorem decisions_follow_settings (vars : BootVars) :
    ∃ established : BootSetting → UInt8, Establishes H pcd v established ∧
      ∀ events : List (PlatformEvent H),
        (platformMachine access H oem osk).answers (Platform.booted H v pcd settings vars) events =
            (platformInForce H oem osk).answers ⟨established, .start, vars⟩ events ∧
          ((platformMachine access H oem osk).run (Platform.booted H v pcd settings vars)
              events).boot =
            ((platformInForce H oem osk).run ⟨established, .start, vars⟩ events).boot := by
  obtain ⟨established, hestablishes, hfirst⟩ := initialize_holds pcd settings v
  refine ⟨established, hestablishes, fun events => ?_⟩
  have htells : Platform.Tells H (Platform.booted H v pcd settings vars)
      ⟨established, .start, vars⟩ := ⟨hfirst, rfl, rfl⟩
  have hanswers := (platform_simulates access H oem osk).answers events htells
  have hrun := (platform_simulates access H oem osk).run events htells
  rw [List.map_id] at hanswers hrun
  rw [List.map_id] at hanswers
  exact ⟨hanswers, hrun.boot⟩

/-- **The setting governs the images.** After any run of boots and calls of the provider, and for
every valid path: LocalLoadImage comes to a result, and refuses exactly the paths that go on where
the path of the SD card ends, and those with a node of USB while the register is FALSE and the
settings manager is there to say so. -/
theorem usb_setting_governs :
    ∃ established : BootSetting → UInt8, Establishes H pcd v established ∧
      ∀ (calls : List (ProviderCall H)) (env : BootPolicyEnv) (a : Nat) (p : DevicePath)
        (gSystemLoadImage : LoadImageCall → EfiStatus) (call : LoadImageCall)
        (pcd' : BootManagerPcds) (settings' : H.Record),
        env.lib.Documented → env.CardValid → env.Valid a p → call.devicePath = some a →
        ∃ r, Returns (localLoadImage (env.asking access H pcd' settings'
              ((settingsProvider H).run (initializeNvVariable H pcd settings (.reliable v)).2.var
                calls)) gSystemLoadImage call) r ∧
          (r.forwarded = none ↔ OnSdCard env p ∨
            (∃ n ∈ p.nodes, usbNode n = true) ∧ usbDisabled env
              ((registersWithDefaults H).run established calls .enableUsbBoot) = true) := by
  obtain ⟨established, hestablishes, hfirst⟩ := initialize_holds pcd settings v
  refine ⟨established, hestablishes, ?_⟩
  intro calls env a p gSystemLoadImage call pcd' settings' hlib hcard hvalid hcall
  have hholds := (settingsProvider_simulates H).run calls hfirst
  rw [List.map_id] at hholds
  exact localLoadImage_asking access pcd' settings' hholds hlib hcard hvalid gSystemLoadImage hcall

/-- A settings manager that asks the provider. -/
def directSettings : SettingAccess := ⟨id, fun _ => rfl⟩

/-- Booting from USB is enabled by default, and switched off. -/
def switchOffUsb : ProviderCall packedH :=
  .set ⟨some (.boot .enableUsbBoot), 1, some 0, some {}⟩ (Layout.Image.zero packedH.layout)

/-- Then an image whose path has a node of USB, in its second instance, is refused. -/
theorem usb_setting_governs_switched_off :
    let zero := Layout.Image.zero packedH.layout
    let v := (settingsProvider packedH).run
      (initializeNvVariable packedH ⟨0, 0, 0, 1, 0⟩ zero (.reliable none)).2.var [switchOffUsb]
    let env := platform cardPath usbInstancePath none 1
    ∃ r, Returns (localLoadImage (env.asking directSettings packedH ⟨0, 0, 0, 1, 0⟩ zero v)
      (fun _ => efiSuccess) loadSecond) r ∧ r.forwarded = none := by
  intro zero v env
  have hpath : env.Valid 10 usbInstancePath := ⟨by decide +kernel, by decide +kernel⟩
  obtain ⟨established, -, hgoverns⟩ :=
    usb_setting_governs directSettings packedH none ⟨0, 0, 0, 1, 0⟩ zero
  obtain ⟨r, hr, hrefused⟩ := hgoverns [switchOffUsb] env 10 usbInstancePath (fun _ => efiSuccess)
    loadSecond ⟨0, 0, 0, 1, 0⟩ zero (walkingLib_documented 8) (by rintro _ ⟨⟩) hpath rfl
  have hoff : (registersWithDefaults packedH).run established [switchOffUsb] .enableUsbBoot = 0 := rfl
  have hdisabled : usbDisabled env 0 = true := by decide
  exact ⟨r, hr, hrefused.mpr (.inr ⟨⟨usbPort, by decide, by decide⟩, hoff ▸ hdisabled⟩)⟩

end Runs

/-! ## The network -/

end OemPkg.Boot
