/-
# OemPkg.Boot.BootOrderSeal — the signal that seals the boot order

`BdsBootLockBootVariables` runs in the notification of PreReadyToBoot and asks for BOOT_ORDER_LOCK
when it runs. `Boot.VariableLock` has what it locks, `Boot.ReadyToBoot` when it is called, and
`Settings.Provider` what the setting is by then. Here they stand side by side, with anyone sending
SetVariable requests in between.

AlreadyLocked is never set, so that the function does not keep itself from running again. The event
does: it is closed by its first notification. `boot_order_sealed` draws the consequence. In each boot
the value of the register at the first signal decides, and what is set later changes nothing until a
restart takes down the locks and the next boot opens the event again.
-/
import OemPkg.Boot.SettingsInForce
import OemPkg.Boot.VariableLock

namespace OemPkg.Boot

open OemPkg.Lib OemPkg.Uefi OemPkg.Settings

/-! ## The platform and its boot variables -/

/-- What the lock uses of other packages, all in working order: the variable policy protocol is
there, and PrintLib prints `%04x` as four upper-case digits. -/
structure PolicyServices where
  locateProtocol : EfiStatus
  located : efiError locateProtocol = false
  unicodeSPrint : UInt16 → String
  prints : ∀ n, unicodeSPrint n = bootOptionName n

/-- Services that work. -/
def workingPolicy : PolicyServices where
  locateProtocol := efiSuccess
  located := efiError_success
  unicodeSPrint := bootOptionName
  prints _ := rfl

/-- What BdsBootLockBootVariables calls, with the settings variable `v`. -/
def PolicyServices.lockServices (policy : PolicyServices) (H : MsBootManagerSettingsH)
    (pcd : BootManagerPcds) (settings : H.Record) (v : Option Variable) : LockServices where
  getBootManagerSetting id := (getBootManagerSetting H pcd settings id (.reliable v)).1
  locateProtocol := policy.locateProtocol
  registerFault _ := none
  readFault := none
  unicodeSPrint := policy.unicodeSPrint

/-- What a restart leaves: neither the volatile variables nor the locks, which last to the next
reset. -/
def restarted (st : GlobalVariables) : GlobalVariables := ⟨st.vars.reset, []⟩

structure BootPlatform where
  platform : Platform
  globals : GlobalVariables

inductive BootPlatformEvent (H : MsBootManagerSettingsH) where
  | platform (e : PlatformEvent H)
  | setVariable (r : SetRequest)

section Machines

variable (policy : PolicyServices) (access : SettingAccess) (H : MsBootManagerSettingsH)
  (oem : OemStatuses) (osk : Bool)

/-- What an event around ready-to-boot does to the boot variables. -/
def lockedAt (e : BootEvent) (pcd : BootManagerPcds) (settings : H.Record) (p : BootPlatform) :
    GlobalVariables :=
  if .lockBootVariables ∈ e.actions osk p.platform.boot then
    bdsBootLockBootVariables (policy.lockServices H pcd settings p.platform.settings) p.globals
  else p.globals

def bootPlatformMachine :
    Machine BootPlatform (BootPlatformEvent H) (PlatformAnswer ⊕ EfiStatus) where
  step p
    | .platform e =>
        let (platform, answer) := (platformMachine access H oem osk).step p.platform e
        let globals :=
          match e with
          | .boot e pcd settings => lockedAt policy H osk e pcd settings p
          | .provider call => if call.boots then restarted p.globals else p.globals
          | .priorityBoot _ _ _ _ => p.globals
        (⟨platform, globals⟩, .inl answer)
    | .setVariable r =>
        let (globals, status) := globalNamespace.step p.globals r
        ({ p with globals := globals }, .inr status)

end Machines

namespace BootPlatformEvent

variable {H : MsBootManagerSettingsH}

/-- PreReadyToBoot is signalled. -/
def signals (osk : Bool) : BootPlatformEvent H → Bool
  | .platform (.boot e _ _) => (e.preReady osk).isSome
  | _ => false

def restarts : BootPlatformEvent H → Bool
  | .platform e => e.restarts
  | .setVariable _ => false

def request : BootPlatformEvent H → Option SetRequest
  | .setVariable r => some r
  | _ => none

def call : BootPlatformEvent H → Option (ProviderCall H)
  | .platform e => e.call
  | .setVariable _ => none

end BootPlatformEvent

/-! ## Sealed -/

/-- BootOrder, and the variable of each option it names. -/
def bootNames (st : GlobalVariables) : List String :=
  efiBootOrderVariableName :: (bootOptions st).map bootOptionName

/-- The boot variables are those of `first`, without BootNext, and all are locked. -/
structure SealedFrom (first st : GlobalVariables) : Prop where
  bootNext : st.vars efiBootNextVariableName = none
  vars : ∀ name ∈ bootNames first, st.vars name = first.vars name
  locked : ∀ name ∈ efiBootNextVariableName :: bootNames first, name ∈ st.locked

theorem bootNames_ne_bootNext (st : GlobalVariables) :
    ∀ name ∈ bootNames st, name ≠ efiBootNextVariableName := by
  intro name hname
  rcases List.mem_cons.mp hname with rfl | hoption
  · exact bootOrder_ne_bootNext
  · obtain ⟨n, -, rfl⟩ := List.mem_map.mp hoption
    exact bootOptionName_ne_bootNext n

/-- BdsBootLockBootVariables seals. -/
theorem sealedFrom_lock {sv : LockServices} {st : GlobalVariables} (h : LocksBoot sv st) :
    SealedFrom st (bdsBootLockBootVariables sv st) := by
  obtain ⟨hvars, hnext, horder, hall⟩ := bdsBootLockBootVariables_spec h
  refine ⟨?_, ?_, ?_⟩
  · rw [hvars, Function.update_self]
  · intro name hname
    rw [hvars, Function.update_of_ne (bootNames_ne_bootNext st name hname)]
  · intro name hname
    rcases List.mem_cons.mp hname with rfl | hname
    · exact hnext
    · rcases List.mem_cons.mp hname with rfl | hoption
      · exact horder
      · obtain ⟨n, hn, rfl⟩ := List.mem_map.mp hoption
        exact hall n hn

/-- A variable without a lock can be deleted, or is not there. -/
theorem delete_status {st : GlobalVariables} {name : String} (h : name ∉ st.locked) :
    (st.setVariable name 0#32 []).1 = efiSuccess ∨
      (st.setVariable name 0#32 []).1 = efiNotFound := by
  unfold GlobalVariables.setVariable
  rw [if_neg h]
  cases st.vars name with
  | none => exact .inr rfl
  | some v => exact .inl rfl

/-- No request breaks a seal. -/
theorem SealedFrom.setVariable {first st : GlobalVariables} (h : SealedFrom first st)
    (r : SetRequest) : SealedFrom first (globalNamespace.step st r).1 where
  bootNext := by
    have hlocked := h.locked _ List.mem_cons_self
    exact (vars_setVariable_of_locked hlocked _ _ _).trans h.bootNext
  vars := by
    intro name hname
    have hlocked := h.locked name (List.mem_cons_of_mem _ hname)
    exact (vars_setVariable_of_locked hlocked _ _ _).trans (h.vars name hname)
  locked := by
    intro name hname
    show name ∈ (st.setVariable r.name r.attributes r.data).2.locked
    rw [locked_setVariable]
    exact h.locked name hname

theorem SealedFrom.run {first st : GlobalVariables} (h : SealedFrom first st)
    (reqs : List SetRequest) : SealedFrom first (globalNamespace.run st reqs) :=
  globalNamespace.run_preserves (fun _ r hst => hst.setVariable r) reqs h

theorem SealedFrom.bootSequence_eq {first st : GlobalVariables} (h : SealedFrom first st) :
    bootSequence st = bootSequence first := by
  have hoptions : bootOptions st = bootOptions first := by
    unfold bootOptions
    rw [h.vars _ List.mem_cons_self]
  unfold bootSequence
  rw [hoptions]
  apply List.map_congr_left
  intro n hn
  rw [h.vars _ (List.mem_cons_of_mem _ (List.mem_map_of_mem hn))]

/-! ## One event -/

/-- The variables are to be locked when the group is signalled and the event not closed. -/
theorem lockBootVariables_mem_actions (osk : Bool) (e : BootEvent) (s : BootState) :
    .lockBootVariables ∈ e.actions osk s ↔
      s.preReadyToBootEvent = true ∧ (e.preReady osk).isSome = true := by
  have hmem : .lockBootVariables ∈ e.actions osk s ↔
      .lockBootVariables ∈ (e.actions osk s).filter BootAction.ofPreReady := by
    rw [List.mem_filter]
    exact (and_iff_left rfl).symm
  rw [hmem, filter_ofPreReady]
  cases s.preReadyToBootEvent <;> cases e <;> simp [BootEvent.preReady]

section Steps

variable (policy : PolicyServices) (access : SettingAccess) {H : MsBootManagerSettingsH}
  (oem : OemStatuses) (osk : Bool)

/-- The registers follow the calls of the provider, and nothing else. -/
theorem holds_step {p : BootPlatform} {regs : BootSetting → UInt8}
    (h : Holds H p.platform.settings regs) (e : BootPlatformEvent H) :
    Holds H ((bootPlatformMachine policy access H oem osk).step p e).1.platform.settings
      ((registersWithDefaults H).run regs e.call.toList) := by
  cases e with
  | setVariable r => exact h
  | platform e =>
      cases e with
      | provider call => exact (settingsProvider_simulates H).step call h
      | priorityBoot buttons locate pcd settings => exact h
      | boot e pcd settings => exact h

/-- A signal closes the event. -/
theorem event_step (p : BootPlatform) {e : BootPlatformEvent H} (h : e.restarts = false) :
    ((bootPlatformMachine policy access H oem osk).step p e).1.platform.boot.preReadyToBootEvent =
      (p.platform.boot.preReadyToBootEvent && !e.signals osk) := by
  cases e with
  | setVariable r => exact (Bool.and_true _).symm
  | platform e =>
      cases e with
      | provider call =>
          have hcall : call.boots = false := h
          dsimp only [bootPlatformMachine, platformMachine]
          rw [hcall]
          exact (Bool.and_true _).symm
      | priorityBoot buttons locate pcd settings => exact (Bool.and_true _).symm
      | boot e pcd settings =>
          have hsame : (e.asking H pcd settings p.platform.settings).preReady osk =
              e.preReady osk := by
            cases e <;> rfl
          have hleads := (step_leads osk p.platform.boot
            (e.asking H pcd settings p.platform.settings)).preReadyToBootEvent
          rw [hsame, ← Option.not_isSome] at hleads
          exact hleads

/-- Where nothing is locked, the variables follow the requests, and nothing else. -/
theorem globals_step {p : BootPlatform} {e : BootPlatformEvent H} (hrestart : e.restarts = false)
    (h : (p.platform.boot.preReadyToBootEvent && e.signals osk) = false) :
    ((bootPlatformMachine policy access H oem osk).step p e).1.globals =
      globalNamespace.run p.globals e.request.toList := by
  cases e with
  | setVariable r => rfl
  | platform e =>
      cases e with
      | provider call =>
          have hcall : call.boots = false := hrestart
          dsimp only [bootPlatformMachine]
          rw [hcall]
          rfl
      | priorityBoot buttons locate pcd settings => rfl
      | boot e pcd settings =>
          apply if_neg
          rw [lockBootVariables_mem_actions, ← Bool.and_eq_true]
          exact ne_true_of_eq_false h

/-- A restart opens the event again and takes down the locks. -/
theorem step_restart (p : BootPlatform) (e : BootPlatformEvent H) (h : e.restarts = true) :
    let p' := ((bootPlatformMachine policy access H oem osk).step p e).1
    p'.platform.boot.preReadyToBootEvent = true ∧ p'.globals.locked = [] := by
  cases e with
  | setVariable r => exact absurd h Bool.false_ne_true
  | platform e =>
      cases e with
      | provider call =>
          have hcall : call.boots = true := h
          dsimp only [bootPlatformMachine, platformMachine]
          rw [hcall]
          exact ⟨rfl, rfl⟩
      | priorityBoot buttons locate pcd settings => exact absurd h Bool.false_ne_true
      | boot e pcd settings => exact absurd h Bool.false_ne_true

end Steps

/-! ## Runs -/

/-- Waiting for the first signal of a boot. -/
structure Waiting (H : MsBootManagerSettingsH) (p : BootPlatform) (regs : BootSetting → UInt8) :
    Prop where
  event : p.platform.boot.preReadyToBootEvent = true
  settings : Holds H p.platform.settings regs
  unlocked : p.globals.locked = []

section Runs

variable (policy : PolicyServices) (access : SettingAccess) {H : MsBootManagerSettingsH}
  (oem : OemStatuses) (osk : Bool)

/-- An event that is no signal leaves it waiting. -/
theorem Waiting.step {p : BootPlatform} {regs : BootSetting → UInt8} (h : Waiting H p regs)
    {e : BootPlatformEvent H} (hrestart : e.restarts = false) (hsignal : e.signals osk = false) :
    Waiting H ((bootPlatformMachine policy access H oem osk).step p e).1
      ((registersWithDefaults H).run regs e.call.toList) where
  event := by
    rw [event_step policy access oem osk p hrestart, h.event, hsignal]
    rfl
  settings := holds_step policy access oem osk h.settings e
  unlocked := by
    rw [globals_step policy access oem osk hrestart (by rw [hsignal, Bool.and_false])]
    have hlocked := globalNamespace.run_preserves (I := fun st => st.locked = [])
      (fun st r hst => (locked_setVariable st r.name r.attributes r.data).trans hst)
    exact hlocked _ h.unlocked

/-- After the signal the variables follow the requests. -/
theorem globals_run_closed (events : List (BootPlatformEvent H)) : ∀ {p : BootPlatform},
    (∀ e ∈ events, e.restarts = false) → p.platform.boot.preReadyToBootEvent = false →
      ((bootPlatformMachine policy access H oem osk).run p events).globals =
        globalNamespace.run p.globals (events.filterMap BootPlatformEvent.request) := by
  induction events with
  | nil => intro p _ _; rfl
  | cons e events ih =>
      intro p hrestarts hclosed
      have hfirst := hrestarts e List.mem_cons_self
      have hrest : ∀ e ∈ events, e.restarts = false :=
        fun e he => hrestarts e (List.mem_cons_of_mem _ he)
      have hstill : ((bootPlatformMachine policy access H oem osk).step
          p e).1.platform.boot.preReadyToBootEvent = false := by
        rw [event_step policy access oem osk p hfirst, hclosed, Bool.false_and]
      rw [Machine.run_cons, ih hrest hstill,
        globals_step policy access oem osk hfirst (by rw [hclosed, Bool.false_and]),
        Machine.run_filterMap_cons]

/-- **The signal.** The register decides whether the variables are sealed. -/
theorem lockedAt_of_waiting {p : BootPlatform} {regs : BootSetting → UInt8} (h : Waiting H p regs)
    {e : BootEvent} (hsignal : (e.preReady osk).isSome = true) (pcd : BootManagerPcds)
    (settings : H.Record) :
    if regs .bootOrderLock ≠ 0 then SealedFrom p.globals (lockedAt policy H osk e pcd settings p)
    else lockedAt policy H osk e pcd settings p = p.globals := by
  obtain ⟨sv, hsv⟩ : ∃ sv, sv = policy.lockServices H pcd settings p.platform.settings := ⟨_, rfl⟩
  have hlocks : lockedAt policy H osk e pcd settings p = bdsBootLockBootVariables sv p.globals := by
    rw [hsv]
    exact if_pos ((lockBootVariables_mem_actions osk e _).mpr ⟨h.event, hsignal⟩)
  have hsetting : sv.getBootManagerSetting (.boot .bootOrderLock) =
      (efiSuccess, some (regs .bootOrderLock)) := by
    rw [hsv]
    exact congrArg Prod.fst (get_of_holds pcd settings h.settings .bootOrderLock)
  rw [hlocks]
  split_ifs with hon
  · apply sealedFrom_lock
    have hregister : ∀ name, sv.registerFault name = none := by
      rw [hsv]
      exact fun _ => rfl
    refine ⟨?_, ?_, ?_, hregister, ?_, ?_, ?_⟩
    · rw [hsetting]
      exact efiError_success
    · rw [hsetting]
      exact hon
    · rw [hsv]
      exact policy.located
    · rw [hsv]
      rfl
    · -- BootOrder has the only lock so far, so that BootNext can be deleted
      apply delete_status
      rw [mem_lockVariable hregister, h.unlocked]
      exact not_or.mpr ⟨bootOrder_ne_bootNext.symm, List.not_mem_nil⟩
    · rw [hsv]
      exact policy.prints
  · unfold bdsBootLockBootVariables
    simp only [alreadyLocked, hsetting, not_not.mp hon, efiError_success, Bool.false_eq_true,
      if_false, Option.getD_some, if_true]

theorem exists_of_signals {e : BootPlatformEvent H} (h : e.signals osk = true) :
    ∃ e' pcd settings, e = .platform (.boot e' pcd settings) := by
  cases e with
  | setVariable r => exact absurd h Bool.false_ne_true
  | platform e =>
      cases e with
      | provider call => exact absurd h Bool.false_ne_true
      | priorityBoot buttons locate pcd settings => exact absurd h Bool.false_ne_true
      | boot e pcd settings => exact ⟨e, pcd, settings, rfl⟩

/-- One boot of a platform that waits. By induction on the events up to the signal; from the signal
on the seal, or its absence, is kept. -/
theorem Waiting.run (events : List (BootPlatformEvent H)) : ∀ {p : BootPlatform}
    {regs : BootSetting → UInt8}, Waiting H p regs → (∀ e ∈ events, e.restarts = false) →
      let before := events.takeWhile fun e => !e.signals osk
      let first := globalNamespace.run p.globals (before.filterMap BootPlatformEvent.request)
      let later := ((bootPlatformMachine policy access H oem osk).run p events).globals
      if (events.any fun e => e.signals osk) = true ∧ (registersWithDefaults H).run regs
          (before.filterMap BootPlatformEvent.call) .bootOrderLock ≠ 0 then
        SealedFrom first later
      else
        later = globalNamespace.run p.globals (events.filterMap BootPlatformEvent.request) := by
  induction events with
  | nil =>
      intro p regs _ _
      exact (if_neg fun h => absurd h.1 Bool.false_ne_true).mpr rfl
  | cons e events ih =>
      intro p regs h hrestarts
      have hfirst := hrestarts e List.mem_cons_self
      have hrest : ∀ e ∈ events, e.restarts = false :=
        fun e he => hrestarts e (List.mem_cons_of_mem _ he)
      cases hsignal : e.signals osk with
      | false =>
          -- a request goes to the platform and to the plain namespace alike
          have hlater := ih (h.step policy access oem osk hfirst hsignal) hrest
          have hglobals := globals_step policy access oem osk (p := p) hfirst
            (by rw [hsignal, Bool.and_false])
          simp only [hglobals] at hlater
          simpa only [List.takeWhile_cons, hsignal, Bool.not_false, if_true, List.any_cons,
            Bool.false_or, Machine.run_filterMap_cons, Machine.run_cons] using hlater
      | true =>
          obtain ⟨e, pcd, settings, rfl⟩ := exists_of_signals osk hsignal
          have hclosed : ((bootPlatformMachine policy access H oem osk).step p
              (.platform (.boot e pcd settings))).1.platform.boot.preReadyToBootEvent = false := by
            rw [event_step policy access oem osk p hfirst, hsignal]
            exact Bool.and_false _
          -- the rest of the boot starts from what this one notification leaves
          have hrun := globals_run_closed policy access oem osk events hrest hclosed
          have hlocked := lockedAt_of_waiting policy osk h hsignal pcd settings
          simp only [List.takeWhile_cons, hsignal, Bool.not_true, Bool.false_eq_true, if_false,
            List.any_cons, Bool.true_or, true_and, Machine.run_cons, hrun]
          by_cases hon : regs .bootOrderLock ≠ 0
          · rw [if_pos hon] at hlocked
            refine (if_pos hon).mpr ?_
            exact hlocked.run _
          · rw [if_neg hon] at hlocked
            refine (if_neg hon).mpr ?_
            exact congrArg (globalNamespace.run · _) hlocked

theorem holds_run (events : List (BootPlatformEvent H)) : ∀ {p : BootPlatform}
    {regs : BootSetting → UInt8}, Holds H p.platform.settings regs →
      Holds H ((bootPlatformMachine policy access H oem osk).run p events).platform.settings
        ((registersWithDefaults H).run regs (events.filterMap BootPlatformEvent.call)) := by
  induction events with
  | nil => intro p regs h; exact h
  | cons e events ih =>
      intro p regs h
      rw [Machine.run_cons, Machine.run_filterMap_cons]
      exact ih (holds_step policy access oem osk h e)

/-- **The first signal of a boot decides.** Start with any settings variable and any boot variables,
none of them locked. After the first boot every setting has an established value. From then on, look
at the boot that is under way after any run of settings calls, boots, decisions, events around
ready-to-boot and SetVariable requests from anyone. It begins with nothing locked. If the register of
BOOT_ORDER_LOCK was not 0 at its first signal of PreReadyToBoot, BootNext is gone, and what will boot
is what it was at that signal. Otherwise, and before there is a signal, the boot variables are what
the requests of this boot have made of them. -/
theorem boot_order_sealed (H : MsBootManagerSettingsH) (v : Option Variable) (pcd : BootManagerPcds)
    (settings : H.Record) (vars : BootVars) (store : VarStore String) :
    ∃ established : BootSetting → UInt8, Establishes H pcd v established ∧
      ∀ events : List (BootPlatformEvent H),
        let run := (bootPlatformMachine policy access H oem osk).run
          ⟨Platform.booted H v pcd settings vars, ⟨store, []⟩⟩
        let earlier := Machine.upToLast BootPlatformEvent.restarts events
        let current := Machine.sinceLast BootPlatformEvent.restarts events
        let before := current.takeWhile fun e => !e.signals osk
        let opening := (run earlier).globals
        let first := globalNamespace.run opening (before.filterMap BootPlatformEvent.request)
        let later := (run events).globals
        opening.locked = [] ∧
        if (current.any fun e => e.signals osk) = true ∧ (registersWithDefaults H).run established
            ((earlier ++ before).filterMap BootPlatformEvent.call) .bootOrderLock ≠ 0 then
          later.vars efiBootNextVariableName = none ∧
            later.vars efiBootOrderVariableName = first.vars efiBootOrderVariableName ∧
            bootSequence later = bootSequence first
        else
          later = globalNamespace.run opening (current.filterMap BootPlatformEvent.request) := by
  obtain ⟨established, hestablishes, hfirst⟩ := initialize_holds pcd settings v
  refine ⟨established, hestablishes, fun events => ?_⟩
  intro run earlier current before opening first later
  obtain ⟨hevent, hlocked⟩ := (bootPlatformMachine policy access H oem osk).run_upToLast
    (I := fun p => p.platform.boot.preReadyToBootEvent = true ∧ p.globals.locked = [])
    (step_restart policy access oem osk) events
    (s := ⟨Platform.booted H v pcd settings vars, ⟨store, []⟩⟩) ⟨rfl, rfl⟩
  have hwaiting : Waiting H (run earlier)
      ((registersWithDefaults H).run established (earlier.filterMap BootPlatformEvent.call)) :=
    ⟨hevent, holds_run policy access oem osk earlier hfirst, hlocked⟩
  have hrun := hwaiting.run policy access oem osk current
    fun e he => Machine.restarts_of_mem_sinceLast he
  have hlater : later = ((bootPlatformMachine policy access H oem osk).run (run earlier)
      current).globals :=
    congrArg BootPlatform.globals (Machine.run_sinceLast _ BootPlatformEvent.restarts events _)
  refine ⟨hlocked, ?_⟩
  rw [List.filterMap_append, Machine.run_append]
  by_cases hseal : (current.any fun e => e.signals osk) = true ∧ (registersWithDefaults H).run
      ((registersWithDefaults H).run established (earlier.filterMap BootPlatformEvent.call))
      (before.filterMap BootPlatformEvent.call) .bootOrderLock ≠ 0
  · rw [if_pos hseal] at hrun ⊢
    rw [hlater]
    exact ⟨hrun.bootNext, hrun.vars _ List.mem_cons_self, hrun.bootSequence_eq⟩
  · rw [if_neg hseal] at hrun ⊢
    rw [hlater]
    exact hrun

end Runs

/-- BootOrder is written, with the one option `n`. -/
def writesOrder (n : UInt8) : BootPlatformEvent packedH :=
  .setVariable ⟨efiBootOrderVariableName, efiVariableNonVolatile ||| efiVariableBootserviceAccess,
    [n, 0]⟩

/-- BOOT_ORDER_LOCK is switched on. -/
def switchOnLock : BootPlatformEvent packedH :=
  .platform (.provider (.set ⟨some (.boot .bootOrderLock), 1, some 1, some {}⟩
    (Layout.Image.zero packedH.layout)))

def restartNow : BootPlatformEvent packedH :=
  .platform (.provider (.boot ⟨0, 0, 0, 1, 0⟩ (Layout.Image.zero packedH.layout)))

def signalNow : BootPlatformEvent packedH :=
  .platform (.boot .preReadyToBoot ⟨0, 0, 0, 1, 0⟩ (Layout.Image.zero packedH.layout))

/-- Switched on in the first boot, the lock keeps the order that each boot has at its signal: what is
written before the signal of the second boot counts, and what is written after it is lost. -/
theorem boot_order_sealed_second_boot :
    let events := [switchOnLock, writesOrder 1, signalNow, writesOrder 2, restartNow, writesOrder 3,
      signalNow, writesOrder 4]
    let run := (bootPlatformMachine workingPolicy directSettings packedH someOemStatuses true).run
      ⟨Platform.booted packedH none ⟨0, 0, 0, 1, 0⟩ (Layout.Image.zero packedH.layout)
        fun _ => none, ⟨fun _ => none, []⟩⟩
    ((run events).globals.vars efiBootOrderVariableName).map Variable.data = some [3, 0] := by
  intro events run
  obtain ⟨established, -, hsealed⟩ := boot_order_sealed workingPolicy directSettings someOemStatuses
    true packedH none ⟨0, 0, 0, 1, 0⟩ (Layout.Image.zero packedH.layout) (fun _ => none) fun _ => none
  obtain ⟨-, hboot⟩ := hsealed events
  rw [if_pos] at hboot
  · rw [hboot.2.1]
    decide +kernel
  · have hon : (registersWithDefaults packedH).run established
        ([switchOnLock, writesOrder 1, signalNow, writesOrder 2, restartNow, writesOrder 3].filterMap
          BootPlatformEvent.call) .bootOrderLock = 1 := rfl
    exact ⟨rfl, hon.symm ▸ by decide⟩

end OemPkg.Boot
