/-
# OemPkg.BootMenu.OrderForm — the boot order form

The model of RebuildOrderList and of RouteConfig's BootOrderConfig part (`BootMenu/BootMenu.c`).
RebuildOrderList loads the boot options and writes one entry per displayed option into the slots of
the form; RouteConfig takes the slots as the user left them, asks before it boots or deletes, and
writes the boot order.

RouteConfig is modelled by the log of what it does: `Event` has one constructor per kind of dialog,
write and deletion, and the variables afterwards are the log replayed on the variables before. What
the user answers is `Dialogs`, one reply per dialog of the call. Variable writes succeed.
-/
import OemPkg.Lib.Bytes
import OemPkg.Uefi.Status
import Mathlib.Data.List.Basic
import Mathlib.Logic.Function.Basic

namespace OemPkg.BootMenu

open OemPkg.Lib OemPkg.Uefi

/-! ## Load options and the variables behind them -/

/-- What a Boot#### variable holds. -/
structure EfiLoadOption where
  attributes : UInt32
  description : String
  /-- the device path and the optional data -/
  rest : Bytes
  deriving DecidableEq

/-- EFI_BOOT_MANAGER_LOAD_OPTION, of type LoadOptionTypeBoot. -/
structure LoadOption extends EfiLoadOption where
  /-- OptionNumber; `none` is LoadOptionNumberUnassigned, 0x10000 -/
  optionNumber : Option UInt16
  deriving DecidableEq

/-- `(UINT16) OptionNumber`. -/
def LoadOption.number (o : LoadOption) : UInt16 := o.optionNumber.getD 0

/-- LOAD_OPTION_ACTIVE -/
def loadOptionActive : UInt32 := 0x1
/-- LOAD_OPTION_HIDDEN -/
def loadOptionHidden : UInt32 := 0x8
/-- LOAD_OPTION_CATEGORY_APP -/
def loadOptionCategoryApp : UInt32 := 0x100

/-- LOAD_OPTION_ACTIVE is set. -/
def EfiLoadOption.active (o : EfiLoadOption) : Bool :=
  o.attributes &&& loadOptionActive == loadOptionActive

/-- Neither hidden nor an application: RebuildOrderList shows the option. -/
def EfiLoadOption.displayed (o : EfiLoadOption) : Bool :=
  o.attributes &&& loadOptionHidden == 0 && o.attributes &&& loadOptionCategoryApp == 0

/-- The variables the boot menu reads and writes. -/
structure BootVariables where
  /-- BootOrder; a variable of no bytes is an absent one -/
  bootOrder : List UInt16
  /-- Boot####, where it is present and parses -/
  boot : UInt16 → Option EfiLoadOption
  bootNext : Option UInt16
  msBootNext : Option Bool

/-- EfiBootManagerGetLoadOptions: BootOrder's options, without those that are missing. -/
def getLoadOptions (vars : BootVariables) : List LoadOption :=
  vars.bootOrder.filterMap fun n => (vars.boot n).map fun o => { o with optionNumber := some n }

/-! ## RebuildOrderList -/

/-- MAX_BOOT_OPTIONS_SUPPORTED -/
def maxBootOptionsSupported : Nat := 6

/-- The flags an entry of the form carries, which lie above the option number. -/
structure OrderedListFlags where
  /-- ORDERED_LIST_CHECKBOX_VALUE_32 -/
  checkbox : UInt32
  /-- ORDERED_LIST_ALLOW_DELETE_VALUE_32 -/
  allowDelete : UInt32
  /-- ORDERED_LIST_BOOT_VALUE_32 -/
  boot : UInt32
  checkbox_high : checkbox &&& 0x1FFFF = 0
  allowDelete_high : allowDelete &&& 0x1FFFF = 0
  boot_high : boot &&& 0x1FFFF = 0
  disjoint : checkbox &&& allowDelete = 0 ∧ checkbox &&& boot = 0 ∧ allowDelete &&& boot = 0

/-- ORDER_MENU_CONFIGURATION -/
structure OrderMenuConfiguration where
  orderOptions : List UInt32
  size : orderOptions.length = maxBootOptionsSupported

/-- The menu's globals: mBootOptions with mBootOptionCount, and mOrderConfiguration. -/
structure OrderMenu where
  bootOptions : List LoadOption
  orderConfiguration : OrderMenuConfiguration

/-- mBootOptionLimit -/
def OrderMenu.bootOptionLimit (m : OrderMenu) : Nat :=
  min m.bootOptions.length maxBootOptionsSupported

section Form

variable (H : OrderedListFlags) (defaults : Option (List EfiLoadOption))

/-- IsDefaultBootOption: one of the platform's own options, active or not. -/
def isDefaultBootOption (o : EfiLoadOption) : Bool :=
  match defaults with
  | none => false
  | some options =>
      options.contains { o with attributes := o.attributes ||| loadOptionActive } ||
      options.contains { o with attributes := o.attributes &&& ~~~loadOptionActive }

/-- The entry of a displayed option. -/
def optionValue (o : LoadOption) : UInt32 :=
  (o.optionNumber.elim 0x10000 UInt16.toUInt32 + 1) |||
    (if o.active then H.checkbox else 0) |||
    (if isDefaultBootOption defaults o.toEfiLoadOption then 0 else H.allowDelete)

/-- The slot of an option: an undisplayed one leaves the zero it was cleared to. -/
def orderOption (o : LoadOption) : UInt32 :=
  if o.displayed then optionValue H defaults o else 0

/-- RebuildOrderList, when the variables are `vars`. -/
def rebuildOrderList (vars : BootVariables) : OrderMenu where
  bootOptions := getLoadOptions vars
  orderConfiguration :=
    { orderOptions := List.rightpad maxBootOptionsSupported 0
        (((getLoadOptions vars).take maxBootOptionsSupported).map (orderOption H defaults))
      size := by simp [List.rightpad, maxBootOptionsSupported] }

/-! ## What RouteConfig does -/

/-- One thing RouteConfig does. -/
inductive Event where
  /-- the boot dialog, with the description it names and whether it was answered OK -/
  | bootDialog (description : String) (ok : Bool)
  /-- the delete dialog of an option, with the description it names -/
  | deleteDialog (number : UInt16) (description : String) (ok : Bool)
  | setBootNext (number : UInt16)
  | setMsBootNext
  | exitBrowser
  /-- EfiBootManagerLoadOptionToVariable -/
  | loadOptionToVariable (number : UInt16) (option : EfiLoadOption)
  /-- EfiBootManagerDeleteLoadOptionVariable -/
  | deleteLoadOptionVariable (number : UInt16)
  /-- SetVariable of Boot#### with no data -/
  | deleteBootVariable (number : UInt16)
  | setBootOrder (order : List UInt16)
  deriving DecidableEq

/-- What an event does to the variables. -/
def BootVariables.apply (vars : BootVariables) : Event → BootVariables
  | .bootDialog _ _ | .deleteDialog _ _ _ | .exitBrowser => vars
  | .setBootNext n => { vars with bootNext := some n }
  | .setMsBootNext => { vars with msBootNext := some true }
  | .loadOptionToVariable n o => { vars with boot := Function.update vars.boot n (some o) }
  | .deleteLoadOptionVariable n =>
      { vars with bootOrder := vars.bootOrder.filter (· != n)
                  boot := Function.update vars.boot n none }
  | .deleteBootVariable n => { vars with boot := Function.update vars.boot n none }
  | .setBootOrder order => { vars with bootOrder := order }

/-- The variables after a log of events. -/
def BootVariables.replay (vars : BootVariables) (events : List Event) : BootVariables :=
  events.foldl BootVariables.apply vars

/-- What SwmDialogsMessageBox does: its status, and whether it leaves SWM_MB_IDOK in the result. -/
structure Reply where
  status : EfiStatus
  ok : Bool

/-- The window manager, when it is there, and the reply to each dialog of the call. -/
structure Dialogs where
  swm : Bool
  reply : Nat → Reply

/-! ## The slots of the form -/

/-- The state of RouteConfig's loop over the slots. -/
structure Scan where
  newBootOrder : List UInt16
  options : List LoadOption
  events : List Event

/-- ThisOption, the number an entry decodes to. -/
def thisOption (entry : UInt32) : UInt16 := (entry - 1).toUInt16

/-- The inner loop: the first of the `limit` first options with the entry's number gets the state of
its checkbox, and is written back if that changed it. -/
def syncActive (number : UInt16) (active : Bool) :
    Nat → List LoadOption → List LoadOption × List Event
  | 0, options => (options, [])
  | _, [] => ([], [])
  | limit + 1, o :: options =>
      if o.optionNumber = some number then
        if active = o.active then (o :: options, [])
        else
          let o := { o with attributes := o.attributes ^^^ loadOptionActive }
          (o :: options, [.loadOptionToVariable number o.toEfiLoadOption])
      else
        let (options, events) := syncActive number active limit options
        (o :: options, events)

/-- An entry without the BOOT flag joins the new boot order. -/
def acceptEntry (limit : Nat) (s : Scan) (entry : UInt32) : Scan :=
  let (options, events) :=
    syncActive (thisOption entry) (entry &&& H.checkbox != 0) limit s.options
  ⟨s.newBootOrder ++ [thisOption entry], options, s.events ++ events⟩

/-- How the loop over the slots is left early, by an entry with the BOOT flag. -/
inductive EarlyExit where
  /-- booting was confirmed: RouteConfig returns -/
  | bootNow (s : Scan)
  /-- it was not: `goto Exit1`, with this Status -/
  | bootCancelled (status : EfiStatus) (s : Scan)

variable (ui : Dialogs)

/-- An entry with the BOOT flag: the dialog names the option at the entry's slot. -/
def bootEntry (status : EfiStatus) (s : Scan) (entry : UInt32) (atSlot : LoadOption) : EarlyExit :=
  if ui.swm then
    let dialog := Event.bootDialog atSlot.description (ui.reply 0).ok
    if (ui.reply 0).ok then
      .bootNow { s with events := s.events ++
        [dialog, .setBootNext (thisOption entry), .setMsBootNext, .exitBrowser] }
    else .bootCancelled (ui.reply 0).status { s with events := s.events ++ [dialog] }
  else .bootCancelled status s

/-- One slot, with the option at its index. -/
def scanSlot (limit : Nat) (status : EfiStatus) (s : Scan) (slot : UInt32 × LoadOption) :
    Except EarlyExit Scan :=
  if slot.1 = 0 then .ok s
  else if slot.1 &&& H.boot ≠ 0 then .error (bootEntry ui status s slot.1 slot.2)
  else .ok (acceptEntry H limit s slot.1)

/-- The slots below mBootOptionLimit. -/
def scanSlots (status : EfiStatus) (m : OrderMenu) : Except EarlyExit Scan :=
  (m.orderConfiguration.orderOptions.zip m.bootOptions).foldlM
    (scanSlot H ui m.bootOptionLimit status) ⟨[], m.bootOptions, []⟩

/-! ## Deletions and the new order -/

/-- An option whose number is in the new boot order is marked with LoadOptionNumberUnassigned. -/
def markUnassigned (newBootOrder : List UInt16) (o : LoadOption) : LoadOption :=
  match o.optionNumber with
  | some n => if n ∈ newBootOrder then { o with optionNumber := none } else o
  | none => o

/-- The options among the `limit` first that still have a number after the marking. -/
def deletedOptions (limit : Nat) (newBootOrder : List UInt16) (options : List LoadOption) :
    List (UInt16 × String) :=
  ((options.take limit).map (markUnassigned newBootOrder)).filterMap fun o =>
    o.optionNumber.map fun n => (n, o.description)

/-- The state of the deletion loop. -/
structure Deletion where
  allowSetBootorder : Bool
  status : EfiStatus
  /-- how many dialogs the call has shown -/
  asked : Nat
  events : List Event

/-- What confirming or cancelling the deletion of an option does. -/
def deleteEvents (option : UInt16 × String) (ok : Bool) : List Event :=
  .deleteDialog option.1 option.2 ok ::
    if ok then [.deleteLoadOptionVariable option.1, .deleteBootVariable option.1] else []

/-- One option of the deletion loop. The variable SetVariable is asked to delete is gone by then. -/
def confirmDelete (d : Deletion) (option : UInt16 × String) : Deletion :=
  if ui.swm then
    let reply := ui.reply d.asked
    { allowSetBootorder := d.allowSetBootorder || reply.ok
      status := if reply.ok then efiNotFound else reply.status
      asked := d.asked + 1
      events := d.events ++ deleteEvents option reply.ok }
  else d

/-- What follows the loop over the slots, up to Exit1: the status and the whole log. -/
def commitOrder (limit : Nat) (status : EfiStatus) (vars : BootVariables) (s : Scan) :
    EfiStatus × List Event :=
  let newBootOrder := s.newBootOrder ++ (s.options.drop limit).map LoadOption.number
  let d :=
    if s.options.length ≠ newBootOrder.length then
      (deletedOptions limit newBootOrder s.options).foldl (confirmDelete ui)
        ⟨false, status, 0, s.events⟩
    else ⟨true, status, 0, s.events⟩
  if d.allowSetBootorder then
    (if newBootOrder = [] ∧ (vars.replay d.events).bootOrder = [] then efiNotFound else efiSuccess,
      d.events ++ [.setBootOrder newBootOrder])
  else (d.status, d.events)

/-! ## RouteConfig -/

/-- What RouteConfig's calls answer for a BootOrderConfig configuration. -/
structure Submission where
  /-- GetSetting (BOOT_ORDER_LOCK): the status and the value -/
  lock : EfiStatus × UInt8
  /-- ConfigToBlock: the status, and the block as it leaves it -/
  configToBlock : EfiStatus × OrderMenuConfiguration
  /-- AllocateZeroPool for the new boot order succeeds -/
  allocated : Bool

/-- The boot order is locked. -/
def Submission.locked (sub : Submission) : Bool := !efiError sub.lock.1 && sub.lock.2 != 0

/-- The submission reaches the loop over the slots. -/
def Submission.processed (sub : Submission) : Bool :=
  !sub.locked && !efiError sub.configToBlock.1 && sub.allocated

/-- RouteConfig's status, the menu and the variables it leaves, and its log. -/
structure Routed where
  status : EfiStatus
  menu : OrderMenu
  vars : BootVariables
  events : List Event

/-- RouteConfig, for a BootOrderConfig configuration. -/
def routeConfig (sub : Submission) (m : OrderMenu) (vars : BootVariables) : Routed :=
  if sub.locked then ⟨efiSuccess, m, vars, []⟩
  else
    let status := sub.configToBlock.1
    let m := { m with orderConfiguration := sub.configToBlock.2 }
    if efiError status then ⟨status, m, vars, []⟩
    else if !sub.allocated then ⟨efiUnsupported, m, vars, []⟩
    else
      match scanSlots H ui status m with
      | .error (.bootNow s) =>
          ⟨efiSuccess, { m with bootOptions := s.options }, vars.replay s.events, s.events⟩
      | .error (.bootCancelled status s) =>
          let vars := vars.replay s.events
          ⟨status, rebuildOrderList H defaults vars, vars, s.events⟩
      | .ok s =>
          let (status, events) := commitOrder ui m.bootOptionLimit status vars s
          let vars := vars.replay events
          ⟨status, rebuildOrderList H defaults vars, vars, events⟩

end Form

/-! ## A form -/

/-- Flags in the three top bits. -/
def topFlags : OrderedListFlags where
  checkbox := 0x80000000
  allowDelete := 0x40000000
  boot := 0x20000000
  checkbox_high := by decide
  allowDelete_high := by decide
  boot_high := by decide
  disjoint := by decide

/-- Three options, of which the second is hidden if `hidden` says so. -/
def threeOptions (hidden : Bool) : BootVariables where
  bootOrder := [1, 2, 3]
  boot n :=
    if n = 1 then some ⟨1, "disk", []⟩
    else if n = 2 then some ⟨if hidden then 9 else 1, "recovery", []⟩
    else if n = 3 then some ⟨1, "network", []⟩
    else none
  bootNext := none
  msBootNext := none

/-- The form comes back with these slots. -/
def submitSlots (slots : List UInt32) (h : slots.length = maxBootOptionsSupported) : Submission :=
  ⟨(efiSuccess, 0), (efiSuccess, ⟨slots, h⟩), true⟩

example : (rebuildOrderList topFlags none (threeOptions true)).orderConfiguration.orderOptions =
    [0xC0000002, 0, 0xC0000004, 0, 0, 0] := by decide +kernel

end OemPkg.BootMenu
