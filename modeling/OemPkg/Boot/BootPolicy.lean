/-
# OemPkg.Boot.BootPolicy — which device paths may be booted

The model of MsBootPolicyLibIsDevicePathBootable and of LocalLoadImage, which asks it before an
image is loaded (`MsBootPolicyLib/MsBootPolicyLib.c`). A path is compared with the path of the SD
card byte by byte, and when booting from USB is disabled its nodes are searched for one of USB.

The walk over the nodes is a loop that nothing bounds, so it runs on fuel; `Returns` says that
enough of it gives a result. DevicePathLib, the platform's SD card path and the settings are the
fields of `BootPolicyEnv`.
-/
import OemPkg.Lib.Loop
import OemPkg.Uefi.DevicePath
import OemPkg.Uefi.Status

namespace OemPkg.Boot

open OemPkg.Lib OemPkg.Uefi

/-! ## The library -/

/-- MESSAGING_DEVICE_PATH -/
def messagingDevicePath : UInt8 := 0x03
/-- MSG_USB_DP -/
def msgUsbDp : UInt8 := 0x05
/-- MSG_USB_CLASS_DP -/
def msgUsbClassDp : UInt8 := 0x0F
/-- MSG_USB_WWID_DP -/
def msgUsbWwidDp : UInt8 := 0x10

/-- A node of this type and subtype is one of the three kinds of USB node. -/
def isUsb (type subType : UInt8) : Bool :=
  type == messagingDevicePath &&
    (subType == msgUsbDp || subType == msgUsbWwidDp || subType == msgUsbClassDp)

/-- What the library works on. A NULL pointer is `none`. -/
structure BootPolicyEnv where
  lib : DevicePathLib
  /-- MAX_DEVICE_PATH_SIZE, which differs between builds -/
  maxDevicePathSize : Nat
  ram : Ram
  getSdCardDevicePath : Option Nat
  /-- LocateProtocol for the setting access protocol -/
  locateSettingAccess : EfiStatus
  /-- Get for ENABLE_USB_BOOT: the status, and what it leaves in the BOOLEAN -/
  getEnableUsbBoot : EfiStatus × UInt8
  devicePathFromHandle : Nat → Option Nat

/-- The local EnableUsbBoot when it is looked at: TRUE unless the setting can be read. -/
def BootPolicyEnv.enableUsbBoot (env : BootPolicyEnv) : UInt8 :=
  if efiError env.locateSettingAccess then 1 else env.getEnableUsbBoot.2

/-- CompareMem is 0. -/
def compareMemEq (ram : Ram) (a b n : Nat) : Bool := readRam ram a n == readRam ram b n

/-- The path at `a` is taken for one of the SD card at `sd`. -/
def matchesSdCard (env : BootPolicyEnv) (a sd : Nat) : Bool :=
  decide (env.lib.getDevicePathSize env.ram sd < env.lib.getDevicePathSize env.ram a) &&
    compareMemEq env.ram a sd (env.lib.getDevicePathSize env.ram sd - endDevicePathLength)

/-- One round of the search for a USB node. It leaves with the value of `rc`. -/
def usbRound (env : BootPolicyEnv) (node : Nat) : Round Nat Bool :=
  if env.lib.isDevicePathEnd env.ram node then .done true
  else if isUsb (env.ram node) (env.ram (node + 1)) then .done false
  else .next (env.lib.nextDevicePathNode env.ram node)

/-- MsBootPolicyLibIsDevicePathBootable, if the walk over the nodes ends within `fuel` rounds. -/
def msBootPolicyLibIsDevicePathBootable (env : BootPolicyEnv) (devicePath : Option Nat)
    (fuel : Nat) : Option Bool :=
  match devicePath with
  | none => some true
  | some a =>
      if !env.lib.isDevicePathValid env.ram a env.maxDevicePathSize then some false
      else
        let rc :=
          match env.getSdCardDevicePath with
          | some sd => !matchesSdCard env a sd
          | none => true
        if rc && env.enableUsbBoot == 0 then loop (usbRound env) fuel a else some rc

/-- MsBootPolicyLibIsDeviceBootable -/
def msBootPolicyLibIsDeviceBootable (env : BootPolicyEnv) (controllerHandle : Nat) (fuel : Nat) :
    Option Bool :=
  msBootPolicyLibIsDevicePathBootable env (env.devicePathFromHandle controllerHandle) fuel

/-- The arguments of LoadImage. -/
structure LoadImageCall where
  bootPolicy : Bool
  parentImageHandle : Nat
  devicePath : Option Nat
  sourceBuffer : Option Nat
  sourceSize : Nat
  deriving DecidableEq

/-- What LocalLoadImage returns, and the call it passes to the system's LoadImage, if any. -/
structure LoadImageOutcome where
  status : EfiStatus
  forwarded : Option LoadImageCall

/-- LocalLoadImage, in front of gSystemLoadImage. -/
def localLoadImage (env : BootPolicyEnv) (gSystemLoadImage : LoadImageCall → EfiStatus)
    (call : LoadImageCall) (fuel : Nat) : Option LoadImageOutcome :=
  if call.devicePath.isSome then
    (msBootPolicyLibIsDevicePathBootable env call.devicePath fuel).map fun bootable =>
      if bootable then ⟨gSystemLoadImage call, some call⟩ else ⟨efiAccessDenied, none⟩
  else some ⟨gSystemLoadImage call, some call⟩

/-! ## The walk -/

/-- The node is one of USB. -/
def usbNode (n : DevicePathNode) : Bool := isUsb n.type n.subType

/-- The path at `a` is `p`, and IsDevicePathValid accepts it. -/
structure BootPolicyEnv.Valid (env : BootPolicyEnv) (a : Nat) (p : DevicePath) : Prop where
  accepted : env.lib.isDevicePathValid env.ram a env.maxDevicePathSize = true
  holds : p.At env.ram a

section Policy

variable {env : BootPolicyEnv} (hlib : env.lib.Documented)
include hlib

/-- **The walk ends at the End-Entire node or at the first node of USB**, by induction on the nodes
that are left. -/
theorem usbWalk_returns (nodes : List DevicePathNode) :
    ∀ {a : Nat}, (∀ n ∈ nodes, n.isEndEntire = false) → NodesAt env.ram a nodes →
      Returns (fun fuel => loop (usbRound env) fuel a) (!nodes.any usbNode) := by
  induction nodes with
  | nil =>
      intro a _ hnodes
      obtain ⟨htype, hsub⟩ := nodesAt_nil hnodes
      have hend : env.lib.isDevicePathEnd env.ram a = true := by
        rw [hlib.isEnd, htype, hsub]
        decide
      apply loop_returns_done
      rw [usbRound, if_pos hend]
      rfl
  | cons n nodes ih =>
      intro a hinner hnodes
      obtain ⟨htype, hsub, hlength, hrest⟩ := nodesAt_cons hnodes
      have hend : env.lib.isDevicePathEnd env.ram a = false := by
        rw [hlib.isEnd, htype, hsub]
        exact hinner n List.mem_cons_self
      have hround : usbRound env a =
          if usbNode n then .done false else .next (a + n.length) := by
        rw [usbRound, if_neg (by rw [hend]; exact Bool.false_ne_true), htype, hsub, hlib.next,
          hlength]
        rfl
      cases husb : usbNode n with
      | true =>
          rw [husb, if_pos rfl] at hround
          rw [List.any_cons, husb]
          exact loop_returns_done hround
      | false =>
          rw [husb, if_neg Bool.false_ne_true] at hround
          rw [List.any_cons, husb, Bool.false_or]
          exact loop_returns_next hround
            (ih (fun m hm => hinner m (List.mem_cons_of_mem n hm)) hrest)

/-- **What the code compares**: it finds the SD card's path in front of every longer path that
begins with its nodes, and nowhere else. -/
theorem matchesSdCard_iff {a sdAddr : Nat} {p sd : DevicePath} (hp : env.Valid a p)
    (hsd : env.Valid sdAddr sd) :
    matchesSdCard env a sdAddr = true ↔ sd.nodes <+: p.nodes ∧ p ≠ sd := by
  set prefixBytes := sd.nodes.flatMap DevicePathNode.bytes with hprefix
  have hcut : sd.size - endDevicePathLength = prefixBytes.length := by
    rw [sd.size_eq]
    exact Nat.add_sub_cancel _ _
  have hsdRead : readRam env.ram sdAddr prefixBytes.length = prefixBytes := by
    have hholds : HoldsAt env.ram sdAddr sd.bytes := hsd.holds
    rw [sd.bytes_eq] at hholds
    exact (holdsAt_append.mp hholds).1
  unfold matchesSdCard compareMemEq
  rw [hlib.size hp.accepted hp.holds, hlib.size hsd.accepted hsd.holds, hcut, hsdRead,
    Bool.and_eq_true, decide_eq_true_eq, beq_iff_eq]
  -- with more bytes than the SD card's path, all those compared are the path's own
  have hread : sd.size < p.size → (readRam env.ram a prefixBytes.length = prefixBytes ↔
      sd.nodes <+: p.nodes) := by
    intro hlt
    have hroom : prefixBytes.length ≤ p.bytes.length := by
      rw [sd.size_eq, ← hprefix] at hlt
      unfold DevicePath.size at hlt
      omega
    rw [HoldsAt.take hp.holds hroom, ← DevicePath.prefix_iff, List.prefix_iff_eq_take, ← hprefix]
    exact eq_comm
  constructor
  · rintro ⟨hlt, heq⟩
    refine ⟨(hread hlt).mp heq, ?_⟩
    rintro rfl
    exact Nat.lt_irrefl _ hlt
  · rintro ⟨hpre, hne⟩
    have hlt := (DevicePath.eq_or_size_lt hpre).resolve_left hne
    exact ⟨hlt, (hread hlt).mpr hpre⟩

/-- **What IsDevicePathBootable returns** on a valid path. -/
theorem isDevicePathBootable_returns {a : Nat} {p : DevicePath} (hp : env.Valid a p) :
    Returns (msBootPolicyLibIsDevicePathBootable env (some a))
      (!(env.getSdCardDevicePath.any fun sd => matchesSdCard env a sd) &&
        (env.enableUsbBoot != 0 || !p.nodes.any usbNode)) := by
  have hwalk := usbWalk_returns hlib p.nodes p.inner (a := a) hp.holds
  unfold msBootPolicyLibIsDevicePathBootable
  simp only [hp.accepted, Bool.not_true, Bool.false_eq_true, if_false]
  have hrc : (match env.getSdCardDevicePath with
      | some sd => !matchesSdCard env a sd
      | none => true) = !(env.getSdCardDevicePath.any fun sd => matchesSdCard env a sd) := by
    cases env.getSdCardDevicePath <;> rfl
  rw [hrc]
  cases hsd : !(env.getSdCardDevicePath.any fun sd => matchesSdCard env a sd) with
  | false => exact returns_const false
  | true =>
      by_cases husb : env.enableUsbBoot = 0
      · simpa [husb] using hwalk
      · have hset : (env.enableUsbBoot != 0) = true := bne_iff_ne.mpr husb
        simpa [husb, hset] using returns_const true

/-! ## The SD card -/

/-- **When the SD card's paths, and only these, are refused.** Let the platform have an SD card path
`sd`, and let `p` be any valid path. That `p` is refused if it begins with the nodes of `sd`, and
with USB enabled only then, holds except for the path `sd` itself, unless the search for USB nodes
refuses that. -/
theorem sd_card_refused_iff {a sdAddr : Nat} {p sd : DevicePath}
    (hcard : env.getSdCardDevicePath = some sdAddr) (hsd : env.Valid sdAddr sd)
    (hp : env.Valid a p) :
    let bootable := msBootPolicyLibIsDevicePathBootable env (some a)
    ((sd.nodes <+: p.nodes → Returns bootable false) ∧
        (env.enableUsbBoot ≠ 0 → ¬ sd.nodes <+: p.nodes → Returns bootable true)) ↔
      ¬ (p = sd ∧ (env.enableUsbBoot ≠ 0 ∨ ∀ n ∈ p.nodes, usbNode n = false)) := by
  intro bootable
  have hreturns := isDevicePathBootable_returns hlib hp
  rw [hcard, Option.any_some] at hreturns
  have hanswer : ∀ b, Returns bootable b ↔
      (!matchesSdCard env a sdAddr && (env.enableUsbBoot != 0 || !p.nodes.any usbNode)) = b :=
    fun b => ⟨fun h => hreturns.unique h, fun h => h ▸ hreturns⟩
  have hmatch := matchesSdCard_iff hlib hp hsd
  simp only [hanswer]
  by_cases hpre : sd.nodes <+: p.nodes
  · simp only [hpre, forall_true_left, not_true_eq_false, IsEmpty.forall_iff, implies_true,
      and_true, true_and] at hmatch ⊢
    by_cases hself : p = sd
    · have hno : matchesSdCard env a sdAddr = false :=
        Bool.eq_false_of_not_eq_true fun h => hmatch.mp h hself
      simp only [hno, hself, true_and, Bool.not_false, Bool.true_and]
      by_cases husb : env.enableUsbBoot = 0 <;> simp [husb]
    · simp [hmatch.mpr hself, hself]
  · have hother : p ≠ sd := by
      rintro rfl
      exact hpre (List.prefix_refl _)
    have hno : matchesSdCard env a sdAddr = false :=
      Bool.eq_false_of_not_eq_true fun h => hpre (hmatch.mp h).1
    simp only [hpre, IsEmpty.forall_iff, true_and, hno, hother, false_and, not_false_eq_true,
      iff_true, forall_true_left, Bool.not_false, Bool.true_and, Bool.or_eq_true, bne_iff_ne]
    exact .inl

/-- **The card's own controller** may be booted: IsDeviceBootable asks with the path of its handle,
which is no longer than the path of the SD card. -/
theorem isDeviceBootable_sd_card {controllerHandle a sdAddr : Nat} {sd : DevicePath}
    (hcard : env.getSdCardDevicePath = some sdAddr) (hsd : env.Valid sdAddr sd)
    (hhandle : env.devicePathFromHandle controllerHandle = some a) (ha : env.Valid a sd) :
    Returns (msBootPolicyLibIsDeviceBootable env controllerHandle)
      (env.enableUsbBoot != 0 || !sd.nodes.any usbNode) := by
  have hreturns := isDevicePathBootable_returns hlib ha
  have hno : matchesSdCard env a sdAddr = false := by
    apply Bool.eq_false_of_not_eq_true
    intro hmatch
    exact ((matchesSdCard_iff hlib ha hsd).mp hmatch).2 rfl
  rw [hcard, Option.any_some, hno, Bool.not_false, Bool.true_and] at hreturns
  unfold msBootPolicyLibIsDeviceBootable
  rw [hhandle]
  exact hreturns

end Policy

/-- The node of a card reader. -/
def cardReader : DevicePathNode := ⟨0x01, 0x01, [0x00, 0x1A], by decide⟩
/-- The node of a partition. -/
def partition : DevicePathNode := ⟨0x04, 0x01, [0x01], by decide⟩
/-- The node of a USB port. -/
def usbPort : DevicePathNode := ⟨messagingDevicePath, msgUsbDp, [0x01, 0x00], by decide⟩
/-- A node between two instances. -/
def endInstance : DevicePathNode :=
  ⟨endDevicePathType, endInstanceDevicePathSubtype, [], DevicePathNode.fits_nil⟩

/-- A card reader's own path. -/
def cardPath : DevicePath := ⟨[cardReader], by decide⟩
/-- The path of a partition on the card. -/
def cardPartitionPath : DevicePath := ⟨[cardReader, partition], by decide⟩
/-- A path whose second instance ends in a USB port. -/
def usbInstancePath : DevicePath := ⟨[cardReader, endInstance, partition, usbPort], by decide⟩

/-- A platform with the paths `first`, at address 0, and `second` behind it. -/
def platform (first second : DevicePath) (card : Option Nat) (usb : UInt8) : BootPolicyEnv where
  lib := walkingLib 8
  maxDevicePathSize := 0
  ram a := (first.bytes ++ second.bytes).getD a 0
  getSdCardDevicePath := card
  locateSettingAccess := efiSuccess
  getEnableUsbBoot := (efiSuccess, usb)
  devicePathFromHandle _ := none

/-- A partition on the card is refused. -/
theorem sd_card_refused_iff_partition :
    Returns (msBootPolicyLibIsDevicePathBootable
      (platform cardPath cardPartitionPath (some 0) 1) (some 10)) false := by
  have hcard : (platform cardPath cardPartitionPath (some 0) 1).Valid 0 cardPath :=
    ⟨by decide +kernel, by decide +kernel⟩
  have hpartition : (platform cardPath cardPartitionPath (some 0) 1).Valid 10 cardPartitionPath :=
    ⟨by decide +kernel, by decide +kernel⟩
  have hother : ¬ (cardPartitionPath = cardPath ∧
      ((platform cardPath cardPartitionPath (some 0) 1).enableUsbBoot ≠ 0 ∨
        ∀ n ∈ cardPartitionPath.nodes, usbNode n = false)) := by
    rintro ⟨heq, -⟩
    exact absurd (congrArg (fun p => p.nodes.length) heq) (by decide)
  exact ((sd_card_refused_iff (walkingLib_documented 8) rfl hcard hpartition).mpr hother).1
    (by decide)

/-- The SD card itself is not refused. -/
theorem sd_card_boots :
    ¬ ∀ (env : BootPolicyEnv) (a sdAddr : Nat) (p sd : DevicePath), env.lib.Documented →
      env.getSdCardDevicePath = some sdAddr → env.Valid sdAddr sd →
      (∀ n ∈ sd.nodes, n.isEndInstance = false) → env.Valid a p → sd.nodes <+: p.nodes →
      Returns (msBootPolicyLibIsDevicePathBootable env (some a)) false := by
  intro hrefused
  have hcard : (platform cardPath cardPath (some 0) 1).Valid 0 cardPath :=
    ⟨by decide +kernel, by decide +kernel⟩
  have hfalse := hrefused (platform cardPath cardPath (some 0) 1) 0 0 cardPath cardPath
    (walkingLib_documented 8) rfl hcard (by decide) hcard (List.prefix_refl _)
  have htrue := isDevicePathBootable_returns (walkingLib_documented 8) hcard
  exact absurd (hfalse.unique htrue) (by decide +kernel)

/-! ## USB -/

section Policy

variable {env : BootPolicyEnv} (hlib : env.lib.Documented)
include hlib

/-- **With USB disabled no image is loaded from a USB path.** On every valid path the walk over the
nodes ends, and the path is refused exactly when one of its instances has a node of USB;
LocalLoadImage passes such a path to the system's LoadImage exactly when none has. -/
theorem usb_disabled_refuses {a : Nat} {p : DevicePath} (hp : env.Valid a p)
    (hcard : env.getSdCardDevicePath = none) (hdisabled : env.enableUsbBoot = 0)
    (gSystemLoadImage : LoadImageCall → EfiStatus) {call : LoadImageCall}
    (hcall : call.devicePath = some a) :
    let hasUsb := ∃ inst ∈ p.instances, ∃ n ∈ inst, usbNode n = true
    (∃ b, Returns (msBootPolicyLibIsDevicePathBootable env (some a)) b ∧ (b = false ↔ hasUsb)) ∧
      ∃ r, Returns (localLoadImage env gSystemLoadImage call) r ∧
        (r.forwarded = some call ↔ ¬ hasUsb) ∧ (r.forwarded = none ↔ hasUsb) := by
  intro hasUsb
  have hreturns := isDevicePathBootable_returns hlib hp
  rw [hcard, hdisabled] at hreturns
  have husb : p.nodes.any usbNode = true ↔ hasUsb := by
    rw [List.any_eq_true]
    constructor
    · rintro ⟨n, hn, husb⟩
      have hmessage : n.isEndInstance = false := by
        by_contra hend
        simp only [DevicePathNode.isEndInstance, Bool.not_eq_false, Bool.and_eq_true,
          beq_iff_eq] at hend
        rw [usbNode, isUsb, hend.1] at husb
        exact absurd husb (by simp [endDevicePathType, messagingDevicePath])
      obtain ⟨inst, hinst, hmem⟩ := DevicePath.mem_instances.mpr ⟨hn, hmessage⟩
      exact ⟨inst, hinst, n, hmem, husb⟩
    · rintro ⟨inst, hinst, n, hmem, husb⟩
      exact ⟨n, (DevicePath.mem_instances.mp ⟨inst, hinst, hmem⟩).1, husb⟩
  have hload : localLoadImage env gSystemLoadImage call = fun fuel =>
      (msBootPolicyLibIsDevicePathBootable env (some a) fuel).map fun bootable =>
        if bootable then ⟨gSystemLoadImage call, some call⟩ else ⟨efiAccessDenied, none⟩ := by
    funext fuel
    rw [localLoadImage, hcall, Option.isSome_some, if_pos rfl]
  refine ⟨⟨_, hreturns, ?_⟩, ⟨_, hload ▸ hreturns.map _, ?_⟩⟩
  · rw [← husb]
    cases p.nodes.any usbNode <;> simp
  · rw [← husb]
    cases p.nodes.any usbNode <;> simp

end Policy

/-- LoadImage for the path at address 10. -/
def loadSecond : LoadImageCall := ⟨true, 1, some 10, none, 0⟩

theorem usb_disabled_refuses_second_instance :
    ∃ r, Returns (localLoadImage (platform cardPath usbInstancePath none 0) (fun _ => efiSuccess)
      loadSecond) r ∧ r.forwarded = none := by
  have hpath : (platform cardPath usbInstancePath none 0).Valid 10 usbInstancePath :=
    ⟨by decide +kernel, by decide +kernel⟩
  have husb : ∃ inst ∈ usbInstancePath.instances, ∃ n ∈ inst, usbNode n = true := by
    obtain ⟨inst, hinst, hmem⟩ := DevicePath.mem_instances.mpr
      (show usbPort ∈ usbInstancePath.nodes ∧ usbPort.isEndInstance = false by decide)
    exact ⟨inst, hinst, usbPort, hmem, by decide⟩
  obtain ⟨-, r, hr, -, hnone⟩ := usb_disabled_refuses (walkingLib_documented 8) hpath rfl
    (by decide) (fun _ => efiSuccess) (show loadSecond.devicePath = some 10 from rfl)
  exact ⟨r, hr, hnone.mpr husb⟩

end OemPkg.Boot
