/-
# OemPkg.BootMenu.BootNow — booting from the form

An entry that comes back with the BOOT flag asks RouteConfig to boot its option at once. The dialog
takes its text from mBootOptions at the index of the slot, while BootNext is the number that the
entry decodes to. `boot_dialog_names_booted_iff` says when the two are about one option.
-/
import OemPkg.BootMenu.OrderLog

namespace OemPkg.BootMenu

open OemPkg.Lib OemPkg.Uefi

section BootNow

variable {H : OrderedListFlags} {defaults : Option (List EfiLoadOption)} {ui : Dialogs}

/-! ## The entry that is booted -/

variable (H) in
/-- The first slot RouteConfig reads that has the BOOT flag, with the option at its index. -/
def bootSlot (m : OrderMenu) (sub : Submission) : Option (UInt32 × LoadOption) :=
  (sub.configToBlock.2.orderOptions.zip m.bootOptions).find? fun slot => slot.1 &&& H.boot != 0

/-- What RouteConfig does about it. -/
def bootEvents (ui : Dialogs) (slot : UInt32 × LoadOption) : List Event :=
  if ui.swm then
    .bootDialog slot.2.description (ui.reply 0).ok ::
      if (ui.reply 0).ok then [.setBootNext (thisOption slot.1), .setMsBootNext, .exitBrowser]
      else []
  else []

/-- The log of the call that left the loop over the slots. -/
def EarlyExit.events : EarlyExit → List Event
  | .bootNow s => s.events
  | .bootCancelled _ s => s.events

theorem bootEntry_events (status : EfiStatus) (s : Scan) (slot : UInt32 × LoadOption) :
    (bootEntry ui status s slot.1 slot.2).events = s.events ++ bootEvents ui slot := by
  unfold bootEntry bootEvents
  cases ui.swm with
  | false => exact (List.append_nil _).symm
  | true => cases (ui.reply 0).ok <;> rfl

variable (H) in
/-- The entries in front of the first BOOT flag. -/
def entriesBeforeBoot (slots : List (UInt32 × LoadOption)) : List UInt32 :=
  ((slots.takeWhile fun slot => slot.1 &&& H.boot == 0).map Prod.fst).filter (· != 0)

/-- **The loop stops at the first BOOT flag**, by induction on the slots: what is in front of it has
been accepted. -/
theorem scan_boot (limit : Nat) (status : EfiStatus) {slot : UInt32 × LoadOption}
    (slots : List (UInt32 × LoadOption))
    (hfind : slots.find? (fun slot => slot.1 &&& H.boot != 0) = some slot) (s : Scan) :
    slots.foldlM (scanSlot H ui limit status) s =
      .error (bootEntry ui status
        ((entriesBeforeBoot H slots).foldl (acceptEntry H limit) s) slot.1 slot.2) := by
  unfold entriesBeforeBoot
  induction slots generalizing s with
  | nil => cases hfind
  | cons first slots ih =>
      rw [List.foldlM_cons]
      show scanSlot H ui limit status s first >>= _ = _
      by_cases hflag : first.1 &&& H.boot = 0
      · rw [List.find?_cons_of_neg (by simp [hflag])] at hfind
        rw [List.takeWhile_cons_of_pos (by simp [hflag]), List.map_cons]
        by_cases hzero : first.1 = 0
        · rw [scanSlot, if_pos hzero, List.filter_cons_of_neg (by simp [hzero])]
          exact ih hfind s
        · rw [scanSlot, if_neg hzero, if_neg (not_not.mpr hflag),
            List.filter_cons_of_pos (by simp [hzero])]
          exact ih hfind (acceptEntry H limit s first.1)
      · rw [List.find?_cons_of_pos (by simp [hflag])] at hfind
        obtain rfl : first = slot := Option.some.inj hfind
        have hzero : first.1 ≠ 0 := by
          intro hzero
          rw [hzero, UInt32.zero_and] at hflag
          exact hflag rfl
        rw [scanSlot, if_neg hzero, if_pos hflag, List.takeWhile_cons_of_neg (by simp [hflag])]
        rfl

variable (H) in
/-- The entries of a submission in front of the first BOOT flag. -/
def Submission.entriesBeforeBoot (sub : Submission) (m : OrderMenu) : List UInt32 :=
  BootMenu.entriesBeforeBoot H (sub.configToBlock.2.orderOptions.zip m.bootOptions)

theorem Submission.entriesBeforeBoot_prefix (sub : Submission) (m : OrderMenu) :
    sub.entriesBeforeBoot H m <+: sub.entries m := by
  show _ <+: List.filter (· != 0)
    ((m.submit sub).orderConfiguration.orderOptions.take (m.submit sub).bootOptionLimit)
  rw [← slots_fst (m.submit sub)]
  exact ((List.takeWhile_prefix _).map _).filter _

variable (H) in
/-- The loop over the slots when it comes to the BOOT flag. -/
def scannedBeforeBoot (m : OrderMenu) (sub : Submission) : Scan :=
  (sub.entriesBeforeBoot H m).foldl (acceptEntry H m.bootOptionLimit) m.scanStart

theorem scannedBeforeBoot_rewrites (m : OrderMenu) (sub : Submission) :
    Rewrites (scannedBeforeBoot H m sub).events :=
  (m.accepted_scanStart.foldl (H := H) m.bootOptionLimit (sub.entriesBeforeBoot H m)).rewrites

variable (defaults ui) in
/-- **The log of a submission with a BOOT flag**, replayed on the variables. -/
theorem routeConfig_boot {m : OrderMenu} (vars : BootVariables) {sub : Submission}
    {slot : UInt32 × LoadOption} (hproc : sub.processed = true)
    (hslot : bootSlot H m sub = some slot) :
    let r := routeConfig H defaults ui sub m vars
    r.vars = vars.replay r.events ∧
      r.events = (scannedBeforeBoot H m sub).events ++ bootEvents ui slot := by
  have hscan : scanSlots H ui sub.configToBlock.1 (m.submit sub) =
      .error (bootEntry ui sub.configToBlock.1 (scannedBeforeBoot H m sub) slot.1 slot.2) :=
    scan_boot m.bootOptionLimit sub.configToBlock.1 _ hslot m.scanStart
  obtain ⟨hlock, herror, halloc⟩ := Submission.processed_iff.mp hproc
  unfold OrderMenu.submit at hscan
  simp only [← bootEntry_events sub.configToBlock.1, routeConfig, hlock, herror, halloc, hscan,
    Bool.not_true, Bool.false_eq_true, if_false]
  cases bootEntry ui sub.configToBlock.1 (scannedBeforeBoot H m sub) slot.1 slot.2 <;>
    exact ⟨rfl, rfl⟩

/-- Without a BOOT flag in a slot, none of the entries has one. -/
theorem noBoot_of_bootSlot {m : OrderMenu} {sub : Submission} (hslot : bootSlot H m sub = none) :
    ∀ entry ∈ sub.entries m, entry &&& H.boot = 0 := by
  intro entry hentry
  have htake : entry ∈ (sub.configToBlock.2.orderOptions.zip m.bootOptions).map
      Prod.fst := slots_fst (m.submit sub) ▸ List.mem_of_mem_filter hentry
  obtain ⟨slot, hmem, rfl⟩ := List.mem_map.mp htake
  simpa using List.find?_eq_none.mp hslot slot hmem

/-! ## The dialog and BootNext -/

/-- The option whose number is written to BootNext is the one whose description the dialog shows. -/
def NamesBooted (m : OrderMenu) (events : List Event) : Prop :=
  ∀ description n, .bootDialog description true ∈ events → .setBootNext n ∈ events →
    ∃ o ∈ m.bootOptions, o.optionNumber = some n ∧ o.description = description

variable (H) in
/-- The first entry with the BOOT flag stands in the slot of its own option, or in that of another
with the same description. -/
def InOwnSlot (m : OrderMenu) (sub : Submission) : Prop :=
  ∀ slot, bootSlot H m sub = some slot →
    slot.2.optionNumber = some (thisOption slot.1) ∨
      ∃ o ∈ m.bootOptions, o.optionNumber = some (thisOption slot.1) ∧
        o.description = slot.2.description

theorem inOwnSlot_iff {m : OrderMenu} {sub : Submission} {slot : UInt32 × LoadOption}
    (hslot : bootSlot H m sub = some slot) :
    InOwnSlot H m sub ↔ ∃ o ∈ m.bootOptions,
      o.optionNumber = some (thisOption slot.1) ∧ o.description = slot.2.description := by
  constructor
  · intro hown
    rcases hown slot hslot with hsame | hnamesake
    · exact ⟨slot.2, (List.of_mem_zip (List.mem_of_find?_eq_some hslot)).2, hsame, rfl⟩
    · exact hnamesake
  · intro hnamesake slot' hslot'
    rw [hslot] at hslot'
    obtain rfl : slot = slot' := Option.some.inj hslot'
    exact .inr hnamesake

/-- On the log of a submission with a BOOT flag. -/
theorem namesBooted_iff {m : OrderMenu} {slot : UInt32 × LoadOption} {rewrites : List Event}
    (hrewrites : Rewrites rewrites) :
    NamesBooted m (rewrites ++ bootEvents ui slot) ↔
      (ui.swm = true → (ui.reply 0).ok = true →
        ∃ o ∈ m.bootOptions, o.optionNumber = some (thisOption slot.1) ∧
          o.description = slot.2.description) := by
  have hdialog : ∀ {description}, .bootDialog description true ∈ rewrites ++ bootEvents ui slot ↔
      ui.swm = true ∧ (ui.reply 0).ok = true ∧ description = slot.2.description := by
    intro description
    rw [List.mem_append, or_iff_right (hrewrites.not_mem fun _ _ => by simp)]
    unfold bootEvents
    cases ui.swm <;> cases (ui.reply 0).ok <;> simp
  have hnext : ∀ {n}, .setBootNext n ∈ rewrites ++ bootEvents ui slot ↔
      ui.swm = true ∧ (ui.reply 0).ok = true ∧ n = thisOption slot.1 := by
    intro n
    rw [List.mem_append, or_iff_right (hrewrites.not_mem fun _ _ => by simp)]
    unfold bootEvents
    cases ui.swm <;> cases (ui.reply 0).ok <;> simp
  constructor
  · intro hnames hswm hok
    apply hnames slot.2.description (thisOption slot.1)
    · exact hdialog.mpr ⟨hswm, hok, rfl⟩
    · exact hnext.mpr ⟨hswm, hok, rfl⟩
  · intro hown description n hd hn
    obtain ⟨hswm, hok, rfl⟩ := hdialog.mp hd
    obtain ⟨-, -, rfl⟩ := hnext.mp hn
    exact hown hswm hok

variable (H) (defaults) in
/-- **When the boot dialog names the device that will boot.** Over every list of boot options that
the form shows, every submission, and every state of the variables it meets: exactly when the first
entry with the BOOT flag, if RouteConfig comes to one, is in its own slot. -/
theorem boot_dialog_names_booted_iff (shown vars : BootVariables) (sub : Submission) :
    let m := rebuildOrderList H defaults shown
    (∀ ui, NamesBooted m (routeConfig H defaults ui sub m vars).events) ↔
      (sub.processed = true → InOwnSlot H m sub) := by
  intro m
  have hsilent : ∀ {events : List Event}, (∀ d, .bootDialog d true ∉ events) →
      NamesBooted m events := fun hno d _ hd => absurd hd (hno d)
  cases hproc : sub.processed with
  | false =>
      refine iff_of_true (fun ui => hsilent fun d => ?_) (fun hfalse => absurd hfalse (by decide))
      rw [(routeConfig_unprocessed H defaults ui m vars hproc).1]
      exact List.not_mem_nil
  | true =>
      rw [forall_prop_of_true rfl]
      cases hslot : bootSlot H m sub with
      | none =>
          have hboot := noBoot_of_bootSlot hslot
          refine iff_of_true (fun ui => hsilent fun d => ?_) (fun slot hsome => ?_)
          · have hnumber : ∀ o ∈ m.bootOptions, o.optionNumber = some o.number :=
              fun o ho => (getLoadOptions_loaded ho).1
            have hlog := routeConfig_commitLog defaults ui vars hnumber hboot hproc
            exact hlog.bootDialog_not_mem d true
          · rw [hslot] at hsome
            cases hsome
      | some slot =>
          rw [inOwnSlot_iff hslot]
          constructor
          · intro hnames
            have hok := hnames ⟨true, fun _ => ⟨efiSuccess, true⟩⟩
            rw [(routeConfig_boot defaults ⟨true, fun _ => ⟨efiSuccess, true⟩⟩ vars hproc
              hslot).2] at hok
            exact (namesBooted_iff (scannedBeforeBoot_rewrites m sub)).mp hok rfl rfl
          · intro hsame ui
            rw [(routeConfig_boot defaults ui vars hproc hslot).2]
            exact (namesBooted_iff (scannedBeforeBoot_rewrites m sub)).mpr fun _ _ => hsame

/-- The entries decode to distinct displayed options, and one of them has the BOOT flag. -/
structure BootsDisplayed (H : OrderedListFlags) (m : OrderMenu) (entries : List UInt32) : Prop where
  distinct : (entries.map thisOption).Nodup
  displayed : ∀ n ∈ entries.map thisOption,
    ∃ o ∈ m.bootOptions.take m.bootOptionLimit, o.displayed = true ∧ o.optionNumber = some n
  boots : ∃ entry ∈ entries, entry &&& H.boot ≠ 0

end BootNow

/-- The last option is moved to the front and booted. -/
def bootLast : Submission := submitSlots [0xE0000004, 0xC0000002, 0xC0000003, 0, 0, 0] rfl

theorem bootLast_bootsDisplayed :
    BootsDisplayed topFlags (rebuildOrderList topFlags none (threeOptions false))
      (bootLast.entries (rebuildOrderList topFlags none (threeOptions false))) := by
  have hentries : bootLast.entries (rebuildOrderList topFlags none (threeOptions false)) =
      [0xE0000004, 0xC0000002, 0xC0000003] := by decide +kernel
  have hshown : ([3, 1, 2] : List UInt16).all (fun n =>
      ((rebuildOrderList topFlags none (threeOptions false)).bootOptions.take 3).any
        fun o => o.displayed && o.optionNumber == some n) = true := by decide +kernel
  rw [hentries]
  refine ⟨by decide, fun n hn => ?_, 0xE0000004, by decide, by decide⟩
  obtain ⟨o, ho, hsome⟩ := List.any_eq_true.mp (List.all_eq_true.mp hshown n hn)
  exact ⟨o, ho, by simpa using hsome⟩

/-- The dialog asks whether to boot the disk, whose slot it is, and then the network is booted. -/
theorem boot_dialog_names_another :
    ¬ ∀ (H : OrderedListFlags) (defaults : Option (List EfiLoadOption)) (vars : BootVariables)
      (sub : Submission),
      ((rebuildOrderList H defaults vars).bootOptions.map LoadOption.number).Nodup →
      BootsDisplayed H (rebuildOrderList H defaults vars)
        (sub.entries (rebuildOrderList H defaults vars)) →
      ∀ ui, NamesBooted (rebuildOrderList H defaults vars)
        (routeConfig H defaults ui sub (rebuildOrderList H defaults vars) vars).events := by
  intro hall
  have hnames := hall topFlags none (threeOptions false) bootLast (by decide +kernel)
    bootLast_bootsDisplayed ⟨true, fun _ => ⟨efiSuccess, true⟩⟩
  obtain ⟨o, ho, hnumber, hdescription⟩ :=
    hnames "disk" 3 (by decide +kernel) (by decide +kernel)
  have hother : ∀ o ∈ (rebuildOrderList topFlags none (threeOptions false)).bootOptions,
      ¬ (o.optionNumber = some 3 ∧ o.description = "disk") := by decide +kernel
  exact hother o ho ⟨hnumber, hdescription⟩

end OemPkg.BootMenu
