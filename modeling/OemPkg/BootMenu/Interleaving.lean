/-
# OemPkg.BootMenu.Interleaving — boot options that are added while the form is open

RouteConfig writes BootOrder from mBootOptions, which holds the options as the last RebuildOrderList
found them, and none at all until the form is first opened. Other code adds boot options meanwhile.
`submissions_keep_order_iff` says of every interleaving of opens, submissions and additions from the
load of the driver when no submission loses an option: exactly when each of them finds in BootOrder
only options that mBootOptions has, too.
-/
import OemPkg.BootMenu.OrderLog
import OemPkg.BootMenu.WriteGate

namespace OemPkg.BootMenu

open OemPkg.Lib OemPkg.Uefi

/-! ## The steps -/

/-- The menu's globals for the boot order form, with the boot variables. -/
structure FormState where
  menu : OrderMenu
  vars : BootVariables

/-- The globals when the driver is loaded. -/
def FormState.atLoad (vars : BootVariables) : FormState := ⟨(MenuState.atLoad vars).order, vars⟩

/-- What happens to the form and to the boot variables. -/
inductive FormStep where
  /-- DriverCallback, for EFI_BROWSER_ACTION_FORM_OPEN of MS_BOOT_ORDER_INIT_KEY -/
  | formOpen
  /-- RouteConfig, for BootOrderConfig -/
  | submit (sub : Submission) (ui : Dialogs)
  /-- other code writes Boot#### and makes it the option at index `i` of BootOrder -/
  | addOption (n : UInt16) (o : EfiLoadOption) (i : Nat)

/-- The variables with a boot option added. -/
def BootVariables.addOption (vars : BootVariables) (n : UInt16) (o : EfiLoadOption) (i : Nat) :
    BootVariables :=
  { vars with bootOrder := vars.bootOrder.take i ++ n :: vars.bootOrder.drop i
              boot := Function.update vars.boot n (some o) }

section Interleaving

variable (H : OrderedListFlags) (defaults : Option (List EfiLoadOption))

/-- The boot order form as a component, answering with what RouteConfig does. -/
def orderForm : Machine FormState FormStep (List Event) where
  step st
    | .formOpen => (⟨rebuildOrderList H defaults st.vars, st.vars⟩, [])
    | .submit sub ui =>
        let r := routeConfig H defaults ui sub st.menu st.vars
        (⟨r.menu, r.vars⟩, r.events)
    | .addOption n o i => (⟨st.menu, st.vars.addOption n o i⟩, [])

/-- The steps the form and other code take: a submission has every entry of mOrderConfiguration and
no BOOT flag, and an added option is new and displayed. -/
def Offered (st : FormState) : FormStep → Prop
  | .formOpen => True
  | .submit sub _ =>
      (∀ entry ∈ st.menu.orderConfiguration.orderOptions,
        entry ∈ sub.configToBlock.2.orderOptions) ∧
      ∀ entry ∈ sub.configToBlock.2.orderOptions, entry &&& H.boot = 0
  | .addOption n o _ => n ∉ st.vars.bootOrder ∧ o.displayed = true

instance (st : FormState) : ∀ step, Decidable (Offered H st step)
  | .formOpen => .isTrue trivial
  | .submit sub _ =>
      have := List.decidableBAll (· ∈ sub.configToBlock.2.orderOptions)
        st.menu.orderConfiguration.orderOptions
      have := List.decidableBAll (· &&& H.boot = 0) sub.configToBlock.2.orderOptions
      inferInstanceAs (Decidable (_ ∧ _))
  | .addOption _ _ _ => inferInstanceAs (Decidable (_ ∧ _))

/-- No entry that the step submits has the BOOT flag. -/
def NoBootFlag (st : FormState) : FormStep → Prop
  | .submit sub _ => ∀ entry ∈ sub.entries st.menu, entry &&& H.boot = 0
  | _ => True

instance (st : FormState) : ∀ step, Decidable (NoBootFlag H st step)
  | .formOpen | .addOption _ _ _ => .isTrue trivial
  | .submit sub _ => List.decidableBAll (· &&& H.boot = 0) (sub.entries st.menu)

/-- The step, if it is a submission, leaves every number of BootOrder in it, and does not empty
it. -/
def KeepsOrder (st : FormState) : FormStep → Prop
  | .submit sub ui =>
      let after := (routeConfig H defaults ui sub st.menu st.vars).vars.bootOrder
      st.vars.bootOrder ⊆ after ∧ (st.vars.bootOrder ≠ [] → after ≠ [])
  | _ => True

/-- The submission goes by the options that BootOrder has. -/
structure UpToDate (st : FormState) (sub : Submission) : Prop where
  /-- every number in BootOrder is that of an option of mBootOptions, unless it is submitted -/
  known : ∀ n ∈ st.vars.bootOrder,
    n ∈ st.menu.bootOptions.map LoadOption.number ∨ n ∈ (sub.entries st.menu).map thisOption
  /-- no option of mBootOptions is missing from the submission -/
  complete : missingOptions st.menu (sub.entries st.menu) = []

instance (st : FormState) (sub : Submission) : Decidable (UpToDate st sub) :=
  have := List.decidableBAll (fun n => n ∈ st.menu.bootOptions.map LoadOption.number ∨
    n ∈ (sub.entries st.menu).map thisOption) st.vars.bootOrder
  decidable_of_iff (_ ∧ _) ⟨fun h => UpToDate.mk h.1 h.2, fun h => ⟨h.known, h.complete⟩⟩

/-- The step, if it is a submission that reaches the slots, is up to date, or a slot is empty and no
deletion is confirmed. -/
def Safe (st : FormState) : FormStep → Prop
  | .submit sub ui =>
      sub.processed = true → UpToDate st sub ∨ ¬ Commits ui st.menu (sub.entries st.menu)
  | _ => True

/-! ## The invariant -/

/-- What mBootOptions keeps of BootOrder, however old it is. -/
structure Snapshot (st : FormState) : Prop where
  numbered : ∀ o ∈ st.menu.bootOptions, o.optionNumber = some o.number
  /-- BootOrder only grows between two rebuilds -/
  listed : ∀ o ∈ st.menu.bootOptions, o.number ∈ st.vars.bootOrder

theorem snapshot_atLoad (vars : BootVariables) : Snapshot (.atLoad vars) where
  numbered _ ho := absurd ho List.not_mem_nil
  listed _ ho := absurd ho List.not_mem_nil

theorem snapshot_rebuilt (vars : BootVariables) :
    Snapshot ⟨rebuildOrderList H defaults vars, vars⟩ where
  numbered _ ho := (getLoadOptions_loaded ho).1
  listed _ ho := (getLoadOptions_loaded ho).2

variable {H} {defaults}

/-- **One step keeps the invariant.** -/
theorem Snapshot.step {st : FormState} (h : Snapshot st) {step : FormStep}
    (hboot : NoBootFlag H st step) : Snapshot ((orderForm H defaults).step st step).1 := by
  cases step with
  | formOpen => exact snapshot_rebuilt H defaults st.vars
  | addOption n o i =>
      refine ⟨h.numbered, fun o' ho' => ?_⟩
      show o'.number ∈ st.vars.bootOrder.take i ++ n :: st.vars.bootOrder.drop i
      have hmem := h.listed o' ho'
      rw [← List.take_append_drop i st.vars.bootOrder] at hmem
      rcases List.mem_append.mp hmem with htake | hdrop
      · exact List.mem_append_left _ htake
      · exact List.mem_append_right _ (List.mem_cons_of_mem n hdrop)
  | submit sub ui =>
      show Snapshot ⟨(routeConfig H defaults ui sub st.menu st.vars).menu,
        (routeConfig H defaults ui sub st.menu st.vars).vars⟩
      cases hproc : sub.processed with
      | true =>
          obtain ⟨-, hmenu, -⟩ :=
            routeConfig_commits defaults ui st.vars h.numbered hboot hproc
          rw [hmenu]
          exact snapshot_rebuilt H defaults _
      | false =>
          obtain ⟨status, c, hr⟩ :=
            routeConfig_unprocessed_eq H defaults ui st.menu st.vars hproc
          rw [hr]
          exact ⟨h.numbered, h.listed⟩

/-! ## One submission -/

/-- **What being up to date is for**: the new order has every number that BootOrder has. -/
theorem Snapshot.upToDate_iff {st : FormState} (h : Snapshot st) (sub : Submission) :
    UpToDate st sub ↔ st.vars.bootOrder ⊆ newOrder st.menu (sub.entries st.menu) := by
  constructor
  · intro hup n hn
    rcases hup.known n hn with hold | hsubmitted
    · obtain ⟨o, ho, rfl⟩ := List.mem_map.mp hold
      by_contra hlost
      rw [← List.take_append_drop st.menu.bootOptionLimit st.menu.bootOptions] at ho
      rcases List.mem_append.mp ho with hslot | hrest
      · have hmissing : o ∈ missingOptions st.menu (sub.entries st.menu) :=
          List.mem_filter.mpr ⟨hslot, decide_eq_true hlost⟩
        rw [hup.complete] at hmissing
        exact List.not_mem_nil hmissing
      · exact hlost (List.mem_append_right _ (List.mem_map_of_mem hrest))
    · exact List.mem_append_left _ hsubmitted
  · intro hsub
    refine ⟨fun n hn => ?_, List.filter_eq_nil_iff.mpr fun o ho => ?_⟩
    · show n ∈ st.menu.bootOptions.map LoadOption.number ∨ n ∈ (sub.entries st.menu).map thisOption
      rcases List.mem_append.mp (hsub hn) with hsubmitted | hrest
      · exact .inr hsubmitted
      · obtain ⟨o, ho, rfl⟩ := List.mem_map.mp hrest
        exact .inl (List.mem_map_of_mem (List.mem_of_mem_drop ho))
    · have hkept := hsub (h.listed o (List.mem_of_mem_take ho))
      simpa using hkept

/-- **One step**: a submission keeps BootOrder exactly when it is safe. -/
theorem Snapshot.keepsOrder_iff {st : FormState} (h : Snapshot st) {step : FormStep}
    (hboot : NoBootFlag H st step) : KeepsOrder H defaults st step ↔ Safe st step := by
  cases step with
  | formOpen => exact Iff.rfl
  | addOption n o i => exact Iff.rfl
  | submit sub ui =>
      show (st.vars.bootOrder ⊆
          (routeConfig H defaults ui sub st.menu st.vars).vars.bootOrder ∧ _) ↔
        (sub.processed = true → UpToDate st sub ∨ ¬ Commits ui st.menu (sub.entries st.menu))
      -- an order with no number lost is not emptied
      have hempty : ∀ {before after : List UInt16}, before ⊆ after → before ≠ [] → after ≠ [] := by
        rintro before _ hsub hne rfl
        exact hne (List.subset_nil.mp hsub)
      rw [and_iff_left_of_imp hempty]
      cases hproc : sub.processed with
      | false =>
          rw [(routeConfig_unprocessed H defaults ui st.menu st.vars hproc).2]
          exact iff_of_true (List.Subset.refl _) (fun hfalse => absurd hfalse (by decide))
      | true =>
          have hvars := (routeConfig_commits defaults ui st.vars h.numbered hboot hproc).1
          have hlog := routeConfig_commitLog defaults ui st.vars h.numbered hboot hproc
          rw [hvars, forall_prop_of_true rfl, h.upToDate_iff]
          by_cases hc : Commits ui st.menu (sub.entries st.menu)
          · rw [hlog.bootOrder_committed hc, or_iff_left (not_not.mpr hc)]
          · exact iff_of_true (hlog.bootOrder_uncommitted hc st.vars) (.inr hc)

/-! ## Runs -/

variable (H) (defaults) in
/-- **When no submission loses a boot option.** Over every run of opens, submissions without a BOOT
flag and additions from the load of the driver: exactly when every submission of the run is safe in
the state in which it is made. -/
theorem submissions_keep_order_iff (vars : BootVariables) (steps : List FormStep)
    (hboot : (orderForm H defaults).Along (NoBootFlag H) (.atLoad vars) steps) :
    (orderForm H defaults).Along (KeepsOrder H defaults) (.atLoad vars) steps ↔
      (orderForm H defaults).Along Safe (.atLoad vars) steps :=
  (orderForm H defaults).along_congr (fun _ _ h hstep => h.step hstep)
    (fun _ _ h hstep => h.keepsOrder_iff hstep) steps (snapshot_atLoad vars) hboot

/-- Before the form is first opened there is nothing to be up to date with: a submission that
reaches the slots empties BootOrder. -/
theorem submit_before_open (ui : Dialogs) (vars : BootVariables) {sub : Submission}
    (hproc : sub.processed = true) :
    (routeConfig H defaults ui sub (FormState.atLoad vars).menu vars).vars.bootOrder = [] := by
  have hentries : sub.entries (FormState.atLoad vars).menu = [] := rfl
  have hboot : ∀ entry ∈ sub.entries (FormState.atLoad vars).menu, entry &&& H.boot = 0 :=
    fun _ hentry => absurd (hentries ▸ hentry) List.not_mem_nil
  have hnumber := (snapshot_atLoad vars).numbered
  have hlog := routeConfig_commitLog defaults ui vars hnumber hboot hproc
  -- no entry for no slot
  have hfull : (sub.entries (FormState.atLoad vars).menu).length =
      (FormState.atLoad vars).menu.bootOptionLimit := by
    rw [hentries]
    rfl
  rw [(routeConfig_commits defaults ui vars hnumber hboot hproc).1,
    hlog.bootOrder_committed (.inl hfull), hentries]
  rfl

end Interleaving

/-- An option is added in front of the three, and then the form, as it is after `opens` more opens,
comes back with `slots`. -/
def addedMeanwhile (opens : Nat) (slots : List UInt32) (h : slots.length = maxBootOptionsSupported) :
    List FormStep :=
  .formOpen :: .addOption 4 ⟨1, "usb", []⟩ 0 :: (List.replicate opens .formOpen ++
    [.submit (submitSlots slots h) ⟨true, fun _ => ⟨efiSuccess, false⟩⟩])

/-- The form is opened again before it is submitted. -/
theorem submissions_keep_order_iff_reopened :
    (orderForm topFlags none).Along (KeepsOrder topFlags none) (.atLoad (threeOptions false))
      (addedMeanwhile 1 [0xC0000002, 0xC0000005, 0xC0000003, 0xC0000004, 0, 0] rfl) := by
  refine (submissions_keep_order_iff topFlags none (threeOptions false)
    (addedMeanwhile 1 [0xC0000002, 0xC0000005, 0xC0000003, 0xC0000004, 0, 0] rfl)
    (by decide +kernel)).mpr ?_
  exact ⟨trivial, trivial, trivial,
    fun _ => .inl (by decide +kernel), trivial⟩

/-- The form still has the three options it was opened with, and the fourth is gone from BootOrder
as soon as it is submitted. -/
theorem added_option_lost :
    ¬ ∀ (H : OrderedListFlags) (defaults : Option (List EfiLoadOption)) (vars : BootVariables)
      (steps : List FormStep),
      (∀ n ∈ vars.bootOrder, ∃ o, vars.boot n = some o ∧ o.displayed = true) →
      (orderForm H defaults).Along (Offered H) (.atLoad vars) steps →
      (orderForm H defaults).Along (KeepsOrder H defaults) (.atLoad vars) steps := by
  intro hall
  have hvisible : ∀ n ∈ (threeOptions false).bootOrder,
      ∃ o, (threeOptions false).boot n = some o ∧ o.displayed = true := by
    have hthree : ((threeOptions false).bootOrder.all fun n =>
        ((threeOptions false).boot n).any EfiLoadOption.displayed) = true := by decide +kernel
    intro n hn
    exact (Option.any_eq_true _ _).mp (List.all_eq_true.mp hthree n hn)
  have hoffered : (orderForm topFlags none).Along (Offered topFlags) (.atLoad (threeOptions false))
      (addedMeanwhile 0 [0xC0000002, 0xC0000003, 0xC0000004, 0, 0, 0] rfl) := by
    decide +kernel
  obtain ⟨-, -, ⟨hkept, -⟩, -⟩ := hall topFlags none (threeOptions false) _ hvisible hoffered
  exact absurd (hkept (a := 4) (by decide +kernel)) (by decide +kernel)

end OemPkg.BootMenu
