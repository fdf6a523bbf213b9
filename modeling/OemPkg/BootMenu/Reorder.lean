/-
# OemPkg.BootMenu.Reorder — a reorder and the options that are not displayed

RebuildOrderList leaves a zero in the slot of an option it does not display, and RouteConfig detects
deletions by a count of nonzero slots. A form that comes back with exactly the entries it was given
therefore omits every undisplayed option that has a slot; `undisplayed_survive_iff` says what
follows.
-/
import OemPkg.BootMenu.OrderLog

namespace OemPkg.BootMenu

open OemPkg.Lib OemPkg.Uefi

section Reorder

variable {H : OrderedListFlags} {defaults : Option (List EfiLoadOption)} {ui : Dialogs}

/-! ## Entries and the numbers they decode to -/

theorem OrderedListFlags.high_toUInt16 {flag : UInt32} (h : flag &&& 0x1FFFF = 0) :
    flag.toUInt16 = 0 := by
  have hlow := congrArg UInt32.toUInt16 h
  have hmask : (0x1FFFF : UInt32).toUInt16 = -1 := by decide
  rwa [UInt32.toUInt16_and, hmask, UInt16.and_neg_one] at hlow

/-- The checkbox bit does not matter to the number an entry decodes to. -/
theorem thisOption_withoutCheckbox (entry : UInt32) :
    thisOption (entry &&& ~~~H.checkbox) = thisOption entry := by
  have hflag := OrderedListFlags.high_toUInt16 H.checkbox_high
  simp [thisOption, hflag]

/-- An option's entry decodes to its number. -/
theorem thisOption_optionValue {o : LoadOption} {n : UInt16} (hn : o.optionNumber = some n) :
    thisOption (optionValue H defaults o) = n := by
  have hcheckbox := OrderedListFlags.high_toUInt16 H.checkbox_high
  have hdelete := OrderedListFlags.high_toUInt16 H.allowDelete_high
  simp only [thisOption, optionValue, hn, Option.elim_some, UInt32.toUInt16_sub,
    UInt32.toUInt16_or, UInt32.toUInt16_add, UInt16.toUInt16_toUInt32]
  have hactive : (if o.active then H.checkbox else 0).toUInt16 = 0 := by split <;> simp [hcheckbox]
  have hallow : (if isDefaultBootOption defaults o.toEfiLoadOption then 0
      else H.allowDelete).toUInt16 = 0 := by split <;> simp [hdelete]
  rw [hactive, hallow]
  simp

/-- The entry of a loaded option is not the zero of an undisplayed one. -/
theorem optionValue_ne_zero {o : LoadOption} {n : UInt16} (hn : o.optionNumber = some n) :
    optionValue H defaults o ≠ 0 := by
  have hnumber : n.toUInt32 + 1 ≠ 0 := by
    intro h
    have hnat := congrArg UInt32.toNat h
    have hlt := n.toNat_lt
    rw [UInt32.toNat_add, UInt16.toNat_toUInt32] at hnat
    simp at hnat
    omega
  simp only [optionValue, hn, Option.elim_some, ne_eq, UInt32.or_eq_zero_iff, not_and]
  exact fun h => absurd h.1 hnumber

/-- The entries of a form as RebuildOrderList leaves it are those of the displayed options. -/
theorem rebuildOrderList_entries {m : OrderMenu} {vars : BootVariables}
    (hm : m = rebuildOrderList H defaults vars) :
    m.orderConfiguration.entries m.bootOptionLimit =
      ((m.bootOptions.take m.bootOptionLimit).filter fun o => o.displayed).map
        (optionValue H defaults) := by
  have hoptions : m.bootOptions = getLoadOptions vars := hm ▸ rfl
  have hslots : m.orderConfiguration.orderOptions.take m.bootOptionLimit =
      (m.bootOptions.take m.bootOptionLimit).map (orderOption H defaults) := by
    subst hm
    show (List.rightpad _ _ (((getLoadOptions vars).take _).map _)).take
      (min (getLoadOptions vars).length maxBootOptionsSupported) = ((getLoadOptions vars).take
      (min (getLoadOptions vars).length maxBootOptionsSupported)).map _
    rw [List.rightpad, List.take_left' (by simp [min_comm]), min_comm, ← List.take_eq_take_min]
  have hne : ∀ o ∈ m.bootOptions.take m.bootOptionLimit,
      (orderOption H defaults o != 0) = o.displayed := by
    intro o ho
    have hnumber := (getLoadOptions_loaded (hoptions ▸ List.mem_of_mem_take ho)).1
    cases hdisplayed : o.displayed with
    | false => simp [orderOption, hdisplayed]
    | true => simpa [orderOption, hdisplayed] using optionValue_ne_zero hnumber
  rw [OrderMenuConfiguration.entries, hslots, List.filter_map]
  have hfilter : (m.bootOptions.take m.bootOptionLimit).filter
      ((· != 0) ∘ orderOption H defaults) =
      (m.bootOptions.take m.bootOptionLimit).filter fun o => o.displayed :=
    List.filter_congr hne
  rw [hfilter]
  apply List.map_congr_left
  intro o ho
  rw [orderOption, if_pos (List.mem_filter.mp ho).2]

/-! ## Reorders -/

/-- The form comes back with exactly the entries it was given, in any order and with any checkbox
bits, and without a BOOT flag. -/
structure Reorders (H : OrderedListFlags) (m : OrderMenu) (entries : List UInt32) : Prop where
  same : (entries.map (· &&& ~~~H.checkbox)).Perm
    ((m.orderConfiguration.entries m.bootOptionLimit).map (· &&& ~~~H.checkbox))
  noBoot : ∀ entry ∈ entries, entry &&& H.boot = 0

section Rebuilt

variable {m : OrderMenu} {vars : BootVariables} {entries : List UInt32}

/-- A reorder decodes to the numbers of the displayed options. -/
theorem Reorders.numbers_perm (hm : m = rebuildOrderList H defaults vars)
    (hre : Reorders H m entries) :
    (entries.map thisOption).Perm
      (((m.bootOptions.take m.bootOptionLimit).filter fun o => o.displayed).map
        LoadOption.number) := by
  have hdecode : ∀ es : List UInt32,
      (es.map (· &&& ~~~H.checkbox)).map thisOption = es.map thisOption := fun es => by
    rw [List.map_map]
    exact List.map_congr_left fun entry _ => thisOption_withoutCheckbox entry
  have hshown : (m.orderConfiguration.entries m.bootOptionLimit).map thisOption =
      ((m.bootOptions.take m.bootOptionLimit).filter fun o => o.displayed).map
        LoadOption.number := by
    rw [rebuildOrderList_entries hm, List.map_map]
    apply List.map_congr_left
    intro o ho
    have hoptions : m.bootOptions = getLoadOptions vars := hm ▸ rfl
    have hload := hoptions ▸ List.mem_of_mem_take (List.mem_filter.mp ho).1
    exact thisOption_optionValue (getLoadOptions_loaded hload).1
  have hperm := hre.same.map thisOption
  rwa [hdecode, hdecode, hshown] at hperm

/-- A reorder submits distinct displayed options. -/
theorem Reorders.submitsDisplayed (hm : m = rebuildOrderList H defaults vars) (h : Loaded m vars)
    (hre : Reorders H m entries) : SubmitsDisplayed H m entries where
  distinct := by
    rw [(hre.numbers_perm hm).nodup_iff]
    exact h.distinct.sublist ((List.filter_sublist.trans (List.take_sublist _ _)).map _)
  displayed := by
    intro n hn
    rcases List.mem_map.mp ((hre.numbers_perm hm).mem_iff.mp hn) with ⟨o, ho, rfl⟩
    rcases List.mem_filter.mp ho with ⟨hin, hdisplayed⟩
    exact ⟨o, hin, hdisplayed, h.optionNumber (List.mem_of_mem_take hin)⟩
  noBoot := hre.noBoot

/-- What a reorder omits is what is not displayed. -/
theorem Reorders.omittedOptions_eq (hm : m = rebuildOrderList H defaults vars) (h : Loaded m vars)
    (hre : Reorders H m entries) :
    omittedOptions m entries =
      (m.bootOptions.take m.bootOptionLimit).filter fun o => !o.displayed := by
  apply List.filter_congr
  intro o ho
  have hmem : o.number ∈ entries.map thisOption ↔ o.displayed = true := by
    rw [(hre.numbers_perm hm).mem_iff, List.mem_map]
    constructor
    · rintro ⟨o', ho', hsame⟩
      rcases List.mem_filter.mp ho' with ⟨hin, hdisplayed⟩
      obtain rfl : o' = o := List.inj_on_of_nodup_map h.distinct (List.mem_of_mem_take hin)
        (List.mem_of_mem_take ho) hsame
      exact hdisplayed
    · exact fun hdisplayed => ⟨o, List.mem_filter.mpr ⟨ho, hdisplayed⟩, rfl⟩
  simp only [hmem]
  cases o.displayed <;> rfl

/-- Nothing is deleted and nothing is asked: what a reorder promises. -/
structure Survives (m : OrderMenu) (before : BootVariables) (r : Routed) : Prop where
  noDialog : ∀ n description ok, .deleteDialog n description ok ∉ r.events
  boot : ∀ n, (before.boot n).isSome → (r.vars.boot n).isSome
  /-- a BootOrder that is written has each option of the list, once -/
  order : ∀ order, .setBootOrder order ∈ r.events →
    order.Perm (m.bootOptions.map LoadOption.number)

/-- On the log of a reorder. -/
theorem survives_iff {r : Routed} (hm : m = rebuildOrderList H defaults vars) (h : Loaded m vars)
    (hre : Reorders H m entries) (hvars : r.vars = vars.replay r.events)
    (hlog : OrderLog ui m entries r.events) :
    Survives m vars r ↔ ¬ (ui.swm = true ∧ omittedOptions m entries ≠ []) := by
  constructor
  · rintro hsafe ⟨hswm, homitted⟩
    rcases List.exists_cons_of_ne_nil homitted with ⟨o, rest, hcons⟩
    apply hsafe.noDialog o.number o.description (ui.reply 0).ok
    apply hlog.deleteDialog_iff.mpr
    exact ⟨hswm, 0, o, by rw [hcons]; rfl, rfl, rfl, rfl⟩
  · intro hno
    have hquiet : ∀ n description ok, .deleteDialog n description ok ∉ r.events := by
      intro n description ok hdialog
      rcases hlog.deleteDialog_iff.mp hdialog with ⟨hswm, i, o, hi, -⟩
      exact hno ⟨hswm, List.ne_nil_of_mem (List.mem_of_getElem? hi)⟩
    refine ⟨hquiet, fun n hn => ?_, fun order hset => ?_⟩
    · show (r.vars.boot n).isSome = true
      rw [hvars]
      apply replay_keeps_boot _ hn
      intro e he hdel
      rcases hlog.deleted he hdel with ⟨i, o, hswm, hi, -, hok⟩
      exact hquiet _ _ _ (hlog.deleteDialog_iff.mpr ⟨hswm, i, o, hi, rfl, rfl, hok⟩)
    · show order.Perm (m.bootOptions.map LoadOption.number)
      rcases hlog.setBootOrder_iff.mp hset with ⟨hw, rfl⟩
      have hnone : omittedOptions m entries = [] := by
        rcases hw with hnone | ⟨hswm, -⟩
        · exact hnone
        · by_contra homitted
          exact hno ⟨hswm, homitted⟩
      have hperm := h.numbers_perm (hre.submitsDisplayed hm h)
      rw [hnone, List.map_nil, List.append_nil] at hperm
      exact hperm.symm

end Rebuilt

variable (ui) in
/-- **When options that are not displayed survive a reorder.** Over every list of boot options and
every reorder: exactly when none of them has a slot, or there is no one to ask. Only in the first
case is the new order written. -/
theorem undisplayed_survive_iff {m : OrderMenu} {vars : BootVariables}
    (hm : m = rebuildOrderList H defaults vars)
    (hdistinct : (m.bootOptions.map LoadOption.number).Nodup) {sub : Submission}
    (hre : Reorders H m (sub.entries m)) :
    (Survives m vars (routeConfig H defaults ui sub m vars) ↔
      ¬ (sub.processed = true ∧ ui.swm = true ∧
        ∃ o ∈ m.bootOptions.take m.bootOptionLimit, o.displayed = false)) ∧
    (sub.processed = true →
      (Survives m vars (routeConfig H defaults ui sub m vars) ∧
        (∃ order, .setBootOrder order ∈ (routeConfig H defaults ui sub m vars).events) ↔
      ∀ o ∈ m.bootOptions.take m.bootOptionLimit, o.displayed = true)) := by
  have h : Loaded m vars := ⟨hm ▸ rfl, hdistinct⟩
  have hsub := hre.submitsDisplayed hm h
  have hnone : omittedOptions m (sub.entries m) = [] ↔
      ∀ o ∈ m.bootOptions.take m.bootOptionLimit, o.displayed = true := by
    rw [hre.omittedOptions_eq hm h, List.filter_eq_nil_iff]
    simp
  have hsome : omittedOptions m (sub.entries m) ≠ [] ↔
      ∃ o ∈ m.bootOptions.take m.bootOptionLimit, o.displayed = false := by
    rw [ne_eq, hnone]
    simp
  cases hproc : sub.processed with
  | true =>
      rcases routeConfig_log defaults ui h hsub hproc with ⟨hvars, hlog⟩
      have hsurvives := survives_iff hm h hre hvars hlog
      simp only [true_and, ← hsome, ← hnone, hsurvives, forall_const]
      constructor
      · rintro ⟨hno, order, hset⟩
        rcases (hlog.setBootOrder_iff.mp hset).1 with hempty | ⟨hswm, -⟩
        · exact hempty
        · by_contra homitted
          exact hno ⟨hswm, homitted⟩
      · intro hempty
        refine ⟨fun hno => hno.2 hempty, newOrder m (sub.entries m), ?_⟩
        apply hlog.setBootOrder_iff.mpr
        exact ⟨.inl hempty, rfl⟩
  | false =>
      rcases routeConfig_unprocessed H defaults ui m vars hproc with ⟨hevents, hvars⟩
      simp only [Bool.false_eq_true, false_and, not_false_eq_true, iff_true, false_implies,
        and_true]
      constructor
      · intro n description ok hdialog
        rw [hevents] at hdialog
        exact List.not_mem_nil hdialog
      · intro n hn
        rwa [hvars]
      · intro order hset
        rw [hevents] at hset
        exact absurd hset List.not_mem_nil

end Reorder

/-- The last option is moved to the front. -/
def lastFirst (hidden : Bool) : Submission :=
  submitSlots (if hidden then [0xC0000004, 0xC0000002, 0, 0, 0, 0]
    else [0xC0000004, 0xC0000002, 0xC0000003, 0, 0, 0]) (by cases hidden <;> rfl)

/-- Every dialog is cancelled. -/
def answerCancel : Dialogs := ⟨true, fun _ => ⟨efiSuccess, false⟩⟩

theorem lastFirst_reorders (hidden : Bool) :
    Reorders topFlags (rebuildOrderList topFlags none (threeOptions hidden))
      ((lastFirst hidden).entries (rebuildOrderList topFlags none (threeOptions hidden))) := by
  refine ⟨by cases hidden <;> decide +kernel, fun entry hentry => ?_⟩
  have hflag : ((lastFirst hidden).entries (rebuildOrderList topFlags none
      (threeOptions hidden))).all (· &&& topFlags.boot == 0) = true := by
    cases hidden <;> decide +kernel
  exact eq_of_beq (List.all_eq_true.mp hflag entry hentry)

theorem undisplayed_survive_iff_displayed :
    let r := routeConfig topFlags none answerCancel (lastFirst false)
      (rebuildOrderList topFlags none (threeOptions false)) (threeOptions false)
    Survives (rebuildOrderList topFlags none (threeOptions false)) (threeOptions false) r ∧
      ∃ order, .setBootOrder order ∈ r.events :=
  ((undisplayed_survive_iff answerCancel rfl (by decide +kernel) (lastFirst_reorders false)).2
    (by decide)).mpr (by decide +kernel)

/-- The second of three options is hidden: moving the third to the front asks to delete it. -/
theorem undisplayed_deleted :
    ¬ ∀ (H : OrderedListFlags) (defaults : Option (List EfiLoadOption)) (ui : Dialogs)
      (vars : BootVariables) (sub : Submission),
      ((rebuildOrderList H defaults vars).bootOptions.map LoadOption.number).Nodup →
      Reorders H (rebuildOrderList H defaults vars)
        (sub.entries (rebuildOrderList H defaults vars)) →
      Survives (rebuildOrderList H defaults vars) vars
        (routeConfig H defaults ui sub (rebuildOrderList H defaults vars) vars) := by
  intro hall
  have hquiet := (hall topFlags none answerCancel (threeOptions true) (lastFirst true)
    (by decide +kernel) (lastFirst_reorders true)).noDialog 2 "recovery" false
  exact absurd (by decide +kernel) hquiet

end OemPkg.BootMenu
