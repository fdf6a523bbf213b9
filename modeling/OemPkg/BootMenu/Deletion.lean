/-
# OemPkg.BootMenu.Deletion — deletions are confirmed per option

All the delete dialogs of a submission share one flag: once one of them is answered OK the new
order, which has none of the omitted options, is written. `deletion_confirmed_per_option_iff` says
when no option is lost that way.
-/
import OemPkg.BootMenu.OrderLog

namespace OemPkg.BootMenu

open OemPkg.Lib OemPkg.Uefi

section Deletion

variable {H : OrderedListFlags} {defaults : Option (List EfiLoadOption)} {ui : Dialogs}

/-- Nothing is lost but by a dialog of its own: what the deletion dialogs promise. -/
structure ConfirmedPerOption (m : OrderMenu) (before : BootVariables) (r : Routed) : Prop where
  /-- an option that has disappeared from BootOrder -/
  order : ∀ o ∈ m.bootOptions, o.number ∉ r.vars.bootOrder →
    .deleteDialog o.number o.description true ∈ r.events
  /-- a Boot#### variable that has been deleted -/
  boot : ∀ n, (before.boot n).isSome → r.vars.boot n = none →
    ∃ o ∈ m.bootOptions, o.number = n ∧ .deleteDialog n o.description true ∈ r.events
  /-- an option whose deletion was cancelled -/
  cancelled : ∀ n description, .deleteDialog n description false ∈ r.events →
    n ∈ r.vars.bootOrder

/-- Of the first `count` dialogs, one is answered OK and another is not. -/
def MixedAnswers (ui : Dialogs) (count : Nat) : Prop :=
  (∃ i < count, (ui.reply i).ok = true) ∧ ∃ i < count, (ui.reply i).ok = false

/-- On a log of distinct displayed options. -/
theorem confirmedPerOption_iff {m : OrderMenu} {vars : BootVariables} {entries : List UInt32}
    {r : Routed} (h : Loaded m vars) (hsub : SubmitsDisplayed H m entries)
    (hvars : r.vars = vars.replay r.events) (hlog : OrderLog ui m entries r.events) :
    ConfirmedPerOption m vars r ↔
      ¬ (ui.swm = true ∧ MixedAnswers ui (omittedOptions m entries).length) := by
  have hnodup := (h.numbers_perm hsub).nodup_iff.mp h.distinct
  have hindex : ∀ {i o}, (omittedOptions m entries)[i]? = some o →
      o ∈ omittedOptions m entries ∧ i < (omittedOptions m entries).length := fun hi =>
    ⟨List.mem_of_getElem? hi, (List.getElem?_eq_some_iff.mp hi).1⟩
  constructor
  · rintro hsafe ⟨hswm, ⟨i, hi, hok⟩, j, hj, hcancel⟩
    -- the option of dialog `j` was cancelled, but the new order is written without it
    have hdialog := hlog.deleteDialog_iff.mpr
      ⟨hswm, j, _, List.getElem?_eq_getElem hj, rfl, rfl, hcancel⟩
    have hkept := hsafe.cancelled _ _ hdialog
    rw [hvars, hlog.bootOrder_written (.inr ⟨hswm, i, hi, hok⟩)] at hkept
    exact (List.nodup_append.mp hnodup).2.2 _ hkept _
      (List.mem_map_of_mem (List.getElem_mem hj)) rfl
  · intro halike
    have hallOk : ∀ {i o}, (omittedOptions m entries)[i]? = some o → Written ui m entries →
        ui.swm = true ∧ (ui.reply i).ok = true := by
      rintro i o hi (hnone | ⟨hswm, k, hk, hok⟩)
      · exact absurd (hindex hi).1 (by rw [hnone]; exact List.not_mem_nil)
      · refine ⟨hswm, ?_⟩
        by_contra hcancel
        exact halike ⟨hswm, ⟨k, hk, hok⟩, i, (hindex hi).2, Bool.eq_false_of_not_eq_true hcancel⟩
    have hbefore : ∀ o ∈ m.bootOptions, o.number ∈ vars.bootOrder := fun o ho =>
      (getLoadOptions_loaded (h.loaded ▸ ho)).2
    have hmem : ∀ {o}, o ∈ omittedOptions m entries → o ∈ m.bootOptions := fun ho =>
      List.mem_of_mem_take (List.mem_filter.mp ho).1
    refine ⟨fun o ho hlost => ?_, fun n hn hlost => ?_, fun n description hcancel => ?_⟩
    · show Event.deleteDialog o.number o.description true ∈ r.events
      rw [hvars] at hlost
      have hw : Written ui m entries := by
        by_contra hw
        exact hlost (hlog.bootOrder_unwritten hw vars (hbefore o ho))
      rw [hlog.bootOrder_written hw vars] at hlost
      have homitted : o.number ∈ (omittedOptions m entries).map LoadOption.number := by
        have hin := (h.numbers_perm hsub).mem_iff.mp (List.mem_map_of_mem ho)
        exact (List.mem_append.mp hin).resolve_left hlost
      rcases List.mem_map.mp homitted with ⟨o', ho', hsame⟩
      obtain rfl : o' = o := List.inj_on_of_nodup_map h.distinct (hmem ho') ho hsame
      obtain ⟨i, hi⟩ := List.mem_iff_getElem?.mp ho'
      rcases hallOk hi hw with ⟨hswm, hok⟩
      exact hlog.deleteDialog_iff.mpr ⟨hswm, i, o', hi, rfl, rfl, hok⟩
    · show ∃ o ∈ m.bootOptions, o.number = n ∧ Event.deleteDialog n o.description true ∈ r.events
      rw [hvars] at hlost
      obtain ⟨e, he, hdel⟩ : ∃ e ∈ r.events, e.deletes n := by
        by_contra hnone
        push Not at hnone
        have hkept := replay_keeps_boot hnone hn
        rw [hlost] at hkept
        exact absurd hkept (by simp)
      rcases hlog.deleted he hdel with ⟨i, o, hswm, hi, rfl, hok⟩
      exact ⟨o, hmem (hindex hi).1, rfl, hlog.deleteDialog_iff.mpr ⟨hswm, i, o, hi, rfl, rfl, hok⟩⟩
    · show n ∈ r.vars.bootOrder
      rcases hlog.deleteDialog_iff.mp hcancel with ⟨hswm, i, o, hi, rfl, rfl, hno⟩
      have hw : ¬ Written ui m entries := fun hw =>
        Bool.false_ne_true (hno.symm.trans (hallOk hi hw).2)
      rw [hvars]
      exact hlog.bootOrder_unwritten hw vars (hbefore o (hmem (hindex hi).1))

variable (ui) in
/-- **When deletions are confirmed per option.** Over every list of boot options and every answer:
exactly when the dialogs of a submission are all answered alike. -/
theorem deletion_confirmed_per_option_iff {m : OrderMenu} {vars : BootVariables}
    (hm : m = rebuildOrderList H defaults vars)
    (hdistinct : (m.bootOptions.map LoadOption.number).Nodup) {sub : Submission}
    (hsub : SubmitsDisplayed H m (sub.entries m)) :
    ConfirmedPerOption m vars (routeConfig H defaults ui sub m vars) ↔
      ¬ (sub.processed = true ∧ ui.swm = true ∧
        MixedAnswers ui (omittedOptions m (sub.entries m)).length) := by
  have h : Loaded m vars := ⟨hm ▸ rfl, hdistinct⟩
  cases hproc : sub.processed with
  | true =>
      rcases routeConfig_log defaults ui h hsub hproc with ⟨hvars, hlog⟩
      simpa using confirmedPerOption_iff h hsub hvars hlog
  | false =>
      rcases routeConfig_unprocessed H defaults ui m vars hproc with ⟨hevents, hvars⟩
      simp only [Bool.false_eq_true, false_and, not_false_eq_true, iff_true]
      constructor
      · intro o ho hlost
        rw [hvars] at hlost
        exact absurd (getLoadOptions_loaded (h.loaded ▸ ho)).2 hlost
      · intro n hn hlost
        rw [hvars] at hlost
        rw [hlost] at hn
        exact absurd hn (by simp)
      · intro n description hcancel
        rw [hevents] at hcancel
        exact absurd hcancel List.not_mem_nil

end Deletion

/-- Only the first option is left in the form. -/
def keepFirst : Submission := submitSlots [0xC0000002, 0, 0, 0, 0, 0] rfl

/-- The first dialog is answered OK, and the rest as `rest` says. -/
def answerOk (rest : Bool) : Dialogs := ⟨true, fun i => ⟨efiSuccess, i == 0 || rest⟩⟩

theorem keepFirst_submitsDisplayed :
    SubmitsDisplayed topFlags (rebuildOrderList topFlags none (threeOptions false))
      (keepFirst.entries (rebuildOrderList topFlags none (threeOptions false))) := by
  have hentries : keepFirst.entries (rebuildOrderList topFlags none (threeOptions false)) =
      [0xC0000002] := by decide +kernel
  rw [hentries]
  refine ⟨by decide, fun n hn => ?_, fun entry hentry => ?_⟩
  · obtain rfl := List.mem_singleton.mp hn
    exact ⟨⟨⟨1, "disk", []⟩, some 1⟩, by decide +kernel, by decide, by decide⟩
  · obtain rfl := List.mem_singleton.mp hentry
    decide

theorem deletion_confirmed_per_option_iff_all_ok :
    ConfirmedPerOption (rebuildOrderList topFlags none (threeOptions false)) (threeOptions false)
      (routeConfig topFlags none (answerOk true) keepFirst
        (rebuildOrderList topFlags none (threeOptions false)) (threeOptions false)) := by
  refine (deletion_confirmed_per_option_iff (answerOk true) rfl (by decide +kernel)
    keepFirst_submitsDisplayed).mpr ?_
  rintro ⟨-, -, -, i, -, hcancel⟩
  simp [answerOk] at hcancel

/-- Two options are omitted, the first deletion is confirmed and the second cancelled: the third
option is gone from BootOrder. -/
theorem deletion_unconfirmed :
    ¬ ∀ (H : OrderedListFlags) (defaults : Option (List EfiLoadOption)) (ui : Dialogs)
      (vars : BootVariables) (sub : Submission),
      ((rebuildOrderList H defaults vars).bootOptions.map LoadOption.number).Nodup →
      SubmitsDisplayed H (rebuildOrderList H defaults vars)
        (sub.entries (rebuildOrderList H defaults vars)) →
      ConfirmedPerOption (rebuildOrderList H defaults vars) vars
        (routeConfig H defaults ui sub (rebuildOrderList H defaults vars) vars) := by
  intro hall
  have hkept := (hall topFlags none (answerOk false) (threeOptions false) keepFirst
    (by decide +kernel) keepFirst_submitsDisplayed).cancelled 3 "network" (by decide +kernel)
  exact absurd hkept (by decide +kernel)

end OemPkg.BootMenu
