/-
# OemPkg.BootMenu.BootNext — from the form to the option that boots

UefiMain deletes BootNext when the front page starts (`FrontPage/FrontPage.c`). The boot order form
writes it when the user confirms to boot an entry, and when the user leaves the front page,
ProcessBootNext boots the option it names.

In between the form may be opened and submitted any number of times, while other code adds options:
`boots_last_confirmed` says that BootNext comes through as a register that only confirmed boots
write, and `only_confirmed_boots` what this means to the user.
-/
import OemPkg.Boot.OsIndications
import OemPkg.BootMenu.BootNow
import OemPkg.BootMenu.Interleaving

namespace OemPkg.BootMenu

open OemPkg.Lib OemPkg.Uefi

/-- The form when the front page has started, for a driver that was loaded before. -/
def FormState.atFrontPage (vars : BootVariables) : FormState :=
  .atLoad { vars with bootNext := none }

section BootNext

variable (H : OrderedListFlags) (defaults : Option (List EfiLoadOption))

/-- The option a submission confirms to boot: RouteConfig comes to an entry with the BOOT flag, the
dialog is shown, and it is answered OK. -/
def Submission.confirms (sub : Submission) (ui : Dialogs) (m : OrderMenu) : Option UInt16 :=
  if sub.processed && ui.swm && (ui.reply 0).ok then
    (bootSlot H m sub).map fun slot => thisOption slot.1
  else none

def FormState.confirmed (st : FormState) : FormStep → Option UInt16
  | .submit sub ui => sub.confirms H ui st.menu
  | _ => none

variable {H defaults}

/-! ## One step -/

theorem replay_keeps_bootNext {events : List Event} (h : ∀ n, .setBootNext n ∉ events)
    (vars : BootVariables) : (vars.replay events).bootNext = vars.bootNext := by
  refine List.foldlRecOn (motive := fun v : BootVariables => v.bootNext = vars.bootNext) events _
    rfl fun v hv e he => ?_
  cases e with
  | setBootNext n => exact absurd he (h n)
  | _ => exact hv

/-- A log without a BOOT flag leaves BootNext alone. -/
theorem CommitLog.setBootNext_not_mem {ui : Dialogs} {m : OrderMenu} {entries : List UInt32}
    {events : List Event} (h : CommitLog ui m entries events) (n : UInt16) :
    .setBootNext n ∉ events := by
  rcases h with ⟨rewrites, hrewrites, rfl⟩
  intro hmem
  rcases List.mem_append.mp hmem with hrewrite | hmem
  · exact hrewrites.not_mem (fun _ _ => by simp) hrewrite
  rcases List.mem_append.mp hmem with hdelete | hset
  · split_ifs at hdelete
    · cases hdelete
    · obtain ⟨-, i, option, -, hevent⟩ := mem_deletionLog.mp hdelete
      cases hok : (ui.reply i).ok <;> simp [deleteEvents, hok] at hevent
  · split_ifs at hset
    · cases List.mem_singleton.mp hset
    · cases hset

/-- Every option of mBootOptions has a number. -/
def Numbered (m : OrderMenu) : Prop := ∀ o ∈ m.bootOptions, o.optionNumber = some o.number

theorem numbered_rebuilt (vars : BootVariables) : Numbered (rebuildOrderList H defaults vars) :=
  fun _ ho => (getLoadOptions_loaded ho).1

/-- The loop over the slots changes no number. -/
theorem numbered_of_labels {m m' : OrderMenu} (h : Numbered m)
    (hlabels : m'.bootOptions.map LoadOption.label = m.bootOptions.map LoadOption.label) :
    Numbered m' := by
  intro o ho
  have hlabel : o.label ∈ m.bootOptions.map LoadOption.label := by
    rw [← hlabels]
    exact List.mem_map_of_mem ho
  obtain ⟨o', ho', heq⟩ := List.mem_map.mp hlabel
  have hnumber : o.optionNumber = some o'.number :=
    (congrArg Prod.fst heq).symm.trans (h o' ho')
  rw [LoadOption.number, hnumber]
  rfl

/-- The menu after a submission with a BOOT flag. -/
theorem routeConfig_boot_numbered {m : OrderMenu} (h : Numbered m) (ui : Dialogs)
    (vars : BootVariables) {sub : Submission} {slot : UInt32 × LoadOption}
    (hproc : sub.processed = true) (hslot : bootSlot H m sub = some slot) :
    Numbered (routeConfig H defaults ui sub m vars).menu := by
  have hscan : scanSlots H ui sub.configToBlock.1 (m.submit sub) =
      .error (bootEntry ui sub.configToBlock.1 (scannedBeforeBoot H m sub) slot.1 slot.2) :=
    scan_boot m.bootOptionLimit sub.configToBlock.1 _ hslot m.scanStart
  have haccepted : Accepted m.bootOptions (sub.entriesBeforeBoot H m) (scannedBeforeBoot H m sub) :=
    m.accepted_scanStart.foldl m.bootOptionLimit (sub.entriesBeforeBoot H m)
  obtain ⟨hlock, herror, halloc⟩ := Submission.processed_iff.mp hproc
  unfold OrderMenu.submit at hscan
  unfold bootEntry at hscan
  simp only [routeConfig, hlock, herror, halloc, hscan, Bool.not_true, Bool.false_eq_true, if_false]
  cases ui.swm with
  | false => exact numbered_rebuilt _
  | true =>
      cases (ui.reply 0).ok with
      | false => exact numbered_rebuilt _
      | true => exact numbered_of_labels h haccepted.labels

/-- **What a submission does to BootNext**, and that the options keep their numbers. -/
theorem submit_bootNext {st : FormState} (h : Numbered st.menu) (sub : Submission) (ui : Dialogs) :
    Numbered (routeConfig H defaults ui sub st.menu st.vars).menu ∧
      (routeConfig H defaults ui sub st.menu st.vars).vars.bootNext =
        (sub.confirms H ui st.menu).or st.vars.bootNext := by
  unfold Submission.confirms
  cases hproc : sub.processed with
  | false =>
      obtain ⟨status, c, hr⟩ := routeConfig_unprocessed_eq H defaults ui st.menu st.vars hproc
      rw [hr]
      exact ⟨h, rfl⟩
  | true =>
      cases hslot : bootSlot H st.menu sub with
      | none =>
          -- the submission is committed, and its events write other variables
          have hboot := noBoot_of_bootSlot hslot
          obtain ⟨hvars, hmenu, -⟩ := routeConfig_commits defaults ui st.vars h hboot hproc
          have hlog := routeConfig_commitLog defaults ui st.vars h hboot hproc
          rw [hmenu, hvars]
          refine ⟨numbered_rebuilt _, ?_⟩
          rw [replay_keeps_bootNext hlog.setBootNext_not_mem, Option.map_none, ite_self,
            Option.none_or]
      | some slot =>
          refine ⟨routeConfig_boot_numbered h ui st.vars hproc hslot, ?_⟩
          obtain ⟨hvars, hevents⟩ := routeConfig_boot defaults ui st.vars hproc hslot
          -- the loop stops at the slot; before it, only options are rewritten
          have hrewrites := scannedBeforeBoot_rewrites (H := H) st.menu sub
          have hbefore : ∀ n, .setBootNext n ∉ (scannedBeforeBoot H st.menu sub).events :=
            fun n => hrewrites.not_mem fun _ _ => by simp
          rw [hvars, hevents, replay_append, Option.map_some, Bool.true_and]
          unfold bootEvents
          cases ui.swm with
          | false => exact replay_keeps_bootNext hbefore st.vars
          | true =>
              cases (ui.reply 0).ok with
              | false => exact replay_keeps_bootNext hbefore st.vars
              | true => rfl

theorem step_bootNext (st : FormState) (step : FormStep) (h : Numbered st.menu) :
    Numbered ((orderForm H defaults).step st step).1.menu ∧
      ((orderForm H defaults).step st step).1.vars.bootNext =
        (st.confirmed H step).or st.vars.bootNext := by
  cases step with
  | formOpen => exact ⟨numbered_rebuilt st.vars, rfl⟩
  | submit sub ui => exact submit_bootNext h sub ui
  | addOption n o i => exact ⟨h, rfl⟩

/-! ## The session -/

/-- **BootNext is a register that only confirmed boots write**, over every run of the form. -/
theorem bootNext_run (vars : BootVariables) (steps : List FormStep) :
    ((orderForm H defaults).run (.atFrontPage vars) steps).vars.bootNext =
      (orderForm H defaults).lastAlong (FormState.confirmed H) (.atFrontPage vars) steps := by
  have hstart : Numbered (FormState.atFrontPage vars).menu := fun _ ho => absurd ho List.not_mem_nil
  have hrun := (orderForm H defaults).run_last (I := fun st => Numbered st.menu)
    (fun st => st.vars.bootNext) (FormState.confirmed H)
    (fun st step h => (step_bootNext st step h).1) (fun st step h => (step_bootNext st step h).2)
    steps hstart
  exact hrun.trans Option.or_none

/-- **Nothing boots without a dialog of this session.** BootNext names an option at the end exactly
if some submission confirmed it, and no later one confirmed any. -/
theorem only_confirmed_boots (vars : BootVariables) (steps : List FormStep) (n : UInt16) :
    ((orderForm H defaults).run (.atFrontPage vars) steps).vars.bootNext = some n ↔
      ∃ before sub ui after, steps = before ++ .submit sub ui :: after ∧
        sub.confirms H ui ((orderForm H defaults).run (.atFrontPage vars) before).menu = some n ∧
        (orderForm H defaults).lastAlong (FormState.confirmed H) ((orderForm H defaults).step
          ((orderForm H defaults).run (.atFrontPage vars) before) (.submit sub ui)).1 after =
            none := by
  rw [bootNext_run, Machine.lastAlong_eq_some_iff]
  constructor
  · rintro ⟨before, step, after, hsteps, hconfirmed, hlast⟩
    cases step with
    | formOpen => cases hconfirmed
    | addOption n o i => cases hconfirmed
    | submit sub ui => exact ⟨before, sub, ui, after, hsteps, hconfirmed, hlast⟩
  · rintro ⟨before, sub, ui, after, hsteps, hconfirmed, hlast⟩
    exact ⟨before, .submit sub ui, after, hsteps, hconfirmed, hlast⟩

end BootNext

end OemPkg.BootMenu
