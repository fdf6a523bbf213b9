/-
# OemPkg.BootMenu.OrderLog — what a submitted boot order does

RouteConfig takes an option that is missing from the slots for a deleted one. `routeConfig_log` says
what it does with a submission of distinct displayed options: some Boot#### are rewritten, each
omitted option is asked about, and the new order may be written. The lemmas on `OrderLog` read off
that log which dialogs are shown, what is deleted and what BootOrder holds in the end.
-/
import OemPkg.BootMenu.OrderForm
import Mathlib.Data.List.Nodup
import Mathlib.Data.List.Perm.Basic

namespace OemPkg.BootMenu

open OemPkg.Lib OemPkg.Uefi

/-! ## Replaying a log -/

theorem replay_append (vars : BootVariables) (a b : List Event) :
    vars.replay (a ++ b) = (vars.replay a).replay b := List.foldl_append

/-- The events that take a Boot#### variable away. -/
def Event.deletes (n : UInt16) (e : Event) : Prop :=
  e = .deleteLoadOptionVariable n ∨ e = .deleteBootVariable n

/-- A Boot#### variable survives a log that does not delete it. -/
theorem replay_keeps_boot {n : UInt16} {events : List Event} (h : ∀ e ∈ events, ¬ e.deletes n)
    {vars : BootVariables} (hn : (vars.boot n).isSome) : ((vars.replay events).boot n).isSome := by
  refine List.foldlRecOn (motive := fun v : BootVariables => (v.boot n).isSome) events _ hn
    fun v hv e he => ?_
  have hne := h e he
  have hupdate : ∀ (k : UInt16) (o : Option EfiLoadOption), (n = k → o.isSome) →
      (Function.update v.boot k o n).isSome := by
    intro k o ho
    by_cases hk : n = k
    · subst hk
      rw [Function.update_self]
      exact ho rfl
    · rwa [Function.update_of_ne hk]
  cases e with
  | loadOptionToVariable k o => exact hupdate k _ fun _ => rfl
  | deleteLoadOptionVariable k => exact hupdate k none fun hk => absurd (.inl (hk ▸ rfl)) hne
  | deleteBootVariable k => exact hupdate k none fun hk => absurd (.inr (hk ▸ rfl)) hne
  | _ => exact hv

/-- A number stays in BootOrder through a log that neither removes it nor writes BootOrder. -/
theorem replay_keeps_order {n : UInt16} {events : List Event}
    (hdel : Event.deleteLoadOptionVariable n ∉ events)
    (hset : ∀ order, Event.setBootOrder order ∉ events) {vars : BootVariables}
    (hn : n ∈ vars.bootOrder) : n ∈ (vars.replay events).bootOrder := by
  refine List.foldlRecOn (motive := fun v : BootVariables => n ∈ v.bootOrder) events _ hn
    fun v hv e he => ?_
  cases e with
  | deleteLoadOptionVariable k =>
      have hk : n ≠ k := by
        rintro rfl
        exact hdel he
      exact List.mem_filter.mpr ⟨hv, bne_iff_ne.mpr hk⟩
  | setBootOrder order => exact absurd he (hset order)
  | _ => exact hv

/-- The last write of BootOrder is what it holds. -/
theorem replay_setBootOrder (vars : BootVariables) (events : List Event) (order : List UInt16) :
    (vars.replay (events ++ [.setBootOrder order])).bootOrder = order := by
  rw [replay_append]
  rfl

/-! ## The loop over the slots -/

/-- What the loop over the slots leaves of an option. -/
def LoadOption.label (o : LoadOption) : Option UInt16 × String := (o.optionNumber, o.description)

/-- The entries below the limit: its nonzero slots. -/
def OrderMenuConfiguration.entries (c : OrderMenuConfiguration) (limit : Nat) : List UInt32 :=
  (c.orderOptions.take limit).filter (· != 0)

/-- Every event of the log rewrites a Boot#### variable. -/
def Rewrites (events : List Event) : Prop :=
  ∀ e ∈ events, ∃ n o, e = .loadOptionToVariable n o

theorem Rewrites.not_mem {events : List Event} (h : Rewrites events) {e : Event}
    (he : ∀ n o, e ≠ .loadOptionToVariable n o) : e ∉ events := by
  intro hmem
  rcases h e hmem with ⟨n, o, heq⟩
  exact he n o heq

theorem syncActive_label (n : UInt16) (active : Bool) (limit : Nat) (options : List LoadOption) :
    (syncActive n active limit options).1.map LoadOption.label = options.map LoadOption.label := by
  fun_induction syncActive n active limit options with
  | case1 => rfl
  | case2 => rfl
  | case3 => rfl
  | case4 => rfl
  | case5 limit o options hne options' events hrec ih =>
      simp only [List.map_cons, List.cons.injEq, true_and]
      simpa only [hrec] using ih

theorem syncActive_rewrites (n : UInt16) (active : Bool) (limit : Nat)
    (options : List LoadOption) : Rewrites (syncActive n active limit options).2 := by
  fun_induction syncActive n active limit options with
  | case1 => exact fun _ he => absurd he List.not_mem_nil
  | case2 => exact fun _ he => absurd he List.not_mem_nil
  | case3 => exact fun _ he => absurd he List.not_mem_nil
  | case4 => exact fun e he => ⟨_, _, List.mem_singleton.mp he⟩
  | case5 limit o options hne options' events hrec ih => simpa only [hrec] using ih

/-- The loop over the slots after the entries `entries`. -/
structure Accepted (options : List LoadOption) (entries : List UInt32) (s : Scan) : Prop where
  order : s.newBootOrder = entries.map thisOption
  labels : s.options.map LoadOption.label = options.map LoadOption.label
  rewrites : Rewrites s.events

section Log

variable {H : OrderedListFlags} {defaults : Option (List EfiLoadOption)} {ui : Dialogs}

theorem acceptEntry_accepted {options : List LoadOption} {entries : List UInt32} {s : Scan}
    (h : Accepted options entries s) (limit : Nat) (entry : UInt32) :
    Accepted options (entries ++ [entry]) (acceptEntry H limit s entry) where
  order := by
    show s.newBootOrder ++ [thisOption entry] = _
    rw [h.order, List.map_append, List.map_singleton]
  labels := (syncActive_label _ _ _ _).trans h.labels
  rewrites := by
    intro e he
    rcases List.mem_append.mp he with hold | hnew
    · exact h.rewrites e hold
    · exact syncActive_rewrites _ _ _ _ e hnew

/-- The loop after more entries. -/
theorem Accepted.foldl {options : List LoadOption} (limit : Nat) (entries : List UInt32) :
    ∀ {accepted : List UInt32} {s : Scan}, Accepted options accepted s →
      Accepted options (accepted ++ entries) (entries.foldl (acceptEntry H limit) s) := by
  induction entries with
  | nil =>
      intro accepted s h
      rwa [List.append_nil]
  | cons entry entries ih =>
      intro accepted s h
      rw [List.append_cons]
      exact ih (acceptEntry_accepted h limit entry)

variable (ui) in
/-- Without a BOOT flag the loop runs to its end and accepts every nonzero slot. -/
theorem scan_run (limit : Nat) (status : EfiStatus) (slots : List (UInt32 × LoadOption))
    (hboot : ∀ slot ∈ slots, slot.1 &&& H.boot = 0) (s : Scan) :
    slots.foldlM (scanSlot H ui limit status) s =
      .ok (((slots.map Prod.fst).filter (· != 0)).foldl (acceptEntry H limit) s) := by
  induction slots generalizing s with
  | nil => rfl
  | cons slot slots ih =>
      have hrest := fun slot' hs => hboot slot' (List.mem_cons_of_mem _ hs)
      rw [List.foldlM_cons, List.map_cons]
      show scanSlot H ui limit status s slot >>= _ = _
      by_cases hzero : slot.1 = 0
      · rw [scanSlot, if_pos hzero, List.filter_cons_of_neg (by simp [hzero])]
        exact ih hrest s
      · rw [scanSlot, if_neg hzero, if_neg (not_not.mpr (hboot slot List.mem_cons_self)),
          List.filter_cons_of_pos (by simp [hzero])]
        exact ih hrest (acceptEntry H limit s slot.1)

/-- The slots the loop reads are those below mBootOptionLimit. -/
theorem slots_fst (m : OrderMenu) :
    (m.orderConfiguration.orderOptions.zip m.bootOptions).map Prod.fst =
      m.orderConfiguration.orderOptions.take m.bootOptionLimit := by
  rw [List.zip_eq_zip_take_min, List.map_fst_zip, OrderMenu.bootOptionLimit,
    ← m.orderConfiguration.size, min_comm]
  simp only [List.length_take]
  omega

/-- The state in which the loop over the slots starts. -/
def OrderMenu.scanStart (m : OrderMenu) : Scan := ⟨[], m.bootOptions, []⟩

theorem OrderMenu.accepted_scanStart (m : OrderMenu) : Accepted m.bootOptions [] m.scanStart :=
  ⟨rfl, rfl, fun _ he => absurd he List.not_mem_nil⟩

variable (ui) in
/-- The loop over the slots of a form without a BOOT flag. -/
theorem scanSlots_ok (status : EfiStatus) (m : OrderMenu)
    (hboot : ∀ entry ∈ m.orderConfiguration.entries m.bootOptionLimit, entry &&& H.boot = 0) :
    scanSlots H ui status m = .ok ((m.orderConfiguration.entries m.bootOptionLimit).foldl
      (acceptEntry H m.bootOptionLimit) m.scanStart) := by
  set slots := m.orderConfiguration.orderOptions.zip m.bootOptions with hslots
  have hfst : slots.map Prod.fst =
      m.orderConfiguration.orderOptions.take m.bootOptionLimit := slots_fst m
  have hflag : ∀ slot ∈ slots, slot.1 &&& H.boot = 0 := by
    intro slot hslot
    by_cases hzero : slot.1 = 0
    · rw [hzero, UInt32.zero_and]
    · refine hboot slot.1 (List.mem_filter.mpr ⟨?_, by simpa using hzero⟩)
      rw [← hfst]
      exact List.mem_map_of_mem hslot
  have hrun := scan_run ui m.bootOptionLimit status slots hflag m.scanStart
  rwa [hfst] at hrun

/-! ## The deletion loop -/

/-- The log of the deletion loop over `options`, when `asked` dialogs have been shown. -/
def deletionLog (ui : Dialogs) (options : List (UInt16 × String)) (asked : Nat) : List Event :=
  if ui.swm then
    (options.zipIdx asked).flatMap fun option => deleteEvents option.1 (ui.reply option.2).ok
  else []

/-- One of the first `count` dialogs is shown and answered OK. -/
def Confirmed (ui : Dialogs) (count : Nat) : Prop :=
  ui.swm = true ∧ ∃ i < count, (ui.reply i).ok = true

instance (ui : Dialogs) (count : Nat) : Decidable (Confirmed ui count) :=
  inferInstanceAs (Decidable (_ ∧ _))

variable (ui) in
/-- The deletion loop appends its log, and sets the flag when a dialog is answered OK. -/
theorem confirmDelete_run (options : List (UInt16 × String)) (d : Deletion) :
    (options.foldl (confirmDelete ui) d).events = d.events ++ deletionLog ui options d.asked ∧
      ((options.foldl (confirmDelete ui) d).allowSetBootorder = true ↔
        d.allowSetBootorder = true ∨
          ui.swm = true ∧ ∃ i < options.length, (ui.reply (d.asked + i)).ok = true) := by
  unfold deletionLog
  cases hswm : ui.swm with
  | false =>
      have hstay : options.foldl (confirmDelete ui) d = d :=
        List.foldlRecOn (motive := (· = d)) options _ rfl fun d' hd' o _ => by
          rw [hd', confirmDelete, hswm, if_neg Bool.false_ne_true]
      simp [hstay]
  | true =>
      simp only [if_true, true_and]
      induction options generalizing d with
      | nil => simp
      | cons option options ih =>
          have hstep : confirmDelete ui d option =
              ⟨d.allowSetBootorder || (ui.reply d.asked).ok,
                if (ui.reply d.asked).ok then efiNotFound else (ui.reply d.asked).status,
                d.asked + 1, d.events ++ deleteEvents option (ui.reply d.asked).ok⟩ := by
            rw [confirmDelete, if_pos hswm]
          rcases ih (confirmDelete ui d option) with ⟨hevents, hallow⟩
          rw [List.foldl_cons, hevents, hallow, hstep]
          refine ⟨by simp [List.zipIdx_cons, List.append_assoc], ?_⟩
          simp only [Bool.or_eq_true, List.length_cons, Nat.exists_lt_succ_left, Nat.add_zero,
            or_assoc]
          simp only [Nat.add_right_comm, Nat.add_assoc]

/-! ## Loaded options and the ones a submission omits -/

theorem getLoadOptions_loaded {vars : BootVariables} {o : LoadOption}
    (h : o ∈ getLoadOptions vars) :
    o.optionNumber = some o.number ∧ o.number ∈ vars.bootOrder := by
  rcases List.mem_filterMap.mp h with ⟨n, hn, hload⟩
  rcases Option.map_eq_some_iff.mp hload with ⟨var, -, rfl⟩
  exact ⟨rfl, hn⟩

/-- The numbers the entries of a submission decode to, followed by those of the options that have no
slot. -/
def newOrder (m : OrderMenu) (entries : List UInt32) : List UInt16 :=
  entries.map thisOption ++ (m.bootOptions.drop m.bootOptionLimit).map LoadOption.number

/-- The options with a slot of their own that no entry of the submission names. -/
def omittedOptions (m : OrderMenu) (entries : List UInt32) : List LoadOption :=
  (m.bootOptions.take m.bootOptionLimit).filter fun o => o.number ∉ entries.map thisOption

/-- The entries decode to distinct displayed options and carry no BOOT flag. -/
structure SubmitsDisplayed (H : OrderedListFlags) (m : OrderMenu) (entries : List UInt32) :
    Prop where
  distinct : (entries.map thisOption).Nodup
  displayed : ∀ n ∈ entries.map thisOption,
    ∃ o ∈ m.bootOptions.take m.bootOptionLimit, o.displayed = true ∧ o.optionNumber = some n
  noBoot : ∀ entry ∈ entries, entry &&& H.boot = 0

/-- The boot options of `m` are loaded, and have distinct numbers. -/
structure Loaded (m : OrderMenu) (vars : BootVariables) : Prop where
  loaded : m.bootOptions = getLoadOptions vars
  distinct : (m.bootOptions.map LoadOption.number).Nodup

namespace Loaded

variable {m : OrderMenu} {vars : BootVariables} {entries : List UInt32}

theorem optionNumber (h : Loaded m vars) {o : LoadOption} (ho : o ∈ m.bootOptions) :
    o.optionNumber = some o.number := (getLoadOptions_loaded (h.loaded ▸ ho)).1

/-- **Every option is submitted, kept for want of a slot, or omitted**, and only one of these. -/
theorem numbers_perm (h : Loaded m vars) (hsub : SubmitsDisplayed H m entries) :
    (m.bootOptions.map LoadOption.number).Perm
      (newOrder m entries ++ (omittedOptions m entries).map LoadOption.number) := by
  set first := m.bootOptions.take m.bootOptionLimit with hfirst
  have hsplit : m.bootOptions = first ++ m.bootOptions.drop m.bootOptionLimit :=
    (List.take_append_drop _ _).symm
  have hnodup : (first.map LoadOption.number).Nodup :=
    h.distinct.sublist ((List.take_sublist _ _).map _)
  have homitted : (omittedOptions m entries).map LoadOption.number =
      (first.map LoadOption.number).filter (· ∉ entries.map thisOption) := by
    rw [List.filter_map, omittedOptions]
    rfl
  have hslots : (first.map LoadOption.number).Perm
      (entries.map thisOption ++ (omittedOptions m entries).map LoadOption.number) := by
    rw [homitted, List.perm_ext_iff_of_nodup hnodup]
    · intro n
      have hmem : n ∈ entries.map thisOption → n ∈ first.map LoadOption.number := by
        intro hn
        rcases hsub.displayed n hn with ⟨o, ho, -, hnumber⟩
        refine List.mem_map.mpr ⟨o, ho, ?_⟩
        rw [LoadOption.number, hnumber, Option.getD_some]
      simp only [List.mem_append, List.mem_filter, decide_eq_true_eq]
      tauto
    · refine List.nodup_append.mpr ⟨hsub.distinct, hnodup.filter _, ?_⟩
      rintro n hn _ hn' rfl
      exact of_decide_eq_true (List.mem_filter.mp hn').2 hn
  calc m.bootOptions.map LoadOption.number
      = first.map LoadOption.number ++
          (m.bootOptions.drop m.bootOptionLimit).map LoadOption.number := by
        rw [← List.map_append, ← hsplit]
    _ |>.Perm _ := (hslots.append_right _)
    _ |>.Perm _ := by
        rw [newOrder, List.append_assoc, List.append_assoc]
        exact List.perm_append_comm.append_left _

end Loaded

/-! ## The log of a submission -/

theorem deletedOptions_eq (limit : Nat) (newBootOrder : List UInt16) (options : List LoadOption) :
    deletedOptions limit newBootOrder options =
      ((options.map LoadOption.label).take limit).filterMap fun l =>
        l.1.bind fun n => if n ∈ newBootOrder then none else some (n, l.2) := by
  rw [deletedOptions, ← List.map_take, List.filterMap_map, List.filterMap_map]
  apply List.filterMap_congr
  intro o _
  simp only [Function.comp, markUnassigned, LoadOption.label]
  cases hnumber : o.optionNumber with
  | none => simp [hnumber]
  | some n => by_cases hn : n ∈ newBootOrder <;> simp [hn, hnumber]

/-- The options with a slot of their own whose number the new order lacks. -/
def missingOptions (m : OrderMenu) (entries : List UInt32) : List LoadOption :=
  (m.bootOptions.take m.bootOptionLimit).filter fun o => o.number ∉ newOrder m entries

/-- Of numbered options, the loop deletes those that the new order lacks. -/
theorem deletedOptions_newOrder {m : OrderMenu} {entries : List UInt32}
    (hnumber : ∀ o ∈ m.bootOptions, o.optionNumber = some o.number) {options : List LoadOption}
    (hlabel : options.map LoadOption.label = m.bootOptions.map LoadOption.label) :
    deletedOptions m.bootOptionLimit (newOrder m entries) options =
      (missingOptions m entries).map fun o => (o.number, o.description) := by
  rw [deletedOptions_eq, hlabel, ← List.map_take, List.filterMap_map, missingOptions,
    ← List.filterMap_eq_map, List.filterMap_filter]
  apply List.filterMap_congr
  intro o ho
  simp only [Function.comp, LoadOption.label, hnumber o (List.mem_of_mem_take ho),
    Option.bind_some]
  by_cases hn : o.number ∈ newOrder m entries <;> simp [hn]

/-- Of distinct options, the new order lacks those that the submission omits. -/
theorem Loaded.missingOptions_eq {m : OrderMenu} {vars : BootVariables} (h : Loaded m vars)
    (entries : List UInt32) : missingOptions m entries = omittedOptions m entries := by
  apply List.filter_congr
  intro o ho
  have hrest : o.number ∉ (m.bootOptions.drop m.bootOptionLimit).map LoadOption.number := by
    have hsplit := h.distinct
    rw [← List.take_append_drop m.bootOptionLimit m.bootOptions, List.map_append] at hsplit
    exact fun hin =>
      (List.nodup_append.mp hsplit).2.2 _ (List.mem_map_of_mem ho) _ hin rfl
  simp only [newOrder, List.mem_append, hrest, or_false]

/-- The menu RouteConfig works on: the options with the slots as they are submitted. -/
def OrderMenu.submit (m : OrderMenu) (sub : Submission) : OrderMenu :=
  { m with orderConfiguration := sub.configToBlock.2 }

/-- The entries of a submission: the nonzero slots below the limit. -/
def Submission.entries (sub : Submission) (m : OrderMenu) : List UInt32 :=
  sub.configToBlock.2.entries m.bootOptionLimit

variable (H defaults ui) in
/-- Unless it reaches the slots, RouteConfig changes nothing but mOrderConfiguration. -/
theorem routeConfig_unprocessed_eq (m : OrderMenu) (vars : BootVariables) {sub : Submission}
    (hproc : sub.processed = false) :
    ∃ status c, routeConfig H defaults ui sub m vars =
      ⟨status, { m with orderConfiguration := c }, vars, []⟩ := by
  unfold Submission.processed at hproc
  unfold routeConfig
  cases hlock : sub.locked with
  | true => exact ⟨efiSuccess, m.orderConfiguration, rfl⟩
  | false =>
      cases herror : efiError sub.configToBlock.1 with
      | true => exact ⟨sub.configToBlock.1, sub.configToBlock.2, by simp [herror]⟩
      | false =>
          have halloc : sub.allocated = false := by simpa [hlock, herror] using hproc
          exact ⟨efiUnsupported, sub.configToBlock.2, by simp [halloc, herror]⟩

variable (H defaults ui) in
/-- RouteConfig does nothing to the variables unless it reaches the slots. -/
theorem routeConfig_unprocessed (m : OrderMenu) (vars : BootVariables) {sub : Submission}
    (hproc : sub.processed = false) :
    (routeConfig H defaults ui sub m vars).events = [] ∧
      (routeConfig H defaults ui sub m vars).vars = vars := by
  obtain ⟨status, c, hr⟩ := routeConfig_unprocessed_eq H defaults ui m vars hproc
  rw [hr]
  exact ⟨rfl, rfl⟩

variable (H) in
/-- The end of the loop over the slots of a submission without a BOOT flag. -/
def scanned (m : OrderMenu) (sub : Submission) : Scan :=
  (sub.entries m).foldl (acceptEntry H m.bootOptionLimit) m.scanStart

variable (H) in
theorem scanned_accepted (m : OrderMenu) (sub : Submission) :
    Accepted m.bootOptions (sub.entries m) (scanned H m sub) :=
  m.accepted_scanStart.foldl m.bootOptionLimit (sub.entries m)

theorem Submission.processed_iff {sub : Submission} :
    sub.processed = true ↔
      sub.locked = false ∧ efiError sub.configToBlock.1 = false ∧ sub.allocated = true := by
  simp [Submission.processed, and_assoc]

variable (defaults ui) in
/-- RouteConfig after a loop over the slots that ran to its end. -/
theorem routeConfig_scanned {m : OrderMenu} (vars : BootVariables) {sub : Submission}
    (hboot : ∀ entry ∈ sub.entries m, entry &&& H.boot = 0) (hproc : sub.processed = true) :
    let commit := commitOrder ui m.bootOptionLimit sub.configToBlock.1 vars (scanned H m sub)
    routeConfig H defaults ui sub m vars =
      ⟨commit.1, rebuildOrderList H defaults (vars.replay commit.2), vars.replay commit.2,
        commit.2⟩ := by
  obtain ⟨hlock, herror, halloc⟩ := Submission.processed_iff.mp hproc
  have hscan : scanSlots H ui sub.configToBlock.1 (m.submit sub) = .ok (scanned H m sub) :=
    scanSlots_ok ui sub.configToBlock.1 (m.submit sub) hboot
  unfold OrderMenu.submit at hscan
  simp only [routeConfig, hlock, herror, halloc, hscan, Bool.not_true, Bool.false_eq_true,
    if_false]
  rfl

/-- The new order is written: no slot is empty, or one of the deletions is confirmed. -/
def Commits (ui : Dialogs) (m : OrderMenu) (entries : List UInt32) : Prop :=
  entries.length = m.bootOptionLimit ∨ Confirmed ui (missingOptions m entries).length

instance (ui : Dialogs) (m : OrderMenu) (entries : List UInt32) :
    Decidable (Commits ui m entries) :=
  inferInstanceAs (Decidable (_ ∨ _))

/-- What follows the rewrites in a log without a BOOT flag: every missing option is asked about if a
slot is empty, and then the new order may be written. -/
def commitEvents (ui : Dialogs) (m : OrderMenu) (entries : List UInt32) : List Event :=
  (if entries.length = m.bootOptionLimit then []
    else deletionLog ui ((missingOptions m entries).map fun o => (o.number, o.description)) 0) ++
  if Commits ui m entries then [.setBootOrder (newOrder m entries)] else []

/-- From the loop over the slots to Exit1. -/
theorem commitOrder_events {m : OrderMenu} {vars : BootVariables} {entries : List UInt32} {s : Scan}
    (hnumber : ∀ o ∈ m.bootOptions, o.optionNumber = some o.number)
    (hs : Accepted m.bootOptions entries s) (status : EfiStatus) :
    (commitOrder ui m.bootOptionLimit status vars s).2 =
      s.events ++ commitEvents ui m entries := by
  have hnumbers : (s.options.drop m.bootOptionLimit).map LoadOption.number =
      (m.bootOptions.drop m.bootOptionLimit).map LoadOption.number := by
    have hlabels := congrArg (List.map fun l => l.1.getD 0) hs.labels
    simp only [List.map_map] at hlabels
    simp only [List.map_drop]
    exact congrArg _ hlabels
  have hnew : s.newBootOrder ++ (s.options.drop m.bootOptionLimit).map LoadOption.number =
      newOrder m entries := by rw [hnumbers, hs.order, newOrder]
  have hcount : s.options.length = (newOrder m entries).length ↔
      entries.length = m.bootOptionLimit := by
    have hlength := congrArg List.length hs.labels
    have hlimit : m.bootOptionLimit ≤ m.bootOptions.length := min_le_left _ _
    simp only [List.length_map] at hlength
    simp only [newOrder, List.length_append, List.length_map, List.length_drop]
    omega
  simp only [commitOrder, commitEvents, hnew, deletedOptions_newOrder hnumber hs.labels, ne_eq,
    hcount]
  by_cases hfull : entries.length = m.bootOptionLimit
  · simp [Commits, hfull]
  · obtain ⟨hevents, hallow⟩ := confirmDelete_run ui
      ((missingOptions m entries).map fun o => (o.number, o.description))
      ⟨false, status, 0, s.events⟩
    have hcommits : Commits ui m entries ↔
        (((missingOptions m entries).map fun o => (o.number, o.description)).foldl
          (confirmDelete ui) ⟨false, status, 0, s.events⟩).allowSetBootorder = true := by
      simp [hallow, Commits, Confirmed, hfull]
    simp only [hfull, not_false_eq_true, if_true, if_false, hcommits, ← List.append_assoc,
      ← hevents]
    split <;> simp

variable (defaults ui) in
/-- **RouteConfig without a BOOT flag**: its log, and the form that is rebuilt after it. -/
theorem routeConfig_commits {m : OrderMenu} (vars : BootVariables) {sub : Submission}
    (hnumber : ∀ o ∈ m.bootOptions, o.optionNumber = some o.number)
    (hboot : ∀ entry ∈ sub.entries m, entry &&& H.boot = 0) (hproc : sub.processed = true) :
    let r := routeConfig H defaults ui sub m vars
    r.vars = vars.replay r.events ∧ r.menu = rebuildOrderList H defaults r.vars ∧
      r.events = (scanned H m sub).events ++ commitEvents ui m (sub.entries m) := by
  intro r
  have hr : r = _ := routeConfig_scanned defaults ui vars hboot hproc
  rw [hr]
  exact ⟨rfl, rfl, commitOrder_events hnumber (scanned_accepted H m sub) sub.configToBlock.1⟩

/-- What a log without a BOOT flag is made of: some Boot#### are rewritten, and then the new order
may be written. -/
def CommitLog (ui : Dialogs) (m : OrderMenu) (entries : List UInt32) (events : List Event) : Prop :=
  ∃ rewrites, Rewrites rewrites ∧ events = rewrites ++ commitEvents ui m entries

variable (defaults ui) in
theorem routeConfig_commitLog {m : OrderMenu} (vars : BootVariables) {sub : Submission}
    (hnumber : ∀ o ∈ m.bootOptions, o.optionNumber = some o.number)
    (hboot : ∀ entry ∈ sub.entries m, entry &&& H.boot = 0) (hproc : sub.processed = true) :
    CommitLog ui m (sub.entries m) (routeConfig H defaults ui sub m vars).events := by
  obtain ⟨-, -, hevents⟩ := routeConfig_commits defaults ui vars hnumber hboot hproc
  exact ⟨_, (scanned_accepted H m sub).rewrites, hevents⟩

/-- The new order is written: no option is omitted, or one of the deletions is confirmed. -/
def Written (ui : Dialogs) (m : OrderMenu) (entries : List UInt32) : Prop :=
  omittedOptions m entries = [] ∨ Confirmed ui (omittedOptions m entries).length

instance (ui : Dialogs) (m : OrderMenu) (entries : List UInt32) :
    Decidable (Written ui m entries) :=
  inferInstanceAs (Decidable (_ ∨ _))

/-- What a log of distinct displayed options is made of: some Boot#### are rewritten, every omitted
option is asked about, and then the new order may be written. -/
def OrderLog (ui : Dialogs) (m : OrderMenu) (entries : List UInt32) (events : List Event) : Prop :=
  ∃ rewrites, Rewrites rewrites ∧ events =
    rewrites ++
      deletionLog ui ((omittedOptions m entries).map fun o => (o.number, o.description)) 0 ++
      if Written ui m entries then [.setBootOrder (newOrder m entries)] else []

/-- A submission of distinct displayed options leaves a slot empty only if it omits one. -/
theorem Loaded.slots_full_iff {m : OrderMenu} {vars : BootVariables} {entries : List UInt32}
    (h : Loaded m vars) (hsub : SubmitsDisplayed H m entries) :
    entries.length = m.bootOptionLimit ↔ omittedOptions m entries = [] := by
  have hperm := (h.numbers_perm hsub).length_eq
  have hlimit : m.bootOptionLimit ≤ m.bootOptions.length := min_le_left _ _
  simp only [newOrder, List.length_append, List.length_map, List.length_drop] at hperm
  rw [← List.length_eq_zero_iff]
  omega

variable (defaults ui) in
/-- **The log of a submission of distinct displayed options.** -/
theorem routeConfig_log {m : OrderMenu} {vars : BootVariables} {sub : Submission}
    (h : Loaded m vars) (hsub : SubmitsDisplayed H m (sub.entries m))
    (hproc : sub.processed = true) :
    (routeConfig H defaults ui sub m vars).vars =
        vars.replay (routeConfig H defaults ui sub m vars).events ∧
      OrderLog ui m (sub.entries m) (routeConfig H defaults ui sub m vars).events := by
  have hnumber : ∀ o ∈ m.bootOptions, o.optionNumber = some o.number :=
    fun o ho => h.optionNumber ho
  obtain ⟨rewrites, hrewrites, hevents⟩ :=
    routeConfig_commitLog defaults ui vars hnumber hsub.noBoot hproc
  refine ⟨(routeConfig_commits defaults ui vars hnumber hsub.noBoot hproc).1, rewrites, hrewrites,
    ?_⟩
  have hcommits : Commits ui m (sub.entries m) ↔ Written ui m (sub.entries m) := by
    unfold Commits Written
    rw [h.missingOptions_eq, h.slots_full_iff hsub]
  simp only [hevents, commitEvents, hcommits, h.missingOptions_eq, h.slots_full_iff hsub]
  by_cases hnone : omittedOptions m (sub.entries m) = []
  · simp [hnone, deletionLog]
  · simp [hnone]

theorem mem_deletionLog {options : List (UInt16 × String)} {e : Event} :
    e ∈ deletionLog ui options 0 ↔ ui.swm = true ∧ ∃ i option, options[i]? = some option ∧
      e ∈ deleteEvents option (ui.reply i).ok := by
  unfold deletionLog
  cases ui.swm with
  | false => simp
  | true =>
      simp only [if_true, true_and, List.mem_flatMap, List.mem_zipIdx_iff_getElem?]
      constructor
      · rintro ⟨⟨option, i⟩, hi, he⟩
        exact ⟨i, option, hi, he⟩
      · rintro ⟨i, option, hi, he⟩
        exact ⟨⟨option, i⟩, hi, he⟩

/-- A deletion loop in which nothing is confirmed only asks. -/
theorem deletionLog_unconfirmed {options : List (UInt16 × String)}
    (h : ¬ Confirmed ui options.length) {e : Event} (he : e ∈ deletionLog ui options 0) :
    ∃ n description, e = .deleteDialog n description false := by
  obtain ⟨hswm, i, option, hi, hmem⟩ := mem_deletionLog.mp he
  have hlt : i < options.length := (List.getElem?_eq_some_iff.mp hi).1
  have hcancel : (ui.reply i).ok = false := by
    apply Bool.eq_false_of_not_eq_true
    exact fun hok => h ⟨hswm, i, hlt, hok⟩
  rw [hcancel] at hmem
  exact ⟨_, _, List.mem_singleton.mp hmem⟩

namespace CommitLog

variable {m : OrderMenu} {entries : List UInt32} {events : List Event}

/-- The new order, where it is written, is what BootOrder holds in the end. -/
theorem bootOrder_committed (h : CommitLog ui m entries events) (hc : Commits ui m entries)
    (vars : BootVariables) : (vars.replay events).bootOrder = newOrder m entries := by
  rcases h with ⟨rewrites, -, rfl⟩
  rw [commitEvents, if_pos hc, ← List.append_assoc]
  exact replay_setBootOrder _ _ _

/-- Where it is not, BootOrder loses nothing. -/
theorem bootOrder_uncommitted (h : CommitLog ui m entries events) (hc : ¬ Commits ui m entries)
    (vars : BootVariables) : vars.bootOrder ⊆ (vars.replay events).bootOrder := by
  obtain ⟨hslot, hunconfirmed⟩ := not_or.mp hc
  rcases h with ⟨rewrites, hrewrites, rfl⟩
  rw [commitEvents, if_neg hc, if_neg hslot, List.append_nil]
  have hquiet : ∀ e ∈ rewrites ++ deletionLog ui
      ((missingOptions m entries).map fun o => (o.number, o.description)) 0,
      (∃ n o, e = .loadOptionToVariable n o) ∨
        ∃ n description, e = .deleteDialog n description false := by
    intro e he
    rcases List.mem_append.mp he with hrewrite | hdialog
    · exact .inl (hrewrites e hrewrite)
    · exact .inr (deletionLog_unconfirmed (by rwa [List.length_map]) hdialog)
  intro n hn
  refine replay_keeps_order (fun hdel => ?_) (fun order hset => ?_) hn
  · rcases hquiet _ hdel with ⟨_, _, heq⟩ | ⟨_, _, heq⟩ <;> cases heq
  · rcases hquiet _ hset with ⟨_, _, heq⟩ | ⟨_, _, heq⟩ <;> cases heq

/-- No dialog of the log is about booting. -/
theorem bootDialog_not_mem (h : CommitLog ui m entries events) (description : String)
    (ok : Bool) : .bootDialog description ok ∉ events := by
  rcases h with ⟨rewrites, hrewrites, rfl⟩
  intro hmem
  rcases List.mem_append.mp hmem with hrewrite | hmem
  · exact hrewrites.not_mem (fun _ _ => by simp) hrewrite
  rcases List.mem_append.mp hmem with hdelete | hset
  · split_ifs at hdelete
    · cases hdelete
    · obtain ⟨-, i, option, -, hevent⟩ := mem_deletionLog.mp hdelete
      cases hok : (ui.reply i).ok <;> simp [deleteEvents, hok] at hevent
  · split_ifs at hset
    · cases List.mem_singleton.mp hset
    · cases hset

end CommitLog

namespace OrderLog

variable {m : OrderMenu} {entries : List UInt32} {events : List Event}

/-- What the log holds besides its rewrites of Boot####. -/
theorem mem_iff (h : OrderLog ui m entries events) {e : Event}
    (he : ∀ n o, e ≠ .loadOptionToVariable n o) :
    e ∈ events ↔
      (ui.swm = true ∧ ∃ i o, (omittedOptions m entries)[i]? = some o ∧
        e ∈ deleteEvents (o.number, o.description) (ui.reply i).ok) ∨
      (Written ui m entries ∧ e = .setBootOrder (newOrder m entries)) := by
  rcases h with ⟨rewrites, hrewrites, rfl⟩
  have hnot : e ∉ rewrites := hrewrites.not_mem he
  have htail :
      e ∈ (if Written ui m entries then [Event.setBootOrder (newOrder m entries)] else []) ↔
      Written ui m entries ∧ e = .setBootOrder (newOrder m entries) := by
    split <;> simp [*]
  simp only [List.mem_append, hnot, false_or, htail, mem_deletionLog, List.getElem?_map,
    Option.map_eq_some_iff]
  refine or_congr_left (and_congr_right fun _ => exists_congr fun i => ?_)
  constructor
  · rintro ⟨_, ⟨o, ho, rfl⟩, hmem⟩
    exact ⟨o, ho, hmem⟩
  · rintro ⟨o, ho, hmem⟩
    exact ⟨_, ⟨o, ho, rfl⟩, hmem⟩

/-- The dialogs of the log are those of the omitted options, one each. -/
theorem deleteDialog_iff (h : OrderLog ui m entries events) {n : UInt16} {description : String}
    {ok : Bool} :
    .deleteDialog n description ok ∈ events ↔ ui.swm = true ∧ ∃ i o,
      (omittedOptions m entries)[i]? = some o ∧ o.number = n ∧ o.description = description ∧
        (ui.reply i).ok = ok := by
  rw [h.mem_iff (fun _ _ => by simp)]
  simp only [reduceCtorEq, and_false, or_false]
  refine and_congr_right fun _ => exists_congr fun i => exists_congr fun o =>
    and_congr_right fun _ => ?_
  cases (ui.reply i).ok <;> simp [deleteEvents, eq_comm]

/-- A deletion in the log is that of an omitted option, whose dialog was answered OK. -/
theorem deleted (h : OrderLog ui m entries events) {n : UInt16} {e : Event} (he : e ∈ events)
    (hdel : e.deletes n) : ∃ i o, ui.swm = true ∧ (omittedOptions m entries)[i]? = some o ∧
      o.number = n ∧ (ui.reply i).ok = true := by
  have hne : ∀ k o, e ≠ .loadOptionToVariable k o := by
    rintro k o rfl
    simp [Event.deletes] at hdel
  rcases (h.mem_iff hne).mp he with ⟨hswm, i, o, hi, hmem⟩ | ⟨-, rfl⟩
  · refine ⟨i, o, hswm, hi, ?_⟩
    cases hok : (ui.reply i).ok with
    | false =>
        rw [hok] at hmem
        obtain rfl : e = _ := by simpa [deleteEvents] using hmem
        simp [Event.deletes] at hdel
    | true =>
        rw [hok] at hmem
        obtain rfl | rfl | rfl : e = _ ∨ e = _ ∨ e = _ := by simpa [deleteEvents] using hmem
        · simp [Event.deletes] at hdel
        · exact ⟨by simpa [Event.deletes] using hdel, rfl⟩
        · exact ⟨by simpa [Event.deletes] using hdel, rfl⟩
  · simp [Event.deletes] at hdel

/-- BootOrder is written at most once, with the new order. -/
theorem setBootOrder_iff (h : OrderLog ui m entries events) {order : List UInt16} :
    .setBootOrder order ∈ events ↔ Written ui m entries ∧ order = newOrder m entries := by
  rw [h.mem_iff (fun _ _ => by simp)]
  simp only [Event.setBootOrder.injEq, or_iff_right_iff_imp]
  rintro ⟨-, i, o, -, hmem⟩
  cases hok : (ui.reply i).ok <;> simp [deleteEvents, hok] at hmem

/-- The new order, where it is written, is what BootOrder holds in the end. -/
theorem bootOrder_written (h : OrderLog ui m entries events) (hw : Written ui m entries)
    (vars : BootVariables) : (vars.replay events).bootOrder = newOrder m entries := by
  rcases h with ⟨rewrites, -, rfl⟩
  rw [if_pos hw]
  exact replay_setBootOrder _ _ _

/-- Where the new order is not written, no deletion was confirmed and BootOrder loses nothing. -/
theorem bootOrder_unwritten (h : OrderLog ui m entries events) (hw : ¬ Written ui m entries)
    (vars : BootVariables) : vars.bootOrder ⊆ (vars.replay events).bootOrder := by
  intro n hn
  refine replay_keeps_order (fun hdel => hw (.inr ?_)) (fun order hset => ?_) hn
  · rcases h.deleted hdel (.inl rfl) with ⟨i, o, hswm, hi, -, hok⟩
    exact ⟨hswm, i, (List.getElem?_eq_some_iff.mp hi).1, hok⟩
  · exact hw (h.setBootOrder_iff.mp hset).1

end OrderLog

end Log

end OemPkg.BootMenu
