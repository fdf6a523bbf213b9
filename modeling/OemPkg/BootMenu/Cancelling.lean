/-
# OemPkg.BootMenu.Cancelling — what a cancelled submission does

A submission may mix a reorder with toggled checkboxes, omitted options and a request to boot, and
RouteConfig stops at different points of it. Whatever the mixture, when a dialog comes up and none
is answered OK, `cancelling_is_harmless`: nothing but ACTIVE bits changes, and only those of options
whose checkbox asks for it.
-/
import OemPkg.BootMenu.BootNow
import OemPkg.BootMenu.Toggle

namespace OemPkg.BootMenu

open OemPkg.Lib OemPkg.Uefi

/-! ## Dialogs of a log -/

/-- Whether the event is a dialog, and if so whether it was answered OK. -/
def Event.dialog? : Event → Option Bool
  | .bootDialog _ ok | .deleteDialog _ _ ok => some ok
  | _ => none

/-- A dialog was shown, and every dialog was cancelled or left no result. -/
structure Cancelled (events : List Event) : Prop where
  shown : ∃ e ∈ events, e.dialog?.isSome
  refused : ∀ e ∈ events, e.dialog? ≠ some true

theorem Cancelled.of_append {rewrites events : List Event} (hrewrites : Rewrites rewrites)
    (h : Cancelled (rewrites ++ events)) : Cancelled events := by
  constructor
  · obtain ⟨e, he, hdialog⟩ := h.shown
    rcases List.mem_append.mp he with hrewrite | hrest
    · obtain ⟨n, o, rfl⟩ := hrewrites e hrewrite
      cases hdialog
    · exact ⟨e, hrest, hdialog⟩
  · exact fun e he => h.refused e (List.mem_append_right _ he)

section Cancelling

variable {H : OrderedListFlags} {defaults : Option (List EfiLoadOption)} {ui : Dialogs}

/-- Where every shown dialog about booting was cancelled, the log says no more than that. -/
theorem bootEvents_cancelled {slot : UInt32 × LoadOption} (h : Cancelled (bootEvents ui slot)) :
    ∀ e ∈ bootEvents ui slot, e.dialog? = some false := by
  have hrefused := h.refused
  unfold bootEvents at hrefused ⊢
  cases hswm : ui.swm with
  | false => simp
  | true =>
      cases hok : (ui.reply 0).ok with
      | false => simp [Event.dialog?]
      | true => simp [hswm, hok, Event.dialog?] at hrefused

/-- Where dialogs about deletions were shown and cancelled, nothing is committed. -/
theorem commitEvents_cancelled {m : OrderMenu} {entries : List UInt32}
    (h : Cancelled (commitEvents ui m entries)) :
    ∀ e ∈ commitEvents ui m entries, e.dialog? = some false := by
  obtain ⟨e, he, hdialog⟩ := h.shown
  have hslot : entries.length ≠ m.bootOptionLimit := by
    intro hfull
    rw [commitEvents, if_pos hfull, if_pos (.inl hfull), List.nil_append] at he
    rw [List.mem_singleton.mp he] at hdialog
    cases hdialog
  have hconfirmed : ¬ Confirmed ui (missingOptions m entries).length := by
    rintro ⟨hswm, i, hi, hok⟩
    have hmem : Event.deleteDialog (missingOptions m entries)[i].number
        (missingOptions m entries)[i].description true ∈ commitEvents ui m entries := by
      rw [commitEvents, if_neg hslot]
      apply List.mem_append_left
      refine mem_deletionLog.mpr ⟨hswm, i, _, List.getElem?_map.trans
        (congrArg _ (List.getElem?_eq_getElem hi)), ?_⟩
      rw [hok]
      exact List.mem_cons_self
    exact h.refused _ hmem rfl
  have hcommits : ¬ Commits ui m entries := not_or.mpr ⟨hslot, hconfirmed⟩
  intro e' he'
  rw [commitEvents, if_neg hslot, if_neg hcommits, List.append_nil] at he'
  obtain ⟨n, description, rfl⟩ := deletionLog_unconfirmed (by rwa [List.length_map]) he'
  rfl

/-! ## Flips -/

variable (H) in
/-- The event writes the option of `entry` back with its ACTIVE bit flipped, and the checkbox of the
entry is not as that bit was in `vars`. -/
def Flips (vars : BootVariables) (entry : UInt32) (e : Event) : Prop :=
  ∃ o, vars.boot (thisOption entry) = some o ∧ checked H entry ≠ o.active ∧
    e = .loadOptionToVariable (thisOption entry)
      { o with attributes := o.attributes ^^^ loadOptionActive }

/-- The inner loop changes options of the entry's number only. -/
theorem syncActive_others (n : UInt16) (active : Bool) (limit : Nat) (options : List LoadOption) :
    ∀ o ∈ (syncActive n active limit options).1, o.optionNumber ≠ some n → o ∈ options := by
  fun_induction syncActive n active limit options with
  | case1 => exact fun o ho _ => ho
  | case2 => exact fun o ho _ => ho
  | case3 => exact fun o ho _ => ho
  | case4 limit p options hp hne p' =>
      intro o ho hother
      rcases List.mem_cons.mp ho with rfl | ho
      · exact absurd hp hother
      · exact List.mem_cons_of_mem _ ho
  | case5 limit p options hp options' events hrec ih =>
      rw [hrec] at ih
      intro o ho hother
      rcases List.mem_cons.mp ho with rfl | ho
      · exact List.mem_cons_self
      · exact List.mem_cons_of_mem _ (ih o ho hother)

/-- What the inner loop writes back is an option of that number, flipped. -/
theorem syncActive_flips (n : UInt16) (active : Bool) (limit : Nat) (options : List LoadOption) :
    ∀ e ∈ (syncActive n active limit options).2, ∃ o ∈ options, o.optionNumber = some n ∧
      active ≠ o.active ∧ e = .loadOptionToVariable n
        { o.toEfiLoadOption with attributes := o.attributes ^^^ loadOptionActive } := by
  fun_induction syncActive n active limit options with
  | case1 => exact fun _ he => absurd he List.not_mem_nil
  | case2 => exact fun _ he => absurd he List.not_mem_nil
  | case3 => exact fun _ he => absurd he List.not_mem_nil
  | case4 limit p options hp hne p' =>
      intro e he
      exact ⟨p, List.mem_cons_self, hp, hne, List.mem_singleton.mp he⟩
  | case5 limit p options hp options' events hrec ih =>
      rw [hrec] at ih
      intro e he
      obtain ⟨o, ho, hflip⟩ := ih e he
      exact ⟨o, List.mem_cons_of_mem _ ho, hflip⟩

/-- The loop over the slots after distinct entries: an option without an entry is as it was loaded,
and every event flips the option of one of the entries. -/
structure Flipped (H : OrderedListFlags) (vars : BootVariables) (entries : List UInt32) (s : Scan) :
    Prop where
  fresh : ∀ o ∈ s.options, ∀ n, o.optionNumber = some n → n ∉ entries.map thisOption →
    vars.boot n = some o.toEfiLoadOption
  flips : ∀ e ∈ s.events, ∃ entry ∈ entries, Flips H vars entry e

theorem flipped_scanStart {m : OrderMenu} {vars : BootVariables}
    (hm : m.bootOptions = getLoadOptions vars) : Flipped H vars [] m.scanStart where
  fresh o ho n hn _ := by
    have hload : o ∈ getLoadOptions vars := hm ▸ ho
    have hboot := getLoadOptions_boot hload
    rwa [LoadOption.number, hn, Option.getD_some] at hboot
  flips e he := absurd he List.not_mem_nil

/-- **One more entry**, of a number that has not been submitted yet. -/
theorem Flipped.accept {vars : BootVariables} {entries : List UInt32} {s : Scan}
    (h : Flipped H vars entries s) (limit : Nat) {entry : UInt32}
    (hnew : thisOption entry ∉ entries.map thisOption) :
    Flipped H vars (entries ++ [entry]) (acceptEntry H limit s entry) where
  fresh o ho n hn hnot := by
    simp only [List.map_append, List.map_singleton, List.mem_append, List.mem_singleton,
      not_or] at hnot
    have hother : o.optionNumber ≠ some (thisOption entry) := by
      rw [hn]
      exact fun heq => hnot.2 (Option.some.inj heq)
    exact h.fresh o (syncActive_others _ _ _ _ o ho hother) n hn hnot.1
  flips e he := by
    rcases List.mem_append.mp he with hold | hflip
    · obtain ⟨entry', hentry', hflips⟩ := h.flips e hold
      exact ⟨entry', List.mem_append_left _ hentry', hflips⟩
    · obtain ⟨o, ho, hn, hne, rfl⟩ := syncActive_flips _ _ _ _ e hflip
      refine ⟨entry, List.mem_append_right _ (List.mem_singleton_self entry), o.toEfiLoadOption,
        h.fresh o ho _ hn hnew, hne, rfl⟩

/-- **The loop over distinct entries.** -/
theorem Flipped.foldl {vars : BootVariables} (limit : Nat) (entries : List UInt32) :
    ∀ {accepted : List UInt32} {s : Scan}, Flipped H vars accepted s →
      ((accepted ++ entries).map thisOption).Nodup →
      Flipped H vars (accepted ++ entries) (entries.foldl (acceptEntry H limit) s) := by
  induction entries with
  | nil =>
      intro accepted s h _
      rwa [List.append_nil]
  | cons entry entries ih =>
      intro accepted s h hnodup
      rw [List.append_cons] at hnodup ⊢
      refine ih (h.accept limit ?_) hnodup
      rw [List.map_append, List.map_append] at hnodup
      have hfront := (List.nodup_append.mp hnodup).1
      exact fun hin => (List.nodup_append.mp hfront).2.2 _ hin _ List.mem_cons_self rfl

/-! ## The frame -/

/-- A log of cancelled dialogs and of flips. -/
def Harmless (H : OrderedListFlags) (vars : BootVariables) (entries : List UInt32)
    (events : List Event) : Prop :=
  ∀ e ∈ events, e.dialog? = some false ∨ ∃ entry ∈ entries, Flips H vars entry e

/-- Flips of some of the entries, and cancelled dialogs after them. -/
theorem Harmless.append {vars : BootVariables} {entries entries' : List UInt32}
    (hentries : ∀ entry ∈ entries', entry ∈ entries) {flips dialogs : List Event}
    (hflips : ∀ e ∈ flips, ∃ entry ∈ entries', Flips H vars entry e)
    (hdialogs : ∀ e ∈ dialogs, e.dialog? = some false) :
    Harmless H vars entries (flips ++ dialogs) := by
  intro e he
  rcases List.mem_append.mp he with hflip | hdialog
  · obtain ⟨entry, hentry, hflips⟩ := hflips e hflip
    exact .inr ⟨entry, hentries entry hentry, hflips⟩
  · exact .inl (hdialogs e hdialog)

/-- The variables but for ACTIVE bits that differ from the checkbox of an entry. -/
structure SameButActive (H : OrderedListFlags) (before : BootVariables) (entries : List UInt32)
    (after : BootVariables) : Prop where
  bootOrder : after.bootOrder = before.bootOrder
  bootNext : after.bootNext = before.bootNext
  msBootNext : after.msBootNext = before.msBootNext
  boot : ∀ n, after.boot n = before.boot n ∨ ∃ entry ∈ entries, thisOption entry = n ∧
    ∃ o, before.boot n = some o ∧ checked H entry ≠ o.active ∧
      after.boot n = some { o with attributes := o.attributes ^^^ loadOptionActive }

/-- **Replaying a harmless log** changes nothing else, by induction on the log. -/
theorem Harmless.replay {vars : BootVariables} {entries : List UInt32} {events : List Event}
    (h : Harmless H vars entries events) :
    SameButActive H vars entries (vars.replay events) := by
  refine List.foldlRecOn (motive := SameButActive H vars entries) events _
    ⟨rfl, rfl, rfl, fun n => .inl rfl⟩ fun v hv e he => ?_
  rcases h e he with hdialog | ⟨entry, hentry, o, ho, hne, rfl⟩
  · cases e with
    | bootDialog | deleteDialog => exact hv
    | _ => cases hdialog
  · refine ⟨hv.bootOrder, hv.bootNext, hv.msBootNext, fun n => ?_⟩
    simp only [BootVariables.apply]
    by_cases hn : n = thisOption entry
    · subst hn
      exact .inr ⟨entry, hentry, rfl, o, ho, hne, Function.update_self _ _ _⟩
    · rw [Function.update_of_ne hn]
      exact hv.boot n

variable (ui) in
/-- **Cancelling is harmless.** Submit distinct entries in any order, with any flags and any
omissions, and let every dialog that RouteConfig shows, one at least, be cancelled. Its log holds
the cancelled dialogs and rewrites of Boot#### that flip the ACTIVE bit of an option whose checkbox
differs from it; in particular no other variable is written and none is deleted. -/
theorem cancelling_is_harmless {m : OrderMenu} {vars : BootVariables}
    (hm : m = rebuildOrderList H defaults vars) {sub : Submission}
    (hdistinct : ((sub.entries m).map thisOption).Nodup)
    (hcancel : Cancelled (routeConfig H defaults ui sub m vars).events) :
    let r := routeConfig H defaults ui sub m vars
    Harmless H vars (sub.entries m) r.events ∧ SameButActive H vars (sub.entries m) r.vars := by
  intro r
  have hproc : sub.processed = true := by
    by_contra hno
    obtain ⟨e, he, -⟩ := hcancel.shown
    rw [(routeConfig_unprocessed H defaults ui m vars (Bool.eq_false_of_not_eq_true hno)).1] at he
    cases he
  have hload : m.bootOptions = getLoadOptions vars := hm ▸ rfl
  obtain ⟨hvars, hharmless⟩ :
      r.vars = vars.replay r.events ∧ Harmless H vars (sub.entries m) r.events := by
    cases hslot : bootSlot H m sub with
    | some slot =>
        obtain ⟨hvars, hevents⟩ := routeConfig_boot defaults ui vars hproc hslot
        obtain ⟨rest, hrest⟩ := sub.entriesBeforeBoot_prefix (H := H) m
        have hflipped : Flipped H vars (sub.entriesBeforeBoot H m) (scannedBeforeBoot H m sub) := by
          refine (flipped_scanStart hload).foldl m.bootOptionLimit _ ?_
          rw [← hrest, List.map_append] at hdistinct
          exact (List.nodup_append.mp hdistinct).1
        refine ⟨hvars, ?_⟩
        rw [hevents] at hcancel
        show Harmless H vars _ (routeConfig H defaults ui sub m vars).events
        rw [hevents]
        apply Harmless.append (fun entry h => hrest ▸ List.mem_append_left rest h) hflipped.flips
        exact bootEvents_cancelled (hcancel.of_append (scannedBeforeBoot_rewrites m sub))
    | none =>
        obtain ⟨hvars, -, hevents⟩ := routeConfig_commits defaults ui vars
          (fun o ho => (getLoadOptions_loaded (hload ▸ ho)).1) (noBoot_of_bootSlot hslot) hproc
        have hflipped : Flipped H vars (sub.entries m) (scanned H m sub) :=
          (flipped_scanStart hload).foldl m.bootOptionLimit _ hdistinct
        refine ⟨hvars, ?_⟩
        rw [hevents] at hcancel
        show Harmless H vars _ (routeConfig H defaults ui sub m vars).events
        rw [hevents]
        apply Harmless.append (fun entry h => h) hflipped.flips
        exact commitEvents_cancelled (hcancel.of_append (scanned_accepted H m sub).rewrites)
  refine ⟨hharmless, ?_⟩
  rw [hvars]
  exact hharmless.replay

end Cancelling

/-- The last option is moved to the front with its checkbox cleared, the disk is booted, and the
other option is left out. -/
def mixedSubmission : Submission := submitSlots [0x40000004, 0xE0000002, 0, 0, 0, 0] rfl

theorem cancelling_is_harmless_mixed :
    let m := rebuildOrderList topFlags none (threeOptions false)
    let r := routeConfig topFlags none answerCancel mixedSubmission m (threeOptions false)
    Harmless topFlags (threeOptions false) (mixedSubmission.entries m) r.events ∧
      SameButActive topFlags (threeOptions false) (mixedSubmission.entries m) r.vars := by
  have hevents : (routeConfig topFlags none answerCancel mixedSubmission
      (rebuildOrderList topFlags none (threeOptions false)) (threeOptions false)).events =
        [.loadOptionToVariable 3 ⟨0, "network", []⟩, .bootDialog "recovery" false] := by
    decide +kernel
  refine cancelling_is_harmless answerCancel rfl (by decide +kernel) ?_
  rw [hevents]
  constructor
  · exact ⟨_, List.mem_cons_of_mem _ (List.mem_singleton_self _), rfl⟩
  · simp [Event.dialog?]

end OemPkg.BootMenu
