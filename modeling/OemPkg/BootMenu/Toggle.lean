/-
# OemPkg.BootMenu.Toggle — a reorder with checkboxes, when every slot is displayed

Where each of the first options is displayed, a form that comes back with its own entries in any
order and with any checkbox bits does just what it says: `reorder_does_what_was_submitted`. The loop
over the slots looks an option up by its number, in a list that the loop itself is changing;
`Synced` is what it has done to the options after some of the entries.
-/
import OemPkg.BootMenu.Reorder

namespace OemPkg.BootMenu

open OemPkg.Lib OemPkg.Uefi

/-! ## The ACTIVE bit of an option -/

theorem xor_and_distrib (a b c : UInt32) : (a ^^^ b) &&& c = (a &&& c) ^^^ (b &&& c) := by
  apply UInt32.eq_of_toBitVec_eq
  rw [UInt32.toBitVec_and, UInt32.toBitVec_xor, UInt32.toBitVec_xor, UInt32.toBitVec_and,
    UInt32.toBitVec_and]
  ext i hi
  simp only [BitVec.getElem_and, BitVec.getElem_xor, Bool.and_xor_distrib_right]

theorem and_loadOptionActive (a : UInt32) :
    a &&& loadOptionActive = 0 ∨ a &&& loadOptionActive = loadOptionActive := by
  have hnat : (a &&& loadOptionActive).toNat = a.toNat % 2 := by
    rw [UInt32.toNat_and]
    exact Nat.and_one_is_mod _
  rcases Nat.mod_two_eq_zero_or_one a.toNat with hmod | hmod
  · exact .inl (UInt32.toNat_inj.mp (hnat.trans hmod))
  · exact .inr (UInt32.toNat_inj.mp (hnat.trans hmod))

/-- The option with its LOAD_OPTION_ACTIVE bit as `active` says. -/
def EfiLoadOption.withActive (o : EfiLoadOption) (active : Bool) : EfiLoadOption :=
  if active = o.active then o else { o with attributes := o.attributes ^^^ loadOptionActive }

namespace EfiLoadOption

variable (o : EfiLoadOption) (active : Bool)

@[simp] theorem withActive_active : (o.withActive active).active = active := by
  unfold withActive
  by_cases hsame : active = o.active
  · rw [if_pos hsame]
    exact hsame.symm
  · rw [if_neg hsame]
    have hflip : ({ o with attributes := o.attributes ^^^ loadOptionActive } : EfiLoadOption).active
        = !o.active := by
      unfold EfiLoadOption.active
      rw [xor_and_distrib]
      rcases and_loadOptionActive o.attributes with hbit | hbit <;> rw [hbit] <;> decide
    rw [hflip]
    cases active <;> cases hactive : o.active <;> simp_all

@[simp] theorem withActive_others :
    (o.withActive active).attributes &&& ~~~loadOptionActive =
      o.attributes &&& ~~~loadOptionActive := by
  unfold withActive
  by_cases hsame : active = o.active
  · rw [if_pos hsame]
  · have hmask : loadOptionActive &&& ~~~loadOptionActive = 0 := by decide
    rw [if_neg hsame]
    show (o.attributes ^^^ loadOptionActive) &&& ~~~loadOptionActive = _
    rw [xor_and_distrib, hmask, UInt32.xor_zero]

@[simp] theorem withActive_description : (o.withActive active).description = o.description := by
  unfold withActive
  split_ifs <;> rfl

@[simp] theorem withActive_rest : (o.withActive active).rest = o.rest := by
  unfold withActive
  split_ifs <;> rfl

end EfiLoadOption

/-! ## The loop, entry by entry -/

/-- What the inner loop writes. -/
def activeEvents (n : UInt16) (o : EfiLoadOption) (active : Bool) : List Event :=
  if active = o.active then [] else [.loadOptionToVariable n (o.withActive active)]

/-- **The inner loop finds the option**, by induction on the options in front of it. -/
theorem syncActive_found {n : UInt16} (active : Bool) {o : LoadOption}
    (hn : o.optionNumber = some n) (post pre : List LoadOption) :
    ∀ {limit : Nat}, (∀ p ∈ pre, p.optionNumber ≠ some n) → pre.length < limit →
      syncActive n active limit (pre ++ o :: post) =
        (pre ++ { o with toEfiLoadOption := o.withActive active } :: post,
          activeEvents n o.toEfiLoadOption active) := by
  induction pre with
  | nil =>
      intro limit _ hlimit
      obtain ⟨limit, rfl⟩ : ∃ k, limit = k + 1 := ⟨limit - 1, by simp at hlimit; omega⟩
      rw [List.nil_append, List.nil_append, syncActive, if_pos hn]
      unfold activeEvents EfiLoadOption.withActive
      by_cases hsame : active = o.active
      · simp only [if_pos hsame]
      · simp only [if_neg hsame]
  | cons p pre ih =>
      intro limit hpre hlimit
      obtain ⟨limit, rfl⟩ : ∃ k, limit = k + 1 := ⟨limit - 1, by simp at hlimit; omega⟩
      have hrest := ih (fun q hq => hpre q (List.mem_cons_of_mem p hq))
        (Nat.lt_of_succ_lt_succ hlimit)
      rw [List.cons_append, syncActive, if_neg (hpre p List.mem_cons_self), hrest]
      rfl

section Toggle

variable (H : OrderedListFlags)

/-- The checkbox of an entry. -/
def checked (entry : UInt32) : Bool := entry &&& H.checkbox != 0

/-- The option after the loop has seen `entries`. -/
def LoadOption.sync (entries : List UInt32) (o : LoadOption) : LoadOption :=
  match entries.find? fun entry => thisOption entry == o.number with
  | some entry => { o with toEfiLoadOption := o.withActive (checked H entry) }
  | none => o

/-- The loop over the slots after the entries `entries`, as far as the ACTIVE bits go. -/
structure Synced (m : OrderMenu) (entries : List UInt32) (s : Scan) : Prop where
  options : s.options = m.bootOptions.map (LoadOption.sync H entries)
  events : ∀ n after, .loadOptionToVariable n after ∈ s.events ↔
    ∃ entry ∈ entries, ∃ o ∈ m.bootOptions, thisOption entry = n ∧ o.number = n ∧
      checked H entry ≠ o.active ∧ after = o.withActive (checked H entry)

theorem synced_scanStart (m : OrderMenu) : Synced H m [] m.scanStart where
  options := (List.map_id _).symm
  events n after := by simp [OrderMenu.scanStart]

variable {H}

theorem LoadOption.sync_optionNumber (entries : List UInt32) (o : LoadOption) :
    (o.sync H entries).optionNumber = o.optionNumber := by
  unfold LoadOption.sync
  split <;> rfl

/-- An entry of another option does not matter. -/
theorem LoadOption.sync_append_ne (entries : List UInt32) {entry : UInt32} {o : LoadOption}
    (hne : thisOption entry ≠ o.number) : o.sync H (entries ++ [entry]) = o.sync H entries := by
  unfold LoadOption.sync
  rw [List.find?_append, List.find?_cons_of_neg (by simpa using hne), List.find?_nil,
    Option.or_none]

theorem find_entry_none {entries : List UInt32} {n : UInt16} (hnew : n ∉ entries.map thisOption) :
    (entries.find? fun entry => thisOption entry == n) = none := by
  rw [List.find?_eq_none]
  intro entry hentry heq
  exact hnew (List.mem_map.mpr ⟨entry, hentry, eq_of_beq heq⟩)

/-- An option without an entry is as it was. -/
theorem LoadOption.sync_of_notMem {entries : List UInt32} {o : LoadOption}
    (hnew : o.number ∉ entries.map thisOption) : o.sync H entries = o := by
  unfold LoadOption.sync
  rw [find_entry_none hnew]

/-- Its own entry sets the bit. -/
theorem LoadOption.sync_append_self {entries : List UInt32} {entry : UInt32} {o : LoadOption}
    (hnew : o.number ∉ entries.map thisOption) (hself : thisOption entry = o.number) :
    o.sync H (entries ++ [entry]) =
      { o with toEfiLoadOption := o.withActive (checked H entry) } := by
  unfold LoadOption.sync
  rw [List.find?_append, find_entry_none hnew, Option.none_or,
    List.find?_cons_of_pos (by simp [hself])]

variable {m : OrderMenu} {vars : BootVariables}

/-- An option with a slot, and the others around it, which have other numbers. -/
theorem Loaded.split_slot (h : Loaded m vars) {o : LoadOption}
    (ho : o ∈ m.bootOptions.take m.bootOptionLimit) :
    ∃ pre rest, m.bootOptions = pre ++ o :: rest ∧ pre.length < m.bootOptionLimit ∧
      (∀ p ∈ pre, o.number ≠ p.number) ∧ ∀ p ∈ rest, o.number ≠ p.number := by
  obtain ⟨pre, post, htake⟩ := List.append_of_mem ho
  have hsplit : m.bootOptions = pre ++ o :: (post ++ m.bootOptions.drop m.bootOptionLimit) := by
    have hwhole := List.take_append_drop m.bootOptionLimit m.bootOptions
    rw [htake, List.append_assoc, List.cons_append] at hwhole
    exact hwhole.symm
  have hlimit : pre.length < m.bootOptionLimit := by
    have hlength := congrArg List.length htake
    rw [List.length_take, List.length_append, List.length_cons] at hlength
    omega
  have hnodup := h.distinct
  rw [hsplit, List.map_append, List.map_cons] at hnodup
  obtain ⟨-, htail, hapart⟩ := List.nodup_append.mp hnodup
  refine ⟨pre, _, hsplit, hlimit, fun p hp heq => ?_, fun p hp heq => ?_⟩
  · exact hapart _ (List.mem_map_of_mem hp) _ List.mem_cons_self heq.symm
  · apply (List.nodup_cons.mp htail).1
    rw [heq]
    exact List.mem_map_of_mem hp

/-- **One entry of the loop**, for an option that has a slot and has not been submitted yet. -/
theorem Synced.accept (h : Loaded m vars) {entries : List UInt32} {s : Scan}
    (hs : Synced H m entries s) {entry : UInt32} (hnew : thisOption entry ∉ entries.map thisOption)
    (hslot : ∃ o ∈ m.bootOptions.take m.bootOptionLimit, o.number = thisOption entry) :
    Synced H m (entries ++ [entry]) (acceptEntry H m.bootOptionLimit s entry) := by
  obtain ⟨o, ho, hself⟩ := hslot
  have hmem := List.mem_of_mem_take ho
  have hn : o.optionNumber = some (thisOption entry) := hself ▸ h.optionNumber hmem
  obtain ⟨pre, rest, hsplit, hlimit, hpre, hrest⟩ := h.split_slot ho
  rw [hself] at hpre hrest
  have hfresh : o.number ∉ entries.map thisOption := hself ▸ hnew
  -- the inner loop stops at it
  have hfound : syncActive (thisOption entry) (checked H entry) m.bootOptionLimit s.options =
      (pre.map (LoadOption.sync H entries) ++
        { o with toEfiLoadOption := o.withActive (checked H entry) } ::
          rest.map (LoadOption.sync H entries),
        activeEvents (thisOption entry) o.toEfiLoadOption (checked H entry)) := by
    rw [hs.options, hsplit, List.map_append, List.map_cons, LoadOption.sync_of_notMem hfresh]
    apply syncActive_found (checked H entry) hn
    · intro p hp
      obtain ⟨q, hq, rfl⟩ := List.mem_map.mp hp
      have hnumber := h.optionNumber (hsplit ▸ List.mem_append_left _ hq)
      rw [LoadOption.sync_optionNumber, hnumber]
      exact fun heq => hpre q hq (Option.some.inj heq).symm
    · rwa [List.length_map]
  constructor
  · show (syncActive (thisOption entry) (checked H entry) m.bootOptionLimit s.options).1 = _
    have hkeep : ∀ l : List LoadOption, (∀ p ∈ l, thisOption entry ≠ p.number) →
        l.map (LoadOption.sync H entries) = l.map (LoadOption.sync H (entries ++ [entry])) :=
      fun l hne => List.map_congr_left fun p hp => (LoadOption.sync_append_ne _ (hne p hp)).symm
    rw [hfound, hsplit, List.map_append, List.map_cons, hkeep pre hpre, hkeep rest hrest,
      LoadOption.sync_append_self hfresh hself.symm]
  · intro n after
    show _ ∈ s.events ++
      (syncActive (thisOption entry) (checked H entry) m.bootOptionLimit s.options).2 ↔ _
    have hown : .loadOptionToVariable n after ∈ activeEvents (thisOption entry) o.toEfiLoadOption
        (checked H entry) ↔ ∃ o ∈ m.bootOptions, thisOption entry = n ∧ o.number = n ∧
          checked H entry ≠ o.active ∧ after = o.withActive (checked H entry) := by
      unfold activeEvents
      constructor
      · intro hin
        split_ifs at hin with hsame
        · cases hin
        · obtain ⟨rfl, rfl⟩ := Event.loadOptionToVariable.inj (List.mem_singleton.mp hin)
          exact ⟨o, hmem, rfl, hself, hsame, rfl⟩
      · rintro ⟨o', ho', rfl, hself', hne, rfl⟩
        obtain rfl : o' = o := List.inj_on_of_nodup_map h.distinct ho' hmem
          (hself'.trans hself.symm)
        rw [if_neg hne]
        exact List.mem_singleton_self _
    rw [hfound, List.mem_append, hs.events, hown]
    simp only [List.mem_append, List.mem_singleton, or_and_right, exists_or, exists_eq_left]

/-- **The loop over distinct options that have slots.** -/
theorem Synced.foldl (h : Loaded m vars) (entries : List UInt32) :
    ∀ {accepted : List UInt32} {s : Scan}, Synced H m accepted s →
      ((accepted ++ entries).map thisOption).Nodup →
      (∀ entry ∈ entries, ∃ o ∈ m.bootOptions.take m.bootOptionLimit,
        o.number = thisOption entry) →
      Synced H m (accepted ++ entries) (entries.foldl (acceptEntry H m.bootOptionLimit) s) := by
  induction entries with
  | nil =>
      intro accepted s hs _ _
      rwa [List.append_nil]
  | cons entry entries ih =>
      intro accepted s hs hnodup hslots
      rw [List.append_cons] at hnodup ⊢
      have hnew : thisOption entry ∉ accepted.map thisOption := by
        rw [List.map_append, List.map_append] at hnodup
        have hfront := (List.nodup_append.mp hnodup).1
        exact fun hin => (List.nodup_append.mp hfront).2.2 _ hin _ List.mem_cons_self rfl
      apply ih (hs.accept h hnew (hslots entry List.mem_cons_self)) hnodup
      exact fun entry' hentry => hslots entry' (List.mem_cons_of_mem entry hentry)

/-! ## The variables after the loop -/

/-- Replaying rewrites that all write the same to Boot#### leaves it there. -/
theorem replay_rewrites_boot {n : UInt16} {o : Option EfiLoadOption} {events : List Event}
    (hrewrites : Rewrites events)
    (hsame : ∀ after, .loadOptionToVariable n after ∈ events → o = some after) :
    ∀ {vars : BootVariables},
      (vars.boot n = o ∨ ∃ after, .loadOptionToVariable n after ∈ events) →
      (vars.replay events).boot n = o := by
  induction events with
  | nil =>
      intro vars hn
      rcases hn with hn | ⟨_, hin⟩
      · exact hn
      · cases hin
  | cons e events ih =>
      intro vars hn
      obtain ⟨k, after, rfl⟩ := hrewrites e List.mem_cons_self
      show ((vars.apply (.loadOptionToVariable k after)).replay events).boot n = o
      apply ih (fun e' he => hrewrites e' (List.mem_cons_of_mem _ he))
        (fun after' hin => hsame after' (List.mem_cons_of_mem _ hin))
      show Function.update vars.boot k (some after) n = o ∨ _
      by_cases hk : n = k
      · subst hk
        rw [Function.update_self]
        exact .inl (hsame after List.mem_cons_self).symm
      · rw [Function.update_of_ne hk]
        refine hn.imp_right fun ⟨after', hin⟩ => ⟨after', ?_⟩
        rcases List.mem_cons.mp hin with heq | hin
        · exact absurd (Event.loadOptionToVariable.inj heq).1 hk
        · exact hin

theorem getLoadOptions_boot {o : LoadOption} (ho : o ∈ getLoadOptions vars) :
    vars.boot o.number = some o.toEfiLoadOption := by
  rcases List.mem_filterMap.mp ho with ⟨n, -, hload⟩
  rcases Option.map_eq_some_iff.mp hload with ⟨var, hvar, rfl⟩
  exact hvar

section Numbers

variable {s : Scan} {entries : List UInt32} (h : Loaded m vars)
  (hnumbers : (entries.map thisOption).Perm
    ((m.bootOptions.take m.bootOptionLimit).map LoadOption.number))
  (hs : Synced H m entries s)
include h hnumbers

/-- An option that an entry names has a slot. -/
theorem slot_of_entry {o : LoadOption} (ho : o ∈ m.bootOptions) {entry : UInt32}
    (hentry : entry ∈ entries) (hn : thisOption entry = o.number) :
    o ∈ m.bootOptions.take m.bootOptionLimit := by
  obtain ⟨o', ho', hsame⟩ := List.mem_map.mp (hnumbers.mem_iff.mp (List.mem_map_of_mem hentry))
  obtain rfl : o' = o := List.inj_on_of_nodup_map h.distinct (List.mem_of_mem_take ho') ho
    (hsame.trans hn)
  exact ho'

/-- The entry of a number is the only one. -/
theorem entry_unique {entry entry' : UInt32} (hentry : entry ∈ entries)
    (hentry' : entry' ∈ entries) (hn : thisOption entry = thisOption entry') : entry = entry' := by
  have hnodup : (entries.map thisOption).Nodup := by
    rw [hnumbers.nodup_iff]
    exact h.distinct.sublist ((List.take_sublist _ _).map _)
  exact List.inj_on_of_nodup_map hnodup hentry hentry' hn

include hs

/-- Which options are written back. -/
theorem Synced.rewritten_iff (n : UInt16) : (∃ after, .loadOptionToVariable n after ∈ s.events) ↔
    ∃ o ∈ m.bootOptions.take m.bootOptionLimit, o.number = n ∧
      ∃ entry ∈ entries, thisOption entry = n ∧ checked H entry ≠ o.active := by
  simp only [hs.events]
  constructor
  · rintro ⟨-, entry, hentry, o, ho, hn, hself, hne, -⟩
    exact ⟨o, slot_of_entry h hnumbers ho hentry (hn.trans hself.symm), hself, entry, hentry, hn,
      hne⟩
  · rintro ⟨o, ho, hself, entry, hentry, hn, hne⟩
    exact ⟨_, entry, hentry, o, List.mem_of_mem_take ho, hn, hself, hne, rfl⟩

/-- **The variable of an option**: rewritten or not, it follows the checkbox. -/
theorem Synced.replay_boot (hrewrites : Rewrites s.events) {o : LoadOption}
    (ho : o ∈ m.bootOptions) {entry : UInt32} (hentry : entry ∈ entries)
    (hself : thisOption entry = o.number) :
    (vars.replay s.events).boot o.number = some (o.withActive (checked H entry)) := by
  apply replay_rewrites_boot hrewrites
  · intro after hafter
    obtain ⟨entry', hentry', o', ho', hn, hn', -, rfl⟩ := (hs.events _ _).mp hafter
    obtain rfl : o' = o := List.inj_on_of_nodup_map h.distinct ho' ho hn'
    rw [entry_unique h hnumbers hentry' hentry (hn.trans hself.symm)]
  · by_cases hsame : checked H entry = o.active
    · left
      rw [getLoadOptions_boot (h.loaded ▸ ho), EfiLoadOption.withActive, if_pos hsame]
    · right
      exact ⟨_, (hs.events _ _).mpr ⟨entry, hentry, o, ho, hself, rfl, hsame, rfl⟩⟩

end Numbers

/-- The call did what the entries say, and nothing else. -/
structure AsSubmitted (H : OrderedListFlags) (m : OrderMenu) (before : BootVariables)
    (entries : List UInt32) (r : Routed) : Prop where
  noBootDialog : ∀ description ok, .bootDialog description ok ∉ r.events
  noDeleteDialog : ∀ n description ok, .deleteDialog n description ok ∉ r.events
  written : ∀ order, .setBootOrder order ∈ r.events ↔ order = newOrder m entries
  bootOrder : r.vars.bootOrder = newOrder m entries
  /-- each option with a slot has an entry, whose checkbox its ACTIVE bit follows -/
  active : ∀ o ∈ m.bootOptions.take m.bootOptionLimit, ∃ entry ∈ entries,
    thisOption entry = o.number ∧ ∃ after, r.vars.boot o.number = some after ∧
      after.active = checked H entry ∧
      after.attributes &&& ~~~loadOptionActive = o.attributes &&& ~~~loadOptionActive ∧
      after.description = o.description ∧ after.rest = o.rest
  /-- Boot#### is written back for the options whose bit that changes -/
  rewritten : ∀ n, (∃ after, .loadOptionToVariable n after ∈ r.events) ↔
    ∃ o ∈ m.bootOptions.take m.bootOptionLimit, o.number = n ∧
      ∃ entry ∈ entries, thisOption entry = n ∧ checked H entry ≠ o.active
  others : ∀ n, (∀ after, .loadOptionToVariable n after ∉ r.events) →
    r.vars.boot n = before.boot n

/-- The log of a submission that has an entry for each option with a slot, and for no other. -/
theorem asSubmitted {r : Routed} {s : Scan} {entries : List UInt32} (h : Loaded m vars)
    (hnumbers : (entries.map thisOption).Perm
      ((m.bootOptions.take m.bootOptionLimit).map LoadOption.number))
    (hs : Synced H m entries s) (hrewrites : Rewrites s.events)
    (hvars : r.vars = vars.replay r.events)
    (hevents : r.events = s.events ++ [.setBootOrder (newOrder m entries)]) :
    AsSubmitted H m vars entries r := by
  have hload : ∀ n after, .loadOptionToVariable n after ∈ r.events ↔
      .loadOptionToVariable n after ∈ s.events := by
    intro n after
    rw [hevents]
    simp
  have hboot : ∀ n, r.vars.boot n = (vars.replay s.events).boot n := by
    intro n
    rw [hvars, hevents, replay_append]
    rfl
  have hquiet : ∀ e, (∀ n o, e ≠ .loadOptionToVariable n o) →
      (e ∈ r.events ↔ e = .setBootOrder (newOrder m entries)) := by
    intro e he
    rw [hevents, List.mem_append, or_iff_right (hrewrites.not_mem he), List.mem_singleton]
  refine ⟨?_, ?_, ?_, ?_, fun o ho => ?_, fun n => ?_, fun n hnone => ?_⟩
  · intro description ok hdialog
    cases (hquiet _ fun _ _ => by simp).mp hdialog
  · intro n description ok hdialog
    cases (hquiet _ fun _ _ => by simp).mp hdialog
  · intro order
    rw [hquiet _ fun _ _ => by simp]
    exact ⟨Event.setBootOrder.inj, congrArg Event.setBootOrder⟩
  · rw [hvars, hevents]
    exact replay_setBootOrder _ _ _
  · obtain ⟨entry, hentry, hself⟩ :=
      List.mem_map.mp (hnumbers.mem_iff.mpr (List.mem_map_of_mem ho))
    refine ⟨entry, hentry, hself, o.withActive (checked H entry), ?_, by simp, by simp, by simp,
      by simp⟩
    rw [hboot]
    exact hs.replay_boot h hnumbers hrewrites (List.mem_of_mem_take ho) hentry hself
  · simp only [hload]
    exact hs.rewritten_iff h hnumbers n
  · rw [hboot]
    exact replay_rewrites_boot hrewrites
      (fun after hafter => absurd ((hload n after).mpr hafter) (hnone after)) (.inl rfl)

variable {defaults : Option (List EfiLoadOption)} (ui : Dialogs)

/-- **A reorder does what was submitted.** Let the first options of the list, as many as there are
slots, all be displayed, and the form come back with its entries in any order, with any checkbox
bits and no BOOT flag. RouteConfig shows no dialog and writes the new order, the ACTIVE bits follow
the checkboxes, and only the options whose bit changes are written back. A submission that it does
not process changes nothing. -/
theorem reorder_does_what_was_submitted (hm : m = rebuildOrderList H defaults vars)
    (hdistinct : (m.bootOptions.map LoadOption.number).Nodup)
    (hdisplayed : ∀ o ∈ m.bootOptions.take m.bootOptionLimit, o.displayed = true)
    {sub : Submission} (hre : Reorders H m (sub.entries m)) :
    let r := routeConfig H defaults ui sub m vars
    (sub.processed = true → AsSubmitted H m vars (sub.entries m) r) ∧
      (sub.processed = false → r.events = [] ∧ r.vars = vars) := by
  intro r
  have h : Loaded m vars := ⟨hm ▸ rfl, hdistinct⟩
  refine ⟨fun hproc => ?_, routeConfig_unprocessed H defaults ui m vars⟩
  have hnumbers := hre.numbers_perm hm
  rw [List.filter_eq_self.mpr hdisplayed] at hnumbers
  have hslots : ∀ entry ∈ sub.entries m, ∃ o ∈ m.bootOptions.take m.bootOptionLimit,
      o.number = thisOption entry :=
    fun entry hin => List.mem_map.mp (hnumbers.mem_iff.mp (List.mem_map_of_mem hin))
  have hsub := hre.submitsDisplayed hm h
  have hs : Synced H m (sub.entries m) (scanned H m sub) :=
    (synced_scanStart H m).foldl h (sub.entries m) hsub.distinct hslots
  -- every slot is filled, so nothing is taken for a deletion
  have hfull : (sub.entries m).length = m.bootOptionLimit := by
    have hlength := hnumbers.length_eq
    rw [List.length_map, List.length_map, List.length_take] at hlength
    exact hlength.trans (min_eq_left (min_le_left _ _))
  obtain ⟨hvars, -, hevents⟩ := routeConfig_commits defaults ui vars
    (fun _ ho => h.optionNumber ho) hre.noBoot hproc
  rw [commitEvents, if_pos hfull, if_pos (.inl hfull), List.nil_append] at hevents
  exact asSubmitted h hnumbers hs (scanned_accepted H m sub).rewrites hvars hevents

end Toggle

/-- The last option is moved to the front and its checkbox is cleared. -/
def lastFirstCleared : Submission := submitSlots [0x40000004, 0xC0000002, 0xC0000003, 0, 0, 0] rfl

theorem reorder_does_what_was_submitted_cleared :
    AsSubmitted topFlags (rebuildOrderList topFlags none (threeOptions false)) (threeOptions false)
      (lastFirstCleared.entries (rebuildOrderList topFlags none (threeOptions false)))
      (routeConfig topFlags none answerCancel lastFirstCleared
        (rebuildOrderList topFlags none (threeOptions false)) (threeOptions false)) := by
  have hre : Reorders topFlags (rebuildOrderList topFlags none (threeOptions false))
      (lastFirstCleared.entries (rebuildOrderList topFlags none (threeOptions false))) := by
    have hentries : lastFirstCleared.entries (rebuildOrderList topFlags none
        (threeOptions false)) = [0x40000004, 0xC0000002, 0xC0000003] := by decide +kernel
    have hflags : ([0x40000004, 0xC0000002, 0xC0000003] : List UInt32).all
        (· &&& topFlags.boot == 0) = true := by decide +kernel
    rw [hentries]
    refine ⟨by decide +kernel, fun entry hentry => ?_⟩
    exact eq_of_beq (List.all_eq_true.mp hflags entry hentry)
  have hdistinct : ((rebuildOrderList topFlags none (threeOptions false)).bootOptions.map
      LoadOption.number).Nodup := by decide +kernel
  exact (reorder_does_what_was_submitted answerCancel rfl hdistinct (by decide +kernel) hre).1
    (by decide)

end OemPkg.BootMenu
