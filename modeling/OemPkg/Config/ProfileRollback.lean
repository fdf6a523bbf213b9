/-
# OemPkg.Config.ProfileRollback — ApplyProfileOverrides, index by index

ApplyProfileOverrides has two loops over the overrides of a profile: up with the unsigned index i
until an override is out of order, and then down again, from the one before it to the first, whose
turn comes after the loop so that i need not become negative. `byIndex_refines` says that the two
loops end and do what `applyProfileOverrides` does with lists; `malformed_profile_rolled_back` is
what that comes to for the caches, whatever they hold at first and wherever the profile is
malformed.
-/
import OemPkg.Lib.Loop
import OemPkg.Config.PublishedValues
import Mathlib.Data.List.Induction

namespace OemPkg.Config

open OemPkg.Lib OemPkg.Uefi

/-! ## The two loops -/

/-- PROFILE: its overrides, and OverrideCount, a UINTN. -/
structure Profile where
  overrides : List KnobOverride
  uintn : overrides.length < 18446744073709551616

/-- OverrideCount -/
def Profile.overrideCount (p : Profile) : UInt64 := UInt64.ofNat p.overrides.length

/-- ApplyProfileOverrides at work: i, the caches, and the entries of gKnobData that were used for a
copy so far. -/
structure ProfileRun where
  i : UInt64
  cache : Caches
  copies : List Nat

section Functions

variable (T : ConfigTables) (p : Profile)
  -- what lies behind the overrides
  (beyond : Nat → KnobOverride)

/-- Overrides[i] -/
def overrideAt (i : UInt64) : KnobOverride :=
  p.overrides.getD i.toNat (beyond i.toNat)

/-- CopyMem of an override's value to the cache of its knob. -/
def copyValue (o : KnobOverride) (st : ProfileRun) : ProfileRun :=
  { st with cache := writeCache T o.knob o.value st.cache, copies := st.copies ++ [o.knob] }

/-- CopyMem of a knob's default to its cache. -/
def copyDefault (o : KnobOverride) (st : ProfileRun) : ProfileRun :=
  { st with cache := writeDefault T o.knob st.cache, copies := st.copies ++ [o.knob] }

/-- A round of the first loop, which is left at an override that is out of order, or behind the last
one (`true`). -/
def applyRound (st : ProfileRun) : Round ProfileRun (Bool × ProfileRun) :=
  if st.i < p.overrideCount then
    let o := overrideAt p beyond st.i
    if knobInOrder T o.knob then .next { copyValue T o st with i := st.i + 1 }
    else .done (false, st)
  else .done (true, st)

/-- A round of the second loop. -/
def rollbackRound (st : ProfileRun) : Round ProfileRun ProfileRun :=
  if 0 < st.i then .next { copyDefault T (overrideAt p beyond st.i) st with i := st.i - 1 }
  else .done st

/-- The second loop, and the same once more for the override where it ends. -/
def rollback (st : ProfileRun) (fuel : Nat) : Option ProfileRun :=
  (loop (rollbackRound T p beyond) fuel st).map fun st =>
    copyDefault T (overrideAt p beyond st.i) st

/-- ApplyProfileOverrides, on the profile that is active. -/
def applyProfileOverridesByIndex (cache : Caches) (fuel : Nat) :
    Option (EfiStatus × ProfileRun) :=
  (loop (applyRound T p beyond) fuel ⟨0, cache, []⟩).bind fun r =>
    if r.1 then some (efiSuccess, r.2)
    else if r.2.i = 0 then some (efiInvalidParameter, r.2)
    else
      (rollback T p beyond { r.2 with i := r.2.i - 1 } fuel).map fun st => (efiInvalidParameter, st)

end Functions

/-! ## The first loop -/

section Loops

variable {T : ConfigTables} {p : Profile} {beyond : Nat → KnobOverride}

/-- The index `n`, which is that of an override or behind the last one. -/
theorem toNat_index {n : Nat} (hn : n ≤ p.overrides.length) : (UInt64.ofNat n).toNat = n :=
  UInt64.toNat_ofNat_of_lt (Nat.lt_of_le_of_lt hn p.uintn)

theorem index_lt_overrideCount {n : Nat} (hn : n ≤ p.overrides.length) :
    UInt64.ofNat n < p.overrideCount ↔ n < p.overrides.length := by
  rw [UInt64.lt_iff_toNat_lt, toNat_index hn, Profile.overrideCount, toNat_index (le_refl _)]

/-- The override with the index `n`. -/
theorem overrideAt_index {n : Nat} {o : KnobOverride} (ho : p.overrides[n]? = some o) :
    overrideAt p beyond (UInt64.ofNat n) = o := by
  have hn : n < p.overrides.length := (List.getElem?_eq_some_iff.mp ho).1
  rw [overrideAt, toNat_index hn.le, List.getD_eq_getElem?_getD, ho, Option.getD_some]

/-- The run after `overrides` have been applied to it. -/
def ProfileRun.applied (T : ConfigTables) (overrides : List KnobOverride) (cache : Caches) :
    ProfileRun :=
  ⟨UInt64.ofNat overrides.length,
    overrides.foldl (fun cache o => writeCache T o.knob o.value cache) cache,
    overrides.map (·.knob)⟩

/-- What the first loop meets at the override after `done`. -/
theorem overrideAt_done (beyond : Nat → KnobOverride) {done todo : List KnobOverride}
    {o : KnobOverride} (hp : p.overrides = done ++ o :: todo) :
    UInt64.ofNat done.length < p.overrideCount ∧
      overrideAt p beyond (UInt64.ofNat done.length) = o := by
  have hget : p.overrides[done.length]? = some o := by
    rw [hp, List.getElem?_append_right (le_refl _), Nat.sub_self]
    rfl
  have hlt : done.length < p.overrides.length := (List.getElem?_eq_some_iff.mp hget).1
  exact ⟨(index_lt_overrideCount hlt.le).mpr hlt, overrideAt_index hget⟩

theorem applyRound_inOrder {st : ProfileRun} (hlt : st.i < p.overrideCount)
    (ho : knobInOrder T (overrideAt p beyond st.i).knob = true) :
    applyRound T p beyond st =
      .next { copyValue T (overrideAt p beyond st.i) st with i := st.i + 1 } := by
  unfold applyRound
  rw [if_pos hlt]
  exact if_pos ho

theorem applyRound_outOfOrder {st : ProfileRun} (hlt : st.i < p.overrideCount)
    (ho : knobInOrder T (overrideAt p beyond st.i).knob = false) :
    applyRound T p beyond st = .done (false, st) := by
  unfold applyRound
  rw [if_pos hlt]
  exact if_neg (by simp [ho])

theorem applyRound_end {st : ProfileRun} (hend : ¬ st.i < p.overrideCount) :
    applyRound T p beyond st = .done (true, st) := if_neg hend

theorem applied_append (done : List KnobOverride) (o : KnobOverride) (cache : Caches) :
    ProfileRun.applied T (done ++ [o]) cache =
      { copyValue T o (.applied T done cache) with i := UInt64.ofNat done.length + 1 } := by
  unfold ProfileRun.applied copyValue
  simp only [List.foldl_append, List.foldl_cons, List.foldl_nil, List.map_append, List.map_cons,
    List.map_nil, List.length_append, List.length_cons, List.length_nil, UInt64.ofNat_add]
  rfl

/-- **The first loop** gets over overrides that are in order. The induction is on those it still has
to get over. -/
theorem loop_applies {mid : List KnobOverride} (hmid : ∀ o ∈ mid, knobInOrder T o.knob = true)
    {rest : List KnobOverride} (cache : Caches) {r : Bool × ProfileRun} :
    ∀ {done : List KnobOverride}, p.overrides = done ++ (mid ++ rest) →
      Returns (fun fuel => loop (applyRound T p beyond) fuel (.applied T (done ++ mid) cache)) r →
      Returns (fun fuel => loop (applyRound T p beyond) fuel (.applied T done cache)) r := by
  induction mid with
  | nil =>
      intro done _ hr
      rwa [List.append_nil] at hr
  | cons o mid ih =>
      intro done hp hr
      obtain ⟨hlt, hat⟩ := overrideAt_done beyond hp
      have hround : applyRound T p beyond (.applied T done cache) =
          .next (.applied T (done ++ [o]) cache) := by
        rw [applied_append, ← hat]
        apply applyRound_inOrder hlt
        show knobInOrder T (overrideAt p beyond (UInt64.ofNat done.length)).knob = true
        rw [hat]
        exact hmid o List.mem_cons_self
      apply loop_returns_next hround
      apply ih fun o' ho' => hmid o' (List.mem_cons_of_mem o ho')
      · rw [hp, List.append_assoc, List.singleton_append, List.cons_append]
      · rwa [List.append_assoc, List.singleton_append]

/-! ## The second loop -/

/-- The run when the overrides `os` have been rolled back, in this order. -/
def ProfileRun.rolledBack (T : ConfigTables) (os : List KnobOverride) (cache : Caches)
    (copies : List Nat) : ProfileRun :=
  ⟨0, os.foldl (fun cache o => writeDefault T o.knob cache) cache, copies ++ os.map (·.knob)⟩

theorem rollbackRound_next {st : ProfileRun} (hpos : 0 < st.i) :
    rollbackRound T p beyond st =
      .next { copyDefault T (overrideAt p beyond st.i) st with i := st.i - 1 } := if_pos hpos

/-- **The second loop** rolls back all overrides but the first, without `i` becoming negative. The
induction is on them, the last one first. -/
theorem loop_rollsBack {first : KnobOverride} {mid : List KnobOverride} :
    ∀ {rest : List KnobOverride}, p.overrides = first :: mid ++ rest →
      ∀ (cache : Caches) (copies : List Nat),
        Returns (fun fuel => loop (rollbackRound T p beyond) fuel
            ⟨UInt64.ofNat mid.length, cache, copies⟩)
          (.rolledBack T mid.reverse cache copies) := by
  induction mid using List.reverseRecOn with
  | nil =>
      intro rest hp cache copies
      have hstop : rollbackRound T p beyond ⟨0, cache, copies⟩ = .done ⟨0, cache, copies⟩ := rfl
      have hend : ProfileRun.rolledBack T [] cache copies = ⟨0, cache, copies⟩ := by
        simp [ProfileRun.rolledBack]
      rw [List.reverse_nil, hend]
      exact loop_returns_done hstop
  | append_singleton mid o ih =>
      intro rest hp cache copies
      have hp' : p.overrides = first :: mid ++ o :: rest := by simp [hp]
      obtain ⟨hlt, hat⟩ := overrideAt_done beyond hp'
      have hindex : UInt64.ofNat (mid ++ [o]).length = UInt64.ofNat mid.length + 1 := by
        rw [List.length_append, List.length_singleton, UInt64.ofNat_add]
        rfl
      have hlen : (mid ++ [o]).length < p.overrides.length := by simp [hp]
      have hpos : 0 < UInt64.ofNat (mid ++ [o]).length := by
        rw [UInt64.lt_iff_toNat_lt, toNat_index hlen.le, List.length_append, List.length_singleton]
        exact Nat.succ_pos mid.length
      have hlast : overrideAt p beyond (UInt64.ofNat (mid ++ [o]).length) = o := by
        rw [← hat, List.length_cons, List.length_append, List.length_singleton]
      have hround : rollbackRound T p beyond ⟨UInt64.ofNat (mid ++ [o]).length, cache, copies⟩ =
          .next ⟨UInt64.ofNat mid.length, writeDefault T o.knob cache, copies ++ [o.knob]⟩ := by
        rw [rollbackRound_next hpos]
        dsimp only
        rw [hlast, copyDefault, hindex, UInt64.add_sub_cancel]
      apply loop_returns_next hround
      have hcons : ProfileRun.rolledBack T (mid ++ [o]).reverse cache copies =
          .rolledBack T mid.reverse (writeDefault T o.knob cache) (copies ++ [o.knob]) := by
        simp [ProfileRun.rolledBack]
      rw [hcons]
      exact ih hp' _ _

/-- **The rollback** gets to the first override as well. -/
theorem rollback_returns (T : ConfigTables) (beyond : Nat → KnobOverride) {first : KnobOverride}
    {mid rest : List KnobOverride} (hp : p.overrides = first :: mid ++ rest) (cache : Caches)
    (copies : List Nat) :
    Returns (rollback T p beyond ⟨UInt64.ofNat mid.length, cache, copies⟩)
      (.rolledBack T (first :: mid).reverse cache copies) := by
  have hat : overrideAt p beyond 0 = first := overrideAt_index (by rw [hp]; rfl)
  have hlast : ProfileRun.rolledBack T (first :: mid).reverse cache copies =
      copyDefault T (overrideAt p beyond 0) (.rolledBack T mid.reverse cache copies) := by
    rw [hat]
    simp [ProfileRun.rolledBack, copyDefault]
  rw [hlast]
  exact (loop_rollsBack hp cache copies).map fun st => copyDefault T (overrideAt p beyond st.i) st

/-! ## Both -/

/-- What comes of the overrides `before` one that is out of order. -/
theorem byIndex_outOfOrder {before rest : List KnobOverride} {o : KnobOverride}
    (hp : p.overrides = before ++ o :: rest)
    (hbefore : ∀ o ∈ before, knobInOrder T o.knob = true) (ho : knobInOrder T o.knob = false)
    (cache : Caches) :
    Returns (applyProfileOverridesByIndex T p beyond cache) (efiInvalidParameter,
      .rolledBack T before.reverse (ProfileRun.applied T before cache).cache
        (before.map (·.knob))) := by
  obtain ⟨hlt, hat⟩ := overrideAt_done beyond hp
  have hstop : applyRound T p beyond (.applied T before cache) =
      .done (false, .applied T before cache) := by
    apply applyRound_outOfOrder hlt
    show knobInOrder T (overrideAt p beyond (UInt64.ofNat before.length)).knob = false
    rw [hat, ho]
  have hloop : Returns (fun fuel => loop (applyRound T p beyond) fuel (.applied T [] cache))
      (false, .applied T before cache) :=
    loop_applies hbefore cache hp (loop_returns_done hstop)
  refine Returns.bind hloop ?_
  dsimp only
  cases before with
  | nil => exact returns_const _
  | cons first mid =>
      have hlen : (first :: mid).length ≤ p.overrides.length := by simp [hp]
      have hne : ¬ UInt64.ofNat (first :: mid).length = 0 := fun h => by
        have hzero := congrArg UInt64.toNat h
        rw [toNat_index hlen] at hzero
        exact absurd hzero (Nat.succ_ne_zero mid.length)
      have hindex : UInt64.ofNat (first :: mid).length - 1 = UInt64.ofNat mid.length := by
        rw [List.length_cons, UInt64.ofNat_add]
        exact UInt64.add_sub_cancel _ 1
      have hback := (rollback_returns T beyond hp (ProfileRun.applied T (first :: mid) cache).cache
        ((first :: mid).map (·.knob))).map fun st => (efiInvalidParameter, st)
      have hi : (ProfileRun.applied T (first :: mid) cache).i =
          UInt64.ofNat (first :: mid).length := rfl
      simp only [Bool.false_eq_true, if_false, hi, hne, hindex]
      exact hback

/-- What comes of a profile in order. -/
theorem byIndex_inOrder (h : ∀ o ∈ p.overrides, knobInOrder T o.knob = true) (cache : Caches) :
    Returns (applyProfileOverridesByIndex T p beyond cache)
      (efiSuccess, .applied T p.overrides cache) := by
  have hp : p.overrides = [] ++ (p.overrides ++ []) := by rw [List.append_nil, List.nil_append]
  have hend : ¬ (ProfileRun.applied T p.overrides cache).i < p.overrideCount := fun hlt =>
    lt_irrefl _ ((index_lt_overrideCount (le_refl _)).mp hlt)
  have hloop : Returns (fun fuel => loop (applyRound T p beyond) fuel (.applied T [] cache))
      (true, .applied T p.overrides cache) :=
    loop_applies h cache hp (loop_returns_done (applyRound_end hend))
  exact Returns.bind hloop (returns_const _)

/-- An override is the first that is out of order, or there is none. -/
theorem overrides_split (T : ConfigTables) (overrides : List KnobOverride) :
    (∀ o ∈ overrides, knobInOrder T o.knob = true) ∨
      ∃ before o rest, overrides = before ++ o :: rest ∧
        (∀ o ∈ before, knobInOrder T o.knob = true) ∧ knobInOrder T o.knob = false := by
  induction overrides with
  | nil => exact Or.inl fun o ho => absurd ho List.not_mem_nil
  | cons o overrides ih =>
      cases ho : knobInOrder T o.knob with
      | false => exact Or.inr ⟨[], o, overrides, rfl, fun o ho => absurd ho List.not_mem_nil, ho⟩
      | true =>
          rcases ih with hall | ⟨before, bad, rest, hsplit, hbefore, hbad⟩
          · exact Or.inl (List.forall_mem_cons.mpr ⟨ho, hall⟩)
          · exact Or.inr ⟨o :: before, bad, rest, by rw [hsplit, List.cons_append],
              List.forall_mem_cons.mpr ⟨ho, hbefore⟩, hbad⟩

/-- The lists, where an override is out of order. -/
theorem applyOverrides_append {before rest : List KnobOverride} {o : KnobOverride}
    (hbefore : ∀ o ∈ before, knobInOrder T o.knob = true) (ho : knobInOrder T o.knob = false) :
    ∀ (applied : List KnobOverride) (cache : Caches),
      applyOverrides T applied (before ++ o :: rest) cache =
        (efiInvalidParameter, (before.reverse ++ applied).foldl
          (fun cache o => writeDefault T o.knob cache)
          (before.foldl (fun cache o => writeCache T o.knob o.value cache) cache)) := by
  induction before with
  | nil =>
      intro applied cache
      exact if_neg (by simp [ho])
  | cons o' before ih =>
      intro applied cache
      have ho' : knobInOrder T o'.knob = true := hbefore o' List.mem_cons_self
      have hrest := ih (fun o h => hbefore o (List.mem_cons_of_mem o' h)) (o' :: applied)
        (writeCache T o'.knob o'.value cache)
      rw [List.cons_append, applyOverrides, if_pos ho', hrest, List.reverse_cons,
        List.append_assoc, List.singleton_append, List.foldl_cons]

/-- What overrides in order write. -/
theorem foldl_writeCache (overrides : List KnobOverride) :
    ∀ cache : Caches, overrides.foldl (fun cache o => writeCache T o.knob o.value cache) cache =
      registerFile.run cache (overrides.map (·.toRegister T)) := by
  induction overrides with
  | nil => intro cache; rfl
  | cons o overrides ih =>
      intro cache
      rw [List.foldl_cons, ih, List.map_cons, Machine.run_cons, writeCache_eq_step]

/-- A knob in order is in the table. -/
theorem knob_lt_of_inOrder {k : Nat} (hk : knobInOrder T k = true) : k < T.gKnobData.length := by
  unfold knobInOrder at hk
  cases hd : T.gKnobData[k]? with
  | none => simp [hd] at hk
  | some d => exact (List.getElem?_eq_some_iff.mp hd).1

/-- **The two loops end**, with what the lists come to, and copy for knobs in the table only. -/
theorem byIndex_refines (T : ConfigTables) (p : Profile) (beyond : Nat → KnobOverride)
    (cache : Caches) :
    ∃ out, Returns (applyProfileOverridesByIndex T p beyond cache) out ∧
      (out.1, out.2.cache) = applyOverrides T [] p.overrides cache ∧
      ∀ k ∈ out.2.copies, k < T.gKnobData.length := by
  have hknobs : ∀ {os : List KnobOverride}, (∀ o ∈ os, knobInOrder T o.knob = true) →
      ∀ k ∈ os.map (·.knob), k < T.gKnobData.length := by
    intro os hos k hk
    obtain ⟨o, ho, rfl⟩ := List.mem_map.mp hk
    exact knob_lt_of_inOrder (hos o ho)
  rcases overrides_split T p.overrides with hall | ⟨before, o, rest, hp, hbefore, ho⟩
  · refine ⟨_, byIndex_inOrder hall cache, ?_, hknobs hall⟩
    rw [applyOverrides_of_inOrder hall, ← foldl_writeCache]
    rfl
  · refine ⟨_, byIndex_outOfOrder hp hbefore ho cache, ?_, ?_⟩
    · rw [hp, applyOverrides_append hbefore ho, List.append_nil]
      rfl
    · intro k hk
      have hmem : k ∈ before.map (·.knob) := by
        simpa [ProfileRun.rolledBack] using hk
      exact hknobs hbefore k hmem

/-! ## What the caches hold -/

/-- No write is to the knob `k`. -/
theorem foldl_of_unnamed {k : Nat} {write : Caches → KnobOverride → Caches}
    (hwrite : ∀ cache o, k ≠ o.knob → write cache o k = cache k) {overrides : List KnobOverride}
    (hk : k ∉ overrides.map (·.knob)) :
    ∀ cache : Caches, overrides.foldl write cache k = cache k := by
  induction overrides with
  | nil => intro cache; rfl
  | cons o overrides ih =>
      intro cache
      rw [List.map_cons, List.mem_cons, not_or] at hk
      rw [List.foldl_cons, ih hk.2]
      exact hwrite cache o hk.1

theorem lastOverride_of_mem {k : Nat} {overrides : List KnobOverride}
    (hk : k ∈ overrides.map (·.knob)) : ∃ v, lastOverride k overrides = some v := by
  induction overrides with
  | nil => exact absurd hk List.not_mem_nil
  | cons o overrides ih =>
      rw [lastOverride]
      cases hlast : lastOverride k overrides with
      | some v => exact ⟨v, rfl⟩
      | none =>
          rcases List.mem_cons.mp hk with hok | hmem
          · exact ⟨o.value, by rw [Option.none_or, if_pos hok.symm]⟩
          · obtain ⟨v, hv⟩ := ih hmem
            rw [hlast] at hv
            cases hv

/-- The first override with a knob that is out of range, or out of order, has the index `i`. -/
def FirstOutOfOrder (T : ConfigTables) (overrides : List KnobOverride) (i : Nat) : Prop :=
  (∀ o ∈ overrides.take i, knobInOrder T o.knob = true) ∧
    ∃ o, overrides[i]? = some o ∧ knobInOrder T o.knob = false

/-- A knob in order has an entry. -/
theorem knobData_of_inOrder {os : List KnobOverride}
    (hos : ∀ o ∈ os, knobInOrder T o.knob = true) {k : Nat} (hk : k ∈ os.map (·.knob)) :
    ∃ d, T.gKnobData[k]? = some d := by
  obtain ⟨o, ho, rfl⟩ := List.mem_map.mp hk
  exact ⟨_, List.getElem?_eq_getElem (knob_lt_of_inOrder (hos o ho))⟩

theorem FirstOutOfOrder.caches {i : Nat} {overrides : List KnobOverride}
    (h : FirstOutOfOrder T overrides i) (cache : Caches) :
    (applyOverrides T [] overrides cache).1 = efiInvalidParameter ∧
      ∀ k, (k ∈ (overrides.take i).map (·.knob) → ∃ d, T.gKnobData[k]? = some d ∧
          (applyOverrides T [] overrides cache).2 k = d.default) ∧
        (k ∉ (overrides.take i).map (·.knob) →
          (applyOverrides T [] overrides cache).2 k = cache k) := by
  obtain ⟨hbefore, o, hget, ho⟩ := h
  obtain ⟨hi, hoi⟩ := List.getElem?_eq_some_iff.mp hget
  have hsplit : overrides = overrides.take i ++ o :: overrides.drop (i + 1) := by
    rw [← hoi, ← List.drop_eq_getElem_cons hi, List.take_append_drop]
  have hout : applyOverrides T [] overrides cache = _ :=
    (congrArg (applyOverrides T [] · cache) hsplit).trans
      (applyOverrides_append hbefore ho [] cache)
  rw [hout]
  refine ⟨rfl, fun k => ⟨fun hk => ?_, fun hk => ?_⟩⟩
  · obtain ⟨d, hd⟩ := knobData_of_inOrder hbefore hk
    refine ⟨d, hd, foldl_writeDefault hd _ (Or.inl ?_)⟩
    simpa using hk
  · dsimp only
    rw [foldl_of_unnamed (fun cache o hne => writeDefault_of_ne hne cache),
      foldl_of_unnamed (fun cache o hne => writeCache_of_ne hne o.value cache) hk]
    simpa using hk

theorem inOrder_caches {overrides : List KnobOverride}
    (h : ∀ o ∈ overrides, knobInOrder T o.knob = true) (cache : Caches) :
    (applyOverrides T [] overrides cache).1 = efiSuccess ∧
      ∀ k, (k ∈ overrides.map (·.knob) → ∃ d v, T.gKnobData[k]? = some d ∧
          lastOverride k overrides = some v ∧
          (applyOverrides T [] overrides cache).2 k = copyMem d.valueSize v) ∧
        (k ∉ overrides.map (·.knob) → (applyOverrides T [] overrides cache).2 k = cache k) := by
  rw [applyOverrides_of_inOrder h]
  refine ⟨rfl, fun k => ⟨fun hk => ?_, fun hk => ?_⟩⟩
  · obtain ⟨d, hd⟩ := knobData_of_inOrder h hk
    obtain ⟨v, hv⟩ := lastOverride_of_mem hk
    refine ⟨d, v, hd, hv, ?_⟩
    dsimp only
    rw [registerFile_run, lastWrite_overrides hd, hv]
    rfl
  · dsimp only
    rw [← foldl_writeCache]
    exact foldl_of_unnamed (fun cache o hne => writeCache_of_ne hne o.value cache) hk cache

/-- **A malformed profile is rolled back completely.** The two loops of ApplyProfileOverrides end,
and they copy for knobs in the table only. If the first override that is malformed has the index
`i`, the caches of the knobs named before it hold their defaults, and all others what they held; if
there is none, the cache of each knob named holds the value of its last override. -/
theorem malformed_profile_rolled_back (T : ConfigTables) (p : Profile)
    (beyond : Nat → KnobOverride) (cache : Caches) :
    ∃ out, Returns (applyProfileOverridesByIndex T p beyond cache) out ∧
      (∀ k ∈ out.2.copies, k < T.gKnobData.length) ∧
      (∀ i, FirstOutOfOrder T p.overrides i →
        out.1 = efiInvalidParameter ∧
        ∀ k, (k ∈ (p.overrides.take i).map (·.knob) →
            ∃ d, T.gKnobData[k]? = some d ∧ out.2.cache k = d.default) ∧
          (k ∉ (p.overrides.take i).map (·.knob) → out.2.cache k = cache k)) ∧
      ((¬ ∃ i, FirstOutOfOrder T p.overrides i) →
        out.1 = efiSuccess ∧
        ∀ k, (k ∈ p.overrides.map (·.knob) →
            ∃ d v, T.gKnobData[k]? = some d ∧ lastOverride k p.overrides = some v ∧
              out.2.cache k = copyMem d.valueSize v) ∧
          (k ∉ p.overrides.map (·.knob) → out.2.cache k = cache k)) := by
  obtain ⟨out, hreturns, hlists, hcopies⟩ := byIndex_refines T p beyond cache
  have hstatus : out.1 = (applyOverrides T [] p.overrides cache).1 := congrArg Prod.fst hlists
  have hcache : out.2.cache = (applyOverrides T [] p.overrides cache).2 := congrArg Prod.snd hlists
  refine ⟨out, hreturns, hcopies, fun i hi => ?_, fun hnone => ?_⟩
  · rw [hstatus, hcache]
    exact hi.caches cache
  · rw [hstatus, hcache]
    apply inOrder_caches
    rcases overrides_split T p.overrides with hall | ⟨before, o, rest, hp, hbefore, ho⟩
    · exact hall
    · refine absurd ⟨before.length, ?_, o, ?_, ho⟩ hnone
      · rwa [hp, List.take_left]
      · rw [hp, List.getElem?_append_right (le_refl _), Nat.sub_self]
        rfl

end Loops

/-- A profile that overrides the second knob twice and the first one once, and then a knob that is not
in the table. -/
def repeatedThenUnknown : Profile where
  overrides := [⟨1, fun _ => 5⟩, ⟨0, fun _ => 3⟩, ⟨1, fun _ => 7⟩, ⟨9, fun _ => 1⟩]
  uintn := by decide

/-- Both knobs of the table are at their defaults afterwards, and the cache behind them is untouched.
-/
theorem malformed_profile_rolled_back_repeated :
    ∃ out, Returns (applyProfileOverridesByIndex twoKnobs repeatedThenUnknown
        (fun _ => ⟨0, fun _ => 0⟩) (fun _ => [0])) out ∧
      out.1 = efiInvalidParameter ∧ out.2.cache 0 = [1] ∧ out.2.cache 1 = [2] ∧
      out.2.cache 2 = [0] := by
  obtain ⟨out, hreturns, -, hmalformed, -⟩ := malformed_profile_rolled_back twoKnobs
    repeatedThenUnknown (fun _ => ⟨0, fun _ => 0⟩) (fun _ => [0])
  have hfirst : FirstOutOfOrder twoKnobs repeatedThenUnknown.overrides 3 :=
    ⟨by decide, ⟨9, fun _ => 1⟩, rfl, by decide⟩
  obtain ⟨hstatus, hcaches⟩ := hmalformed 3 hfirst
  obtain ⟨d, hd, hzero⟩ := (hcaches 0).1 (by decide)
  obtain ⟨d', hd', hone⟩ := (hcaches 1).1 (by decide)
  cases hd
  cases hd'
  exact ⟨out, hreturns, hstatus, hzero, hone, (hcaches 2).2 (by decide)⟩

end OemPkg.Config
