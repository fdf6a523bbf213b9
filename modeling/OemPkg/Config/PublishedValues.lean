/-
# OemPkg.Config.PublishedValues — three layers of values, merged in place

What the policy says about a knob should be read off three layers: the stored value, over the last
override in the profile that the metadata names, over the default. The program has no layers, only
caches that two loops overwrite, with a rollback in the first. This module shows that the caches
hold the layers (`selectProfile_layers`), that the second loop makes one entry of each, and that the
policy is these entries converted one after the other (`populate_serialized`). Together that is
`published_values_agree`.
-/
import OemPkg.Lib.Machine
import OemPkg.Config.PolicyCreator

namespace OemPkg.Config

open OemPkg.Lib OemPkg.Uefi

variable {T : ConfigTables} {sv : ConfigServices}

/-! ## The layers -/

/-- The last override of knob `k` in a list of overrides. -/
def lastOverride (k : Nat) : List KnobOverride → Option Memory
  | [] => none
  | o :: os => (lastOverride k os).or (if o.knob = k then some o.value else none)

/-- The default of a knob. -/
def KnobData.default (d : KnobData) : Bytes := copyMem d.valueSize d.defaultValue

/-- The value of knob `k` in a profile: its last override there, or its default. -/
def profileValue (overrides : List KnobOverride) (k : Nat) (d : KnobData) : Bytes :=
  ((lastOverride k overrides).map (copyMem d.valueSize)).getD d.default

/-- The value of knob `k` under a reported profile index. -/
def layeredValue (T : ConfigTables) (index : UInt32) (k : Nat) (d : KnobData) : Bytes :=
  if index = T.genericProfileIndex then d.default
  else profileValue (T.gProfileData.getD index.toNat []) k d

/-- Every cache holds its knob's default. -/
def AtDefaults (T : ConfigTables) (cache : Caches) : Prop :=
  ∀ k d, T.gKnobData[k]? = some d → cache k = d.default

/-! ## The profile loop -/

theorem writeCache_of_mem {k : Nat} {d : KnobData} (h : T.gKnobData[k]? = some d) (source : Memory)
    (cache : Caches) :
    writeCache T k source cache = Function.update cache k (copyMem d.valueSize source) := by
  unfold writeCache
  rw [h]

theorem writeDefault_of_mem {k : Nat} {d : KnobData} (h : T.gKnobData[k]? = some d)
    (cache : Caches) : writeDefault T k cache = Function.update cache k d.default := by
  unfold writeDefault
  rw [h]
  exact writeCache_of_mem h d.defaultValue cache

/-- A write changes no other cache. -/
theorem writeCache_of_ne {k knob : Nat} (hk : k ≠ knob) (source : Memory) (cache : Caches) :
    writeCache T knob source cache k = cache k := by
  unfold writeCache
  cases T.gKnobData[knob]? with
  | none => rfl
  | some d => exact Function.update_of_ne hk _ _

theorem writeDefault_of_ne {k knob : Nat} (hk : k ≠ knob) (cache : Caches) :
    writeDefault T knob cache k = cache k := by
  unfold writeDefault
  cases T.gKnobData[knob]? with
  | none => rfl
  | some d => exact writeCache_of_ne hk _ _

/-- The write an override stands for. -/
def KnobOverride.toRegister (T : ConfigTables) (o : KnobOverride) : RegisterRequest Nat Bytes :=
  match T.gKnobData[o.knob]? with
  | some d => .write o.knob (copyMem d.valueSize o.value)
  | none => .idle

theorem writeCache_eq_step (o : KnobOverride) (cache : Caches) :
    writeCache T o.knob o.value cache = (registerFile.step cache (o.toRegister T)).1 := by
  unfold writeCache KnobOverride.toRegister
  cases T.gKnobData[o.knob]? <;> rfl

/-- **Overrides in order are writes to a register file**, the caches being the registers. -/
theorem applyOverrides_of_inOrder {rest : List KnobOverride}
    (h : ∀ o ∈ rest, knobInOrder T o.knob = true) :
    ∀ (applied : List KnobOverride) (cache : Caches),
      applyOverrides T applied rest cache =
        (efiSuccess, registerFile.run cache (rest.map (·.toRegister T))) := by
  induction rest with
  | nil => intro applied cache; rfl
  | cons o rest ih =>
      intro applied cache
      have ho := h o List.mem_cons_self
      have hrest := ih fun o' ho' => h o' (List.mem_cons_of_mem _ ho')
      rw [applyOverrides, if_pos ho, hrest, List.map_cons, Machine.run_cons, writeCache_eq_step]

/-- The last write to a knob is its last override. -/
theorem lastWrite_overrides {k : Nat} {d : KnobData} (hk : T.gKnobData[k]? = some d)
    (overrides : List KnobOverride) :
    lastWrite k (overrides.map (·.toRegister T)) =
      (lastOverride k overrides).map (copyMem d.valueSize) := by
  induction overrides with
  | nil => rfl
  | cons o os ih =>
      rw [List.map_cons, lastOverride]
      by_cases hok : o.knob = k
      · have hreg : o.toRegister T = .write k (copyMem d.valueSize o.value) := by
          rw [KnobOverride.toRegister, hok, hk]
        rw [hreg, lastWrite, ih]
        cases lastOverride k os <;> simp [hok]
      · have hskip : lastWrite k (o.toRegister T :: os.map (·.toRegister T)) =
            lastWrite k (os.map (·.toRegister T)) := by
          unfold KnobOverride.toRegister
          cases T.gKnobData[o.knob]? with
          | none => rfl
          | some d' => simp [lastWrite, hok]
        rw [hskip, ih]
        simp [hok]

/-- Writing back the defaults of some knobs restores them, and the others if they were at theirs. -/
theorem foldl_writeDefault {k : Nat} {d : KnobData} (hk : T.gKnobData[k]? = some d)
    (applied : List KnobOverride) :
    ∀ {cache : Caches}, (k ∈ applied.map (·.knob) ∨ cache k = d.default) →
      applied.foldl (fun cache o => writeDefault T o.knob cache) cache k = d.default := by
  induction applied with
  | nil => intro cache h; simpa using h
  | cons o os ih =>
      intro cache h
      rw [List.foldl_cons]
      apply ih
      by_cases hok : o.knob = k
      · right
        rw [hok, writeDefault_of_mem hk, Function.update_self]
      · rw [writeDefault_of_ne (Ne.symm hok)]
        rcases h with h | h
        · rw [List.map_cons, List.mem_cons] at h
          exact Or.inl (h.resolve_left fun e => hok e.symm)
        · exact Or.inr h

/-- **The rollback.** When an override is out of order, every cache ends at its default: the
invariant is that a cache not among those already written still is. -/
theorem applyOverrides_of_outOfOrder {rest : List KnobOverride}
    (h : ¬ ∀ o ∈ rest, knobInOrder T o.knob = true) :
    ∀ {applied : List KnobOverride} {cache : Caches},
      (∀ k d, T.gKnobData[k]? = some d → k ∈ applied.map (·.knob) ∨ cache k = d.default) →
      (applyOverrides T applied rest cache).1 = efiInvalidParameter ∧
        AtDefaults T (applyOverrides T applied rest cache).2 := by
  induction rest with
  | nil => exact absurd (fun o ho => nomatch ho) h
  | cons o rest ih =>
      intro applied cache hinv
      cases ho : knobInOrder T o.knob with
      | false =>
          simp only [applyOverrides, ho, Bool.false_eq_true, if_false, true_and]
          exact fun k d hk => foldl_writeDefault hk applied (hinv k d hk)
      | true =>
          have hrest : ¬ ∀ o' ∈ rest, knobInOrder T o'.knob = true := fun hall =>
            h fun o' ho' => (List.mem_cons.mp ho').elim (fun e => e ▸ ho) (hall o')
          simp only [applyOverrides, ho, if_true]
          apply ih hrest
          intro k d hk
          rw [List.map_cons, List.mem_cons]
          by_cases hok : k = o.knob
          · exact Or.inl (Or.inl hok)
          · rcases hinv k d hk with hmem | hdef
            · exact Or.inl (Or.inr hmem)
            · exact Or.inr ((writeCache_of_ne hok _ _).trans hdef)

/-- **ApplyProfileOverrides** applies the whole profile, or leaves the defaults. -/
theorem applyProfileOverrides_cases {cache : Caches} (hcache : AtDefaults T cache) (index : Nat) :
    ((applyProfileOverrides T index cache).1 = efiSuccess ∧
      ∀ k d, T.gKnobData[k]? = some d → (applyProfileOverrides T index cache).2 k =
        profileValue (T.gProfileData.getD index []) k d) ∨
    ((applyProfileOverrides T index cache).1 = efiInvalidParameter ∧
      AtDefaults T (applyProfileOverrides T index cache).2) := by
  unfold applyProfileOverrides
  by_cases h : ∀ o ∈ T.gProfileData.getD index [], knobInOrder T o.knob = true
  · left
    rw [applyOverrides_of_inOrder h]
    refine ⟨rfl, fun k d hk => ?_⟩
    show registerFile.run cache _ k = profileValue (T.gProfileData.getD index []) k d
    rw [registerFile_run, lastWrite_overrides hk, hcache k d hk, profileValue]
  · exact Or.inr (applyOverrides_of_outOfOrder h fun k d hk => Or.inr (hcache k d hk))

/-- **The caches hold the layers of the profile that is reported.** -/
theorem selectProfile_layers {cache : Caches} (hcache : AtDefaults T cache) {k : Nat} {d : KnobData}
    (hk : T.gKnobData[k]? = some d) :
    (selectProfile T sv cache).1 k = layeredValue T (selectProfile T sv cache).2 k d := by
  have hgeneric : ∀ {c : Caches}, AtDefaults T c →
      c k = layeredValue T T.genericProfileIndex k d := fun hc => by
    rw [layeredValue, if_pos rfl, hc k d hk]
  unfold selectProfile
  generalize requestedProfile T sv = index
  dsimp only
  by_cases hlisted : index.toNat < T.gProfileData.length
  · have hne : index ≠ T.genericProfileIndex := by
      rintro rfl
      have := T.generic_not_listed
      omega
    rw [if_pos hlisted]
    rcases applyProfileOverrides_cases hcache index.toNat with ⟨hok, hval⟩ | ⟨hbad, hdef⟩
    · simp only [hok, efiError_success, Bool.false_eq_true, if_false]
      rw [hval k d hk, layeredValue, if_neg hne]
    · simp only [hbad, efiError_invalidParameter, if_true]
      exact hgeneric hdef
  · rw [if_neg hlisted]
    exact hgeneric hcache

/-! ## The loop over the knobs -/

/-- A stored value of the right size is one the knob's validator accepts. -/
def StoredAccepted (sv : ConfigServices) (i : Nat) (d : KnobData) : Prop :=
  ∀ name, (sv.getConfigKnobOverride i name).1 = efiSuccess → ∀ accepts, d.validator = some accepts →
    accepts (copyMem d.valueSize (sv.getConfigKnobOverride i name).2) = true

/-- The value an entry publishes for knob `i`, given what the cache holds before its round. -/
def publishedValue (sv : ConfigServices) (i : Nat) (d : KnobData) (name : List UInt16)
    (cached : Bytes) : Bytes :=
  if (sv.getConfigKnobOverride i name).1 = efiSuccess then
    copyMem d.valueSize (sv.getConfigKnobOverride i name).2
  else cached

/-- Reading a stored value that is accepted changes that knob's cache only, to what is published. -/
theorem readStored_of_accepted {i : Nat} {d : KnobData} (haccept : StoredAccepted sv i d)
    (name : List UInt16) (cache : Caches) :
    readStored i d (sv.getConfigKnobOverride i name) cache =
      Function.update cache i (publishedValue sv i d name (cache i)) := by
  unfold readStored publishedValue
  by_cases hstored : (sv.getConfigKnobOverride i name).1 = efiSuccess
  · have hno : ¬ (d.validator.any fun accepts =>
        !accepts (copyMem d.valueSize (sv.getConfigKnobOverride i name).2)) = true := by
      cases hv : d.validator with
      | none => simp
      | some accepts => simp [haccept name hstored accepts hv]
    simp only [hstored, if_true, Function.update_self, true_and, if_neg hno]
  · simp only [hstored, if_false, false_and, Function.update_eq_self]

theorem readStored_of_ne {i k : Nat} (hk : k ≠ i) (d : KnobData) (got : EfiStatus × Memory)
    (cache : Caches) : readStored i d got cache k = cache k := by
  unfold readStored
  split_ifs <;> simp only [Function.update_of_ne hk]

/-- What a knob's own cache becomes depends on that cache only. -/
theorem readStored_self_congr {i : Nat} (d : KnobData) (got : EfiStatus × Memory)
    {cache cache' : Caches} (h : cache i = cache' i) :
    readStored i d got cache i = readStored i d got cache' i := by
  unfold readStored
  by_cases hstored : got.1 = efiSuccess
  · simp only [hstored, if_true, Function.update_self, true_and]
    split_ifs <;> simp only [Function.update_self]
  · simp only [hstored, if_false, false_and, h]

/-- The name the knobs `ds` leave in the local buffer: a knob whose name does not fit leaves the
name before it. -/
def lookupName (ds : List KnobData) (unicodeName : List UInt16) : List UInt16 :=
  ds.foldl (fun name d => asciiStrToUnicodeStrS d.name name d.nameSize) unicodeName

/-- The entry of knob `i`, looked up under `name`. -/
def knobEntry (sv : ConfigServices) (i : Nat) (d : KnobData) (name : List UInt16)
    (cache : Caches) : ConfigVarListEntry :=
  ⟨name, d.vendorNamespace, variableAttributeNvBsRt,
    readStored i d (sv.getConfigKnobOverride i name) cache i, UInt32.ofNat d.valueSize⟩

/-- **One round**: one entry more, the name buffer follows, and no other cache changes. -/
theorem populateKnob_spec {needed i : Nat} {d : KnobData} {st st' : Populating}
    (h : populateKnob sv needed i d st = .ok st') :
    st'.unicodeName = asciiStrToUnicodeStrS d.name st.unicodeName d.nameSize ∧
      st'.entries = st.entries ++ [knobEntry sv i d st'.unicodeName st.cache] ∧
      ∀ k, k ≠ i → st'.cache k = st.cache k := by
  unfold populateKnob at h
  dsimp only at h
  split_ifs at h
  cases h
  exact ⟨rfl, rfl, fun k hk => readStored_of_ne hk d _ st.cache⟩

/-- **The whole loop**, by induction on the knobs still to come: knob `i + j` has its entry at place
`j`, made from what its cache held at the start. -/
theorem populate_spec {needed : Nat} (ds : List KnobData) :
    ∀ {i : Nat} {st st' : Populating}, populate sv needed i ds st = .ok st' →
      ∃ es, st'.entries = st.entries ++ es ∧ es.length = ds.length ∧
        ∀ j d, ds[j]? = some d → es[j]? = some (knobEntry sv (i + j) d
          (lookupName (ds.take (j + 1)) st.unicodeName) st.cache) := by
  induction ds with
  | nil =>
      intro i st st' h
      cases h
      exact ⟨[], by simp, rfl, fun j d hj => by simp at hj⟩
  | cons d ds ih =>
      intro i st st' h
      unfold populate at h
      cases hstep : populateKnob sv needed i d st with
      | error status =>
          rw [hstep] at h
          cases h
      | ok st₁ =>
          rw [hstep] at h
          obtain ⟨hname, hentries, hothers⟩ := populateKnob_spec hstep
          rcases ih h with ⟨es, hes, hlen, hall⟩
          refine ⟨knobEntry sv i d st₁.unicodeName st.cache :: es, ?_, ?_, ?_⟩
          · show st'.entries = st.entries ++ knobEntry sv i d st₁.unicodeName st.cache :: es
            rw [hes, hentries, List.append_assoc, List.singleton_append]
          · rw [List.length_cons, hlen, List.length_cons]
          · intro j d' hj
            cases j with
            | zero =>
                rw [List.getElem?_cons_zero, Option.some.injEq] at hj
                subst hj
                rw [List.getElem?_cons_zero, hname]
                rfl
            | succ j =>
                rw [List.getElem?_cons_succ] at hj
                have hij : i + 1 + j = i + (j + 1) := by omega
                have hcache : st₁.cache (i + (j + 1)) = st.cache (i + (j + 1)) :=
                  hothers _ (by omega)
                rw [List.getElem?_cons_succ, hall j d' hj, hij, List.take_succ_cons, hname]
                unfold knobEntry
                rw [readStored_self_congr d' _ hcache]
                rfl

/-! ## The bytes -/

/-- **The policy made of some entries**: what ConvertVariableEntryToVariableList writes for them, one
after the other from `offset` on, each with what is then left of `needed` bytes as its room. There is
none if it fails for one of them. -/
def serialized (sv : ConfigServices) (needed : Nat) :
    (offset : Nat) → List ConfigVarListEntry → Option Bytes
  | _, [] => some []
  | offset, e :: es =>
      let list := sv.convertVariableEntryToVariableList e ((2 ^ 64 + needed - offset) % 2 ^ 64)
      if efiError list.1 then none
      else (serialized sv needed ((offset + list.2.length) % 2 ^ 32) es).map (list.2 ++ ·)

/-- One round appends what the conversion of its entry writes. -/
theorem populateKnob_policy {needed i : Nat} {d : KnobData} {st st' : Populating}
    (h : populateKnob sv needed i d st = .ok st') :
    let list := sv.convertVariableEntryToVariableList (knobEntry sv i d st'.unicodeName st.cache)
      ((2 ^ 64 + needed - st.offset) % 2 ^ 64)
    efiError list.1 = false ∧ st'.policy = st.policy ++ list.2 := by
  unfold populateKnob at h
  dsimp only at h
  split_ifs at h with hfail hconv
  cases h
  exact ⟨Bool.eq_false_of_not_eq_true hconv, rfl⟩

/-- **The loop appends its entries, converted**, by induction on the knobs still to come. -/
theorem populate_serialized {needed : Nat} (ds : List KnobData) :
    ∀ {i : Nat} {st st' : Populating}, populate sv needed i ds st = .ok st' →
      ∃ es bytes, st'.entries = st.entries ++ es ∧
        serialized sv needed st.offset es = some bytes ∧ st'.policy = st.policy ++ bytes := by
  induction ds with
  | nil =>
      intro i st st' h
      cases h
      exact ⟨[], [], (List.append_nil _).symm, rfl, (List.append_nil _).symm⟩
  | cons d ds ih =>
      intro i st st' h
      unfold populate at h
      cases hstep : populateKnob sv needed i d st with
      | error status =>
          rw [hstep] at h
          cases h
      | ok st₁ =>
          rw [hstep] at h
          obtain ⟨-, hentries, -⟩ := populateKnob_spec hstep
          obtain ⟨hconverted, hpolicy⟩ := populateKnob_policy hstep
          obtain ⟨es, bytes, hes, hbytes, hrest⟩ := ih h
          generalize hlist : sv.convertVariableEntryToVariableList
            (knobEntry sv i d st₁.unicodeName st.cache) ((2 ^ 64 + needed - st.offset) % 2 ^ 64) =
              list at hconverted hpolicy
          -- the next entry starts where this one ends
          have hoffset : st₁.offset = (st.offset + list.2.length) % 2 ^ 32 := by
            unfold Populating.offset
            rw [hpolicy, List.length_append, Nat.mod_add_mod]
          refine ⟨knobEntry sv i d st₁.unicodeName st.cache :: es, list.2 ++ bytes, ?_, ?_, ?_⟩
          · rw [hes, hentries, List.append_assoc, List.singleton_append]
          · rw [serialized, hlist, if_neg (ne_true_of_eq_false hconverted), ← hoffset, hbytes,
              Option.map_some]
          · rw [hrest, hpolicy, List.append_assoc]

/-! ## What is published -/

/-- A name that fits is the knob's own. -/
theorem lookupName_of_fits {ds : List KnobData} {k : Nat} {d : KnobData} (hk : ds[k]? = some d)
    (hfits : d.name.length < d.nameSize) (unicodeName : List UInt16) :
    lookupName (ds.take (k + 1)) unicodeName = d.name.map fun c => UInt16.ofNat c.toNat := by
  obtain ⟨hlt, hd⟩ := List.getElem?_eq_some_iff.mp hk
  unfold lookupName
  rw [List.take_succ_eq_append_getElem hlt, hd, List.foldl_append]
  exact if_pos hfits

/-- The loop fails with an error only. -/
theorem populate_error {needed : Nat} (ds : List KnobData) :
    ∀ {i : Nat} {st : Populating} {status : EfiStatus},
      populate sv needed i ds st = .error status → efiError status = true := by
  induction ds with
  | nil => intro i st status h; cases h
  | cons d ds ih =>
      intro i st status h
      unfold populate at h
      cases hstep : populateKnob sv needed i d st with
      | ok st₁ =>
          rw [hstep] at h
          exact ih h
      | error status' =>
          rw [hstep] at h
          cases h
          unfold populateKnob at hstep
          dsimp only at hstep
          split_ifs at hstep with hfail hconv
          · cases hstep
            exact hfail.1
          · cases hstep
            exact hconv

/-- What a successful CreateConfPolicy has done: the loop over the knobs ran to its end, from the
caches and under the index of the profile selected. -/
theorem createConfPolicy_succeeds {cache : Caches} {unicodeName : List UInt16}
    (hok : (createConfPolicy T sv cache unicodeName).status = efiSuccess) :
    ∃ needed st profileName,
      neededSize sv T.gKnobData 0 = some needed ∧
      populate sv needed 0 T.gKnobData ⟨(selectProfile T sv cache).1, unicodeName, [], []⟩ =
        .ok st ∧ st.offset = needed ∧
      (createConfPolicy T sv cache unicodeName).policy = some (st.policy, st.entries) ∧
      (createConfPolicy T sv cache unicodeName).metadata =
        some ⟨(selectProfile T sv cache).2, profileName⟩ := by
  have hexit : ∀ {status : EfiStatus} {allocated : Bool}, efiError status = true →
      (createPolicyExit status allocated).status ≠ efiSuccess := fun herr =>
    ne_success_of_error herr
  unfold createConfPolicy at hok ⊢
  cases hneeded : neededSize sv T.gKnobData 0 with
  | none =>
      rw [hneeded] at hok
      exact absurd hok (hexit efiError_unsupported)
  | some needed =>
      rw [hneeded] at hok
      dsimp only at hok ⊢
      cases hpop : populate sv needed 0 T.gKnobData
          ⟨(selectProfile T sv cache).1, unicodeName, [], []⟩ with
      | error status =>
          rw [hpop] at hok
          dsimp only at hok
          split_ifs at hok
          · exact absurd hok (hexit efiError_unsupported)
          · exact absurd hok (hexit efiError_outOfResources)
          · exact absurd hok (hexit (populate_error _ hpop))
      | ok st =>
          rw [hpop] at hok
          dsimp only at hok ⊢
          split_ifs at hok ⊢ with hsize halloc hoffset hgeneric hname hmeta hname hmeta
          all_goals first
            | exact absurd hok (hexit (by simp))
            | exact absurd hok (hexit hmeta)
            | exact ⟨needed, st, _, rfl, hpop, not_not.mp hoffset, rfl, rfl⟩

/-- **The published configuration agrees with the profile the metadata names.** Start with the
caches at their defaults, and let every stored value of the right size be one its validator accepts.
When CreateConfPolicy succeeds, the policy is the bytes of one entry for each knob, in order, and
nothing else. The entry has the knob's namespace and the name the knob was looked up under, and its
value is the stored one if there is one, else the knob's value under the index the metadata
reports. -/
theorem published_values_agree (T : ConfigTables) (sv : ConfigServices) {cache : Caches}
    (hcache : AtDefaults T cache)
    (haccept : ∀ k d, T.gKnobData[k]? = some d → StoredAccepted sv k d) (unicodeName : List UInt16)
    (hok : (createConfPolicy T sv cache unicodeName).status = efiSuccess) :
    ∃ needed policy entries metadata,
      neededSize sv T.gKnobData 0 = some needed ∧
      (createConfPolicy T sv cache unicodeName).policy = some (policy, entries) ∧
      (createConfPolicy T sv cache unicodeName).metadata = some metadata ∧
      serialized sv needed 0 entries = some policy ∧ policy.length % 2 ^ 32 = needed ∧
      entries.length = T.gKnobData.length ∧
      ∀ k d, T.gKnobData[k]? = some d →
        let name := lookupName (T.gKnobData.take (k + 1)) unicodeName
        (d.name.length < d.nameSize → name = d.name.map fun c => UInt16.ofNat c.toNat) ∧
        entries[k]? = some ⟨name, d.vendorNamespace, variableAttributeNvBsRt,
          publishedValue sv k d name (layeredValue T metadata.activeProfileIndex k d),
          UInt32.ofNat d.valueSize⟩ := by
  rcases createConfPolicy_succeeds hok with
    ⟨needed, st, profileName, hneeded, hpop, hend, hpolicy, hmeta⟩
  obtain ⟨es, hes, hlen, hall⟩ := populate_spec T.gKnobData hpop
  obtain ⟨es', bytes, hes', hbytes, hwritten⟩ := populate_serialized T.gKnobData hpop
  rw [List.nil_append] at hes hes' hwritten
  obtain rfl : es' = es := hes'.symm.trans hes
  have hstored : serialized sv needed 0 es' = some st.policy := by
    rw [hwritten]
    exact hbytes
  refine ⟨needed, st.policy, es', _, hneeded, by rw [hpolicy, hes], hmeta, hstored, hend, hlen,
    fun k d hk => ⟨fun hfits => lookupName_of_fits hk hfits unicodeName, ?_⟩⟩
  -- what the caches hold after the first loop are the layers
  have hvalue : (knobEntry sv k d (lookupName (T.gKnobData.take (k + 1)) unicodeName)
      (selectProfile T sv cache).1).data =
        publishedValue sv k d (lookupName (T.gKnobData.take (k + 1)) unicodeName)
          (layeredValue T (selectProfile T sv cache).2 k d) := by
    show readStored k d _ (selectProfile T sv cache).1 k = _
    rw [← selectProfile_layers hcache hk, readStored_of_accepted (haccept k d hk),
      Function.update_self]
  have hentry := hall k d hk
  rw [Nat.zero_add] at hentry
  rw [hentry, ← hvalue]
  rfl

/-! ## One serialiser -/

/-- CRC-32 -/
def crc32 (b : Bytes) : BitVec 32 :=
  ~~~ b.foldl (fun crc x =>
    (List.range 8).foldl (fun crc _ =>
      if crc.getLsbD 0 then (crc >>> 1) ^^^ 0xEDB88320#32 else crc >>> 1)
      (crc ^^^ BitVec.ofNat 32 x.toNat)) 0xFFFFFFFF#32

/-- The bytes of a name. -/
def nameBytes (name : List UInt16) : Bytes := name.flatMap fun c => leBytes 2 c.toNat

theorem length_nameBytes (name : List UInt16) : (nameBytes name).length = 2 * name.length := by
  induction name with
  | nil => rfl
  | cons c name ih =>
      rw [nameBytes, List.flatMap_cons, List.length_append, length_leBytes, List.length_cons]
      show 2 + (nameBytes name).length = 2 * (name.length + 1)
      omega

/-- An entry: its sizes, the name with its terminator, the namespace, the attributes and the data.
-/
def entryFields (e : ConfigVarListEntry) : Bytes :=
  leBytes 4 (2 * (e.name.length + 1)) ++ leBytes 4 e.dataSize.toNat ++
    nameBytes (e.name ++ [0]) ++ e.guid.1 ++ leBytes 4 e.attributes.toNat ++
    copyMem e.dataSize.toNat (fun i => e.data.getD i 0)

/-- Its bytes: a checksum follows. -/
def entryBytes (e : ConfigVarListEntry) : Bytes :=
  entryFields e ++ leBytes 4 (crc32 (entryFields e)).toNat

theorem length_entryBytes (e : ConfigVarListEntry) :
    (entryBytes e).length = 32 + 2 * (e.name.length + 1) + e.dataSize.toNat := by
  simp only [entryBytes, entryFields, List.length_append, length_leBytes, length_nameBytes,
    List.length_singleton, e.guid.2, copyMem, List.length_map, List.length_range]
  omega

/-- Two knobs of one byte, and a profile that overrides the second one twice. -/
def twoKnobs : ConfigTables where
  gKnobData := [⟨0, [65], 2, ⟨List.replicate 16 0, rfl⟩, fun _ => 1, 1, none⟩,
    ⟨1, [66], 2, ⟨List.replicate 16 0, rfl⟩, fun _ => 2, 1, none⟩]
  gProfileData := [[⟨1, fun _ => 5⟩, ⟨1, fun _ => 7⟩]]
  gProfileFlavorNames _ := [80]
  genericProfileFlavorName := [71, 78]
  profileFlavorNameLength := 3
  genericProfileIndex := 0xFFFFFFFF
  generic_not_listed := by decide

/-- The first profile is active; the first knob has a stored value. -/
def firstProfile : ConfigServices where
  getVarListSize _ valueSize := (efiSuccess, UInt32.ofNat valueSize)
  allocated := true
  getActiveProfileIndex := (efiSuccess, 0)
  getConfigKnobOverride i _ := if i = 0 then (efiSuccess, fun _ => 9) else (efiNotFound, fun _ => 0)
  convertVariableEntryToVariableList e _ := (efiSuccess, e.data)
  setMetadataPolicy := efiSuccess

/-- The caches of `twoKnobs` at boot. -/
def twoKnobsCaches : Caches := fun k => if k = 0 then [1] else [2]

/-- The same with this serialiser. -/
def serializer : ConfigServices where
  getVarListSize nameSize dataSize :=
    if 32 + nameSize + dataSize < 2 ^ 32 then
      (efiSuccess, UInt32.ofNat (32 + nameSize + dataSize))
    else (efiBufferTooSmall, 0)
  allocated := true
  getActiveProfileIndex := (efiSuccess, 0)
  getConfigKnobOverride i _ := if i = 0 then (efiSuccess, fun _ => 9) else (efiNotFound, fun _ => 0)
  convertVariableEntryToVariableList e room :=
    if room < (entryBytes e).length then (efiBufferTooSmall, []) else (efiSuccess, entryBytes e)
  setMetadataPolicy := efiSuccess

/-- The policy is two entries, in 74 bytes. -/
theorem published_values_agree_two_knobs :
    ∃ policy entries metadata,
      (createConfPolicy twoKnobs serializer twoKnobsCaches []).policy = some (policy, entries) ∧
      (createConfPolicy twoKnobs serializer twoKnobsCaches []).metadata = some metadata ∧
      serialized serializer 74 0 entries = some policy ∧ entries.length = 2 ∧
      ∀ k d, twoKnobs.gKnobData[k]? = some d →
        let name := lookupName (twoKnobs.gKnobData.take (k + 1)) []
        entries[k]? = some ⟨name, d.vendorNamespace, variableAttributeNvBsRt,
          publishedValue serializer k d name
            (layeredValue twoKnobs metadata.activeProfileIndex k d), UInt32.ofNat d.valueSize⟩ := by
  have hknobs : ∀ k d, twoKnobs.gKnobData[k]? = some d → d.validator = none ∧
      twoKnobsCaches k = d.default := by
    intro k d hk
    match k, hk with
    | 0, hk => cases hk; exact ⟨rfl, rfl⟩
    | 1, hk => cases hk; exact ⟨rfl, rfl⟩
    | k + 2, hk => simp [twoKnobs] at hk
  have haccept : ∀ k d, twoKnobs.gKnobData[k]? = some d → StoredAccepted serializer k d := by
    intro k d hk name _ accepts hv
    rw [(hknobs k d hk).1] at hv
    cases hv
  obtain ⟨needed, policy, entries, metadata, hneeded, hpolicy, hmeta, hbytes, -, hcount,
    hentries⟩ := published_values_agree twoKnobs serializer (fun k d hk => (hknobs k d hk).2) haccept
      [] (by decide +kernel)
  have hsize : neededSize serializer twoKnobs.gKnobData 0 = some 74 := by decide +kernel
  obtain rfl : needed = 74 := Option.some.inj (hneeded.symm.trans hsize)
  exact ⟨policy, entries, metadata, hpolicy, hmeta, hbytes, hcount,
    fun k d hk => (hentries k d hk).2⟩

example : (createConfPolicy twoKnobs firstProfile twoKnobsCaches []).policy.map (·.1) =
    some [9, 7] := by decide +kernel

end OemPkg.Config
