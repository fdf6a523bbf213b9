/-
# OemPkg.Config.RejectedOverride — what a stored value its validator rejects does to the policy

A stored value is read into the very cache that holds the knob's value in the active profile, and is
validated there. When it is rejected the profile's value is gone: what the cache gets is the default
of the knob. Two runs of CreateConfPolicy that differ in one stored value are compared, round by
round (`populate_withOverride`). A rejected value acts as a stored default does, always, and as no
stored value does when the profile leaves that knob at its default (`rejected_override_is_default`).
-/
import OemPkg.Config.PublishedValues

namespace OemPkg.Config

open OemPkg.Lib OemPkg.Uefi

variable {T : ConfigTables} {sv : ConfigServices}

/-! ## Two runs -/

/-- The same services, but for the stored value of knob `k`. -/
def ConfigServices.withOverride (sv : ConfigServices) (k : Nat) (got : EfiStatus × Memory) :
    ConfigServices :=
  { sv with getConfigKnobOverride := Function.update sv.getConfigKnobOverride k fun _ => got }

/-- Variable storage has a value of the right size for the knob, and the validator rejects it. -/
def RejectsStored (d : KnobData) (got : EfiStatus × Memory) : Prop :=
  got.1 = efiSuccess ∧
    ∃ accepts, d.validator = some accepts ∧ accepts (copyMem d.valueSize got.2) = false

/-! ## One round -/

/-- A rejected value leaves the default. -/
theorem readStored_rejected {i : Nat} {d : KnobData} {got : EfiStatus × Memory}
    (h : RejectsStored d got) (cache : Caches) :
    readStored i d got cache = Function.update cache i d.default := by
  obtain ⟨hstored, accepts, hvalidator, hrejects⟩ := h
  have hany : (d.validator.any fun accepts => !accepts (copyMem d.valueSize got.2)) = true := by
    rw [hvalidator, Option.any_some, hrejects, Bool.not_false]
  unfold readStored
  simp only [hstored, if_true, Function.update_self, true_and, hany, Function.update_idem]
  rfl

/-- So does a stored default, whatever the validator thinks of it. -/
theorem readStored_default (i : Nat) (d : KnobData) (cache : Caches) :
    readStored i d (efiSuccess, d.defaultValue) cache = Function.update cache i d.default := by
  unfold readStored
  simp only [if_true, Function.update_idem]
  exact ite_self _

/-- No stored value leaves the cache alone. -/
theorem readStored_absent (i : Nat) (d : KnobData) (m : Memory) (cache : Caches) :
    readStored i d (efiNotFound, m) cache = cache := by
  unfold readStored
  simp only [success_ne_notFound.symm, if_false, false_and]

/-- A status with which CreateConfPolicy goes on. -/
def Tolerated (status : EfiStatus) : Prop :=
  ¬ (efiError status = true ∧ status ≠ efiNotFound ∧ status ≠ efiBadBufferSize)

theorem tolerated_success : Tolerated efiSuccess := fun h => Bool.false_ne_true h.1

theorem tolerated_notFound : Tolerated efiNotFound := fun h => h.2.1 rfl

/-- Another knob's round does not see the difference. -/
theorem populateKnob_withOverride_ne {needed i k : Nat} (hi : i ≠ k) (got : EfiStatus × Memory)
    (d : KnobData) (st : Populating) :
    populateKnob (sv.withOverride k got) needed i d st = populateKnob sv needed i d st := by
  unfold populateKnob ConfigServices.withOverride
  simp only [Function.update_of_ne hi]

/-- The knob's own round: only what ends up in its cache matters. -/
theorem populateKnob_withOverride_self {needed k : Nat} {got : EfiStatus × Memory} {d : KnobData}
    {st : Populating}
    (hstored : Tolerated (sv.getConfigKnobOverride k
      (asciiStrToUnicodeStrS d.name st.unicodeName d.nameSize)).1)
    (hgot : Tolerated got.1)
    (hread : readStored k d got st.cache = readStored k d (sv.getConfigKnobOverride k
      (asciiStrToUnicodeStrS d.name st.unicodeName d.nameSize)) st.cache) :
    populateKnob (sv.withOverride k got) needed k d st = populateKnob sv needed k d st := by
  unfold Tolerated at hstored hgot
  unfold populateKnob ConfigServices.withOverride
  simp only [Function.update_self, if_neg hstored, if_neg hgot, hread]

/-! ## The whole loop -/

/-- The rounds behind the knob. -/
theorem populate_withOverride_gt {needed k : Nat} (got : EfiStatus × Memory)
    (ds : List KnobData) : ∀ {i : Nat} {st : Populating}, k < i →
      populate (sv.withOverride k got) needed i ds st = populate sv needed i ds st := by
  induction ds with
  | nil => intro i st _; rfl
  | cons d ds ih =>
      intro i st hi
      have hne : i ≠ k := by omega
      unfold populate
      rw [populateKnob_withOverride_ne hne]
      cases populateKnob sv needed i d st with
      | error status => rfl
      | ok st' => exact ih (by omega)

/-- **The two loops agree** when the knob's own round does, by induction on the knobs still to come:
the rounds before it leave its cache as it was and the name buffer at `lookupName`. -/
theorem populate_withOverride {needed k : Nat} {got : EfiStatus × Memory} {d : KnobData}
    (ds : List KnobData) : ∀ {i j : Nat} {st : Populating}, i + j = k → ds[j]? = some d →
      Tolerated (sv.getConfigKnobOverride k (lookupName (ds.take (j + 1)) st.unicodeName)).1 →
      Tolerated got.1 →
      (∀ cache : Caches, cache k = st.cache k → readStored k d got cache =
        readStored k d (sv.getConfigKnobOverride k
          (lookupName (ds.take (j + 1)) st.unicodeName)) cache) →
      populate (sv.withOverride k got) needed i ds st = populate sv needed i ds st := by
  induction ds with
  | nil => intro i j st _ hj; simp at hj
  | cons d' ds ih =>
      intro i j st hij hj hstored hgot hread
      cases j with
      | zero =>
          obtain rfl : i = k := hij
          obtain rfl : d' = d := by simpa using hj
          have hround : populateKnob (sv.withOverride i got) needed i d' st =
              populateKnob sv needed i d' st :=
            populateKnob_withOverride_self hstored hgot (hread st.cache rfl)
          unfold populate
          rw [hround]
          cases populateKnob sv needed i d' st with
          | error status => rfl
          | ok st' => exact populate_withOverride_gt got ds (by omega)
      | succ j =>
          have hne : i ≠ k := by omega
          unfold populate
          rw [populateKnob_withOverride_ne hne]
          cases hstep : populateKnob sv needed i d' st with
          | error status => rfl
          | ok st' =>
              obtain ⟨hname, -, hcache⟩ := populateKnob_spec hstep
              have hlookup : lookupName (ds.take (j + 1)) st'.unicodeName =
                  lookupName ((d' :: ds).take (j + 1 + 1)) st.unicodeName := by
                rw [hname, List.take_succ_cons]
                rfl
              have hij' : i + 1 + j = k := by omega
              apply ih hij' (by simpa using hj) (by rw [hlookup]; exact hstored) hgot
              intro cache hk
              rw [hlookup]
              exact hread cache (hk.trans (hcache k hne.symm))

/-! ## The policy -/

theorem neededSize_withOverride (k : Nat) (got : EfiStatus × Memory) (ds : List KnobData) :
    ∀ needed, neededSize (sv.withOverride k got) ds needed = neededSize sv ds needed := by
  induction ds with
  | nil => intro needed; rfl
  | cons d ds ih =>
      intro needed
      simp only [neededSize, ih]
      rfl

/-- CreateConfPolicy sees a stored value in the loop over the knobs only. -/
theorem createConfPolicy_withOverride {k : Nat} {got : EfiStatus × Memory} {cache : Caches}
    {unicodeName : List UInt16}
    (h : ∀ needed, populate (sv.withOverride k got) needed 0 T.gKnobData
        ⟨(selectProfile T sv cache).1, unicodeName, [], []⟩ =
      populate sv needed 0 T.gKnobData ⟨(selectProfile T sv cache).1, unicodeName, [], []⟩) :
    createConfPolicy T (sv.withOverride k got) cache unicodeName =
      createConfPolicy T sv cache unicodeName := by
  have hselect : selectProfile T (sv.withOverride k got) cache = selectProfile T sv cache := rfl
  unfold createConfPolicy
  rw [neededSize_withOverride, hselect]
  simp only [h]
  rfl

section Rejected

variable (T) (sv) (cache : Caches) (unicodeName : List UInt16) {k : Nat} {d : KnobData}
  (hk : T.gKnobData[k]? = some d)
  (hrejected : RejectsStored d (sv.getConfigKnobOverride k
    (lookupName (T.gKnobData.take (k + 1)) unicodeName)))
include hk hrejected

/-- Any other stored value makes the same policy, if it leaves the default in the knob's cache. -/
theorem rejected_override_congr (got : EfiStatus × Memory) (hgot : Tolerated got.1)
    (hread : ∀ c : Caches, c k = (selectProfile T sv cache).1 k →
      readStored k d got c = Function.update c k d.default) :
    createConfPolicy T (sv.withOverride k got) cache unicodeName =
      createConfPolicy T sv cache unicodeName := by
  have hstored : Tolerated (sv.getConfigKnobOverride k
      (lookupName (T.gKnobData.take (k + 1)) unicodeName)).1 := by
    rw [hrejected.1]
    exact tolerated_success
  apply createConfPolicy_withOverride
  intro needed
  have hknob : ∀ c : Caches, c k = (selectProfile T sv cache).1 k → readStored k d got c =
      readStored k d (sv.getConfigKnobOverride k
        (lookupName (T.gKnobData.take (k + 1)) unicodeName)) c := by
    intro c hc
    rw [hread c hc, readStored_rejected hrejected]
  exact populate_withOverride T.gKnobData (Nat.zero_add k) hk hstored hgot hknob

/-- The entries of a policy with the rejected value, and of one without any: they differ at `k`
only, where the first has the default. -/
theorem rejected_override_entries (m : Memory)
    (hok : (createConfPolicy T sv cache unicodeName).status = efiSuccess)
    (hok' : (createConfPolicy T (sv.withOverride k (efiNotFound, m)) cache unicodeName).status =
      efiSuccess) :
    ∃ policy entries policy' entries',
      (createConfPolicy T sv cache unicodeName).policy = some (policy, entries) ∧
      (createConfPolicy T (sv.withOverride k (efiNotFound, m)) cache unicodeName).policy =
        some (policy', entries') ∧
      (∃ e, entries[k]? = some e ∧ e.data = d.default) ∧
      ∀ j, j ≠ k → entries[j]? = entries'[j]? := by
  obtain ⟨needed, st, -, -, hpop, -, hpolicy, -⟩ := createConfPolicy_succeeds hok
  obtain ⟨needed', st', -, -, hpop', -, hpolicy', -⟩ := createConfPolicy_succeeds hok'
  obtain ⟨es, hes, hlen, hall⟩ := populate_spec T.gKnobData hpop
  obtain ⟨es', hes', hlen', hall'⟩ := populate_spec T.gKnobData hpop'
  rw [List.nil_append] at hes hes'
  refine ⟨_, _, _, _, hpolicy, hpolicy', ?_, ?_⟩
  · refine ⟨_, hes ▸ hall k d hk, ?_⟩
    rw [Nat.zero_add]
    show readStored k d _ (selectProfile T sv cache).1 k = d.default
    rw [readStored_rejected hrejected, Function.update_self]
  · intro j hj
    rw [hes, hes']
    cases hd : T.gKnobData[j]? with
    | some d' =>
        have hsame : (sv.withOverride k (efiNotFound, m)).getConfigKnobOverride j =
            sv.getConfigKnobOverride j := Function.update_of_ne hj _ _
        rw [hall j d' hd, hall' j d' hd, Nat.zero_add]
        unfold knobEntry
        rw [hsame]
        rfl
    | none =>
        have hout : T.gKnobData.length ≤ j := List.getElem?_eq_none_iff.mp hd
        rw [List.getElem?_eq_none (by omega), List.getElem?_eq_none (by omega)]

/-- **A rejected stored value acts as a stored default.** Let knob `k` have a stored value of the
right size that its validator rejects. What CreateConfPolicy leaves is what it would leave if the
stored value were the knob's default. Against no stored value for `k` at all, it differs in the
value of `k` only; and not in that when the selected profile leaves `k` at its default. -/
theorem rejected_override_is_default :
    createConfPolicy T (sv.withOverride k (efiSuccess, d.defaultValue)) cache unicodeName =
        createConfPolicy T sv cache unicodeName ∧
      (∀ m, (createConfPolicy T sv cache unicodeName).status = efiSuccess →
        (createConfPolicy T (sv.withOverride k (efiNotFound, m)) cache unicodeName).status =
          efiSuccess →
        ∃ policy entries policy' entries',
          (createConfPolicy T sv cache unicodeName).policy = some (policy, entries) ∧
          (createConfPolicy T (sv.withOverride k (efiNotFound, m)) cache unicodeName).policy =
            some (policy', entries') ∧
          (∃ e, entries[k]? = some e ∧ e.data = d.default) ∧
          ∀ j, j ≠ k → entries[j]? = entries'[j]?) ∧
      ((selectProfile T sv cache).1 k = d.default → ∀ m,
        createConfPolicy T (sv.withOverride k (efiNotFound, m)) cache unicodeName =
          createConfPolicy T sv cache unicodeName) := by
  refine ⟨?_, fun m => rejected_override_entries T sv cache unicodeName hk hrejected m, ?_⟩
  · apply rejected_override_congr T sv cache unicodeName hk hrejected
      (efiSuccess, d.defaultValue) tolerated_success
    intro c _
    exact readStored_default k d c
  · intro hdefault m
    apply rejected_override_congr T sv cache unicodeName hk hrejected (efiNotFound, m)
      tolerated_notFound
    intro c hc
    rw [readStored_absent, ← hdefault, ← hc, Function.update_eq_self]

end Rejected

/-- The knobs of `twoKnobs`, the second one with an upper bound its profile value meets. -/
def boundedKnobs : ConfigTables where
  gKnobData := twoKnobs.gKnobData.map fun d =>
    { d with validator := if d.knob = 1 then some fun b => b.all (· ≤ 8) else none }
  gProfileData := twoKnobs.gProfileData
  gProfileFlavorNames := twoKnobs.gProfileFlavorNames
  genericProfileFlavorName := twoKnobs.genericProfileFlavorName
  profileFlavorNameLength := twoKnobs.profileFlavorNameLength
  genericProfileIndex := twoKnobs.genericProfileIndex
  generic_not_listed := by decide

/-- The first profile is active, and the second knob has the stored value 9. -/
def storedNine : ConfigServices := firstProfile.withOverride 1 (efiSuccess, fun _ => 9)

theorem rejected_override_is_default_nine :
    createConfPolicy boundedKnobs (storedNine.withOverride 1 (efiSuccess, fun _ => 2))
        twoKnobsCaches [] = createConfPolicy boundedKnobs storedNine twoKnobsCaches [] := by
  have hrejected : RejectsStored ⟨1, [66], 2, ⟨List.replicate 16 0, rfl⟩, fun _ => 2, 1,
      some fun b => b.all (· ≤ 8)⟩ (storedNine.getConfigKnobOverride 1
        (lookupName (boundedKnobs.gKnobData.take 2) [])) :=
    ⟨rfl, _, rfl, by decide⟩
  exact (rejected_override_is_default boundedKnobs storedNine twoKnobsCaches []
    (k := 1) rfl hrejected).1

/-- The profile gives the second knob 7. With the stored 9 rejected the policy has its default 2
instead, without the stored value it has 7. -/
theorem rejected_override_drops_profile_value :
    ¬ ∀ (T : ConfigTables) (sv : ConfigServices) (cache : Caches) (unicodeName : List UInt16)
      (k : Nat) (d : KnobData) (m : Memory), T.gKnobData[k]? = some d →
        RejectsStored d (sv.getConfigKnobOverride k
          (lookupName (T.gKnobData.take (k + 1)) unicodeName)) →
        (createConfPolicy T sv cache unicodeName).policy.map (·.1) =
          (createConfPolicy T (sv.withOverride k (efiNotFound, m)) cache
            unicodeName).policy.map (·.1) := by
  intro h
  have hsame := h boundedKnobs storedNine twoKnobsCaches [] 1 _ (fun _ => 0) rfl
    ⟨rfl, _, rfl, by decide⟩
  have hwith : (createConfPolicy boundedKnobs storedNine twoKnobsCaches []).policy.map (·.1) =
      some [9, 2] := by decide +kernel
  have hwithout : (createConfPolicy boundedKnobs (storedNine.withOverride 1
      (efiNotFound, fun _ => 0)) twoKnobsCaches []).policy.map (·.1) = some [9, 7] := by
    decide +kernel
  rw [hwith, hwithout] at hsame
  cases hsame

end OemPkg.Config
