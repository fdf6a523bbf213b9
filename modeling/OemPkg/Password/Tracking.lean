/-
# OemPkg.Password.Tracking — the password store remembers the last password set

What the store is for, said without its variable: `lastRecord` is the machine whose only state is
the last record accepted since the last reset. `passwordStore_simulates` relates the library to it
(`Tracks`), so every answer of a run is the one `lastRecord` gives, and the state of `lastRecord` is
what an observer reads off the run (`lastAccepted_trace`).
-/
import OemPkg.Password.Store

namespace OemPkg.Password

open OemPkg.Lib OemPkg.Uefi

/-! ## The abstract store -/

/-- The password `last` stands for is set. -/
def IsPassword (last : Option Bytes) : Prop := ∃ r, last = some r ∧ IsV1Record r

/-- `password` opens a store whose last accepted record is `last`. -/
def Opens (env : PolicyEnv) (last : Option Bytes) (password : Option Char16String) : Prop :=
  IsPassword last → ∃ r p, last = some r ∧ password = some p ∧ IsRecordOf env (tempPassword p) r

open Classical in
/-- **The store as its callers should see it**: it remembers the last accepted record. -/
noncomputable def lastRecord (env : PolicyEnv) : Machine (Option Bytes) StoreCall StoreAnswer where
  step last
    | .setPassword none => (last, .status efiInvalidParameter)
    | .setPassword (some r) =>
        if Accepted r then (some r, .status efiSuccess) else (last, .status efiInvalidParameter)
    | .resetPasswordLib => (none, .status efiSuccess)
    | .initializeLib => (last, .status efiSuccess)
    | .isPasswordSet => (last, .boolean (decide (IsPassword last)))
    | .authenticatePassword password => (last, .boolean (decide (Opens env last password)))

/-- Reading the last accepted record off a run of `lastRecord` gives its state. -/
theorem lastAccepted_lastRecord (env : PolicyEnv) :
    ∀ (calls : List StoreCall) (last : Option Bytes),
      lastAccepted ((lastRecord env).trace last calls) last = (lastRecord env).run last calls := by
  intro calls
  induction calls with
  | nil => intro last; rfl
  | cons call calls ih =>
      intro last
      rw [Machine.trace_cons, Machine.run_cons]
      cases call with
      | setPassword hash =>
          cases hash with
          | none => exact ih last
          | some r =>
              by_cases hr : Accepted r
              · simp only [lastRecord, hr, if_true, lastAccepted]
                exact ih (some r)
              · have hne : efiInvalidParameter ≠ efiSuccess :=
                  ne_success_of_error efiError_invalidParameter
                simp only [lastRecord, hr, if_false, lastAccepted, hne]
                exact ih last
      | resetPasswordLib => exact ih none
      | initializeLib => exact ih last
      | isPasswordSet => exact ih last
      | authenticatePassword password => exact ih last

/-! ## The simulation -/

/-- AuthenticatePassword answers as the abstract store does. -/
theorem authenticatePassword_tracks {env : PolicyEnv} (henv : env.Hashes) {st : PasswordStore}
    {last : Option Bytes} (h : Tracks st last) (password : Option Char16String) :
    ((passwordStoreAuthenticatePassword env st password).1 = true ↔ Opens env last password) ∧
      Tracks (passwordStoreAuthenticatePassword env st password).2 last := by
  obtain ⟨hans, hnext⟩ := isPasswordSet_tracks env h
  by_cases hset : IsPassword last
  · obtain ⟨r, rfl, hr⟩ := hset
    cases h with
    | record hacc =>
        obtain ⟨hauth, hst⟩ := authenticatePassword_stored henv hr password
        rw [hst, hauth]
        refine ⟨⟨fun ⟨p, hp, hrec⟩ _ => ⟨r, p, rfl, hp, hrec⟩, fun hopens => ?_⟩, .record hacc⟩
        obtain ⟨r', p, hrr, hp, hrec⟩ := hopens ⟨r, rfl, hr⟩
        cases hrr
        exact ⟨p, hp, hrec⟩
  · have hno : (passwordStoreIsPasswordSet env st).1 = false := by
      rw [← Bool.not_eq_true]
      exact fun h => hset (hans.mp h)
    rw [authenticatePassword_of_not_set hno]
    exact ⟨⟨fun _ h => absurd h hset, fun _ => rfl⟩, hnext⟩

/-- **The password store simulates the abstract one.** -/
theorem passwordStore_simulates {env : PolicyEnv} (henv : env.Hashes) :
    (passwordStore env).Simulates (lastRecord env) id id Tracks where
  step := by
    intro st last call h
    cases call with
    | setPassword hash =>
        cases hash with
        | none => exact h
        | some r =>
            by_cases hr : Accepted r
            · simp only [passwordStore, setPassword_accepts h hr, lastRecord, id, hr, if_true]
              exact .record hr
            · simp only [passwordStore, setPassword_refuses st hr, lastRecord, id, hr, if_false]
              exact h
    | resetPasswordLib =>
        simp only [passwordStore, resetPasswordLib_tracks h]
        exact .missing
    | initializeLib => exact (initializeLib_tracks h).2
    | isPasswordSet => exact (isPasswordSet_tracks env h).2
    | authenticatePassword password => exact (authenticatePassword_tracks henv h password).2
  answer := by
    intro st last call h
    cases call with
    | setPassword hash =>
        cases hash with
        | none => rfl
        | some r =>
            by_cases hr : Accepted r
            · simp only [passwordStore, setPassword_accepts h hr, lastRecord, id, hr, if_true]
            · simp only [passwordStore, setPassword_refuses st hr, lastRecord, id, hr, if_false]
    | resetPasswordLib => simp only [passwordStore, resetPasswordLib_tracks h, lastRecord, id]
    | initializeLib => simp only [passwordStore, (initializeLib_tracks h).1, lastRecord, id]
    | isPasswordSet =>
        have hans := (isPasswordSet_tracks env h).1
        simp only [passwordStore, lastRecord, id, StoreAnswer.boolean.injEq]
        exact Bool.eq_iff_iff.mpr
          (hans.trans (@decide_eq_true_iff _ (Classical.propDecidable _)).symm)
    | authenticatePassword password =>
        have hans := (authenticatePassword_tracks henv h password).1
        simp only [passwordStore, lastRecord, id, StoreAnswer.boolean.injEq]
        exact Bool.eq_iff_iff.mpr
          (hans.trans (@decide_eq_true_iff _ (Classical.propDecidable _)).symm)

/-- The constructor leaves a store that tracks "nothing set", whichever instance of the library it
runs for. -/
theorem constructor_tracks (env : PolicyEnv) (locate : EfiStatus) :
    Tracks (passwordStoreLibConstructor env locate (.reliable none)) none := by
  have hnull : passwordPolicyGeneratePasswordHash env none none = (efiSuccess, some deleteRecord) :=
    rfl
  have hstart : Tracks ⟨.reliable none, some deleteRecord⟩ none := .missing
  unfold passwordStoreLibConstructor
  simp only [hnull]
  split_ifs
  · exact (initializeLib_tracks hstart).2
  · exact hstart

/-- What an observer reads off a run is what the store tracks. -/
theorem lastAccepted_trace {env : PolicyEnv} (henv : env.Hashes) {st : PasswordStore}
    {last : Option Bytes} (h : Tracks st last) (calls : List StoreCall) :
    Tracks ((passwordStore env).run st calls)
      (lastAccepted ((passwordStore env).trace st calls) last) := by
  have hsim := passwordStore_simulates henv
  have hrun := hsim.run calls h
  rw [List.map_id] at hrun
  have htrace : (passwordStore env).trace st calls = (lastRecord env).trace last calls := by
    have hans := hsim.answers calls h
    rw [List.map_id, List.map_id] at hans
    rw [Machine.trace, Machine.trace, hans]
  rw [htrace, lastAccepted_lastRecord]
  exact hrun

/-- **The store tracks the last password set.** After the constructor on a missing variable and any
run of calls: a password is set exactly when the last record accepted since the last reset is a
version-1 record; the record generated for a valid password, with whatever salt, is accepted, and
while it is the last one accepted its password authenticates. -/
theorem passwordStore_tracks_last_password {env : PolicyEnv} (henv : env.Hashes)
    (locate : EfiStatus) (calls : List StoreCall) :
    let start := passwordStoreLibConstructor env locate (.reliable none)
    let st := (passwordStore env).run start calls
    let last := lastAccepted ((passwordStore env).trace start calls) none
    ((passwordStoreIsPasswordSet env st).1 = true ↔ ∃ r, last = some r ∧ IsV1Record r) ∧
      ∀ (p : Char16String) (r : Bytes) (locateRng : EfiStatus)
        (getRng : Fin 3 → EfiStatus × Block saltSizeV1),
        ValidPassword p →
        passwordPolicyGeneratePasswordHash { env with locateRng := locateRng, getRng := getRng }
          none (some p) = (efiSuccess, some r) →
        (passwordStoreSetPassword st (some r)).1 = efiSuccess ∧
          (last = some r → (passwordStoreAuthenticatePassword env st (some p)).1 = true) := by
  intro start st last
  have htracks : Tracks st last := lastAccepted_trace henv (constructor_tracks env locate) calls
  refine ⟨(isPasswordSet_tracks env htracks).1, ?_⟩
  intro p r locateRng getRng hp hgen
  have hrec : IsRecordOf env p r := isRecordOf_generated henv hp hgen
  constructor
  · rw [setPassword_accepts htracks (Or.inr hrec.isV1Record)]
  · intro hlast
    apply ((authenticatePassword_tracks henv htracks (some p)).1).mpr
    intro _
    have htemp : tempPassword p = p := Char16String.strnCpyS_of_le hp.max
    exact ⟨r, p, hlast, rfl, by rw [htemp]; exact hrec⟩

/-- A run in which a password is set, forgotten and set again. -/
def setTwice (r : Bytes) : List StoreCall :=
  [.setPassword (some r), .isPasswordSet, .resetPasswordLib, .initializeLib, .setPassword (some r)]

theorem passwordStore_tracks_last_password_set_twice :
    let p : Char16String := ⟨List.replicate 8 65, by decide⟩
    let env := singlingOut p
    let r := singledOutRecord
    let st := (passwordStore env).run
      (passwordStoreLibConstructor env efiNotFound (.reliable none)) (setTwice r)
    (passwordStoreIsPasswordSet env st).1 = true ∧
      (passwordStoreAuthenticatePassword env st (some p)).1 = true := by
  intro p env r st
  obtain ⟨hset, hall⟩ := passwordStore_tracks_last_password (singlingOut_hashes p) efiNotFound
    (setTwice r)
  have hlast : lastAccepted ((passwordStore env).trace
      (passwordStoreLibConstructor env efiNotFound (.reliable none)) (setTwice r)) none =
        some r := by decide +kernel
  have hvalid : ValidPassword p := (isPwStringValid_iff p).mp (by decide +kernel)
  have hgen : passwordPolicyGeneratePasswordHash
      { env with locateRng := env.locateRng, getRng := env.getRng } none (some p) =
        (efiSuccess, some r) := generatePasswordHash_singlingOut hvalid
  exact ⟨hset.mpr ⟨r, hlast, isV1Record_singledOutRecord⟩, (hall p r _ _ hvalid hgen).2 hlast⟩

end OemPkg.Password
