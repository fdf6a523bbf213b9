/-
# OemPkg.Boot.PreBootChecks — power and temperature before a boot

MsPreBootChecks asks for the power and the temperature until both are good, at most as often as
PcdPowerAndThermalRetries allows, and shuts the system down if they do not become so. The sensors
answer each round anew; an answer that cannot be had counts as good, and a power mitigation that
fails ends the checks at once. `checks_pass_iff` is what the loop comes to, for every sequence of
answers.
-/
import OemPkg.Lib.Loop
import OemPkg.Uefi.Status

namespace OemPkg.Boot

open OemPkg.Lib OemPkg.Uefi

/-! ## The checks -/

/-- What the platform answers in each round, the rounds counted from 0: a status, and the flag it
leaves. -/
structure PlatformSensors where
  systemPowerCheck : Nat → EfiStatus × Bool
  systemPowerMitigate : Nat → EfiStatus
  systemThermalCheck : Nat → EfiStatus × Bool

/-- The locals of MsPreBootChecks between two rounds, the rounds that are over, and those of them
that waited for the system to cool down. -/
structure CheckState where
  status : EfiStatus
  thermalGood : Bool
  powerGood : Bool
  retryCount : Int
  rounds : Nat
  waits : Nat

section Checks

variable (sensors : PlatformSensors)

/-- The second half of a round: the temperature, and the condition of the loop. -/
def thermalRound (powerGood : Bool) (s : CheckState) : Round CheckState CheckState :=
  let check := sensors.systemThermalCheck s.rounds
  -- error retrieving thermal should not stop boot
  let thermalGood := efiError check.1 || check.2
  let s' : CheckState :=
    { status := check.1
      thermalGood := thermalGood
      powerGood := powerGood
      retryCount := s.retryCount - 1
      rounds := s.rounds + 1
      waits := if !thermalGood && decide (0 < s.retryCount) then s.waits + 1 else s.waits }
  if 0 < s.retryCount ∧ (!thermalGood || !powerGood) then .next s' else .done s'

/-- A round of the loop. -/
def checkRound (s : CheckState) : Round CheckState CheckState :=
  let check := sensors.systemPowerCheck s.rounds
  if !efiError check.1 && !check.2 then
    let status := sensors.systemPowerMitigate s.rounds
    if efiError status then
      .done { s with status := status, powerGood := false, rounds := s.rounds + 1 }
    -- thermal mitigation may burn battery, so power is checked once more before booting
    else thermalRound sensors false s
  -- error retrieving power state should not stop boot
  else thermalRound sensors true s

/-- The ways in which the function does not come back. -/
inductive FailureShutdown where
  | thermal
  | power
  deriving DecidableEq, Repr

/-- How MsPreBootChecks ends: the status it returns if it is not shut down, and the rounds of its
loop. -/
structure CheckOutcome where
  status : EfiStatus
  shutdown : Option FailureShutdown
  rounds : Nat
  waits : Nat

/-- The end of the function: ThermalFailureShutdown, PowerFailureShutdown, or the return. -/
def CheckState.outcome (s : CheckState) : CheckOutcome where
  status := s.status
  shutdown := if !s.thermalGood then some .thermal else if !s.powerGood then some .power else none
  rounds := s.rounds
  waits := s.waits

/-- A UINT32 as an INT32. -/
def toInt32 (n : Nat) : Int := if n < 2147483648 then n else n - 4294967296

/-- MsPreBootChecks, for a status of CreateEvent and PcdPowerAndThermalRetries. -/
def msPreBootChecks (createEvent : EfiStatus) (powerAndThermalRetries : Nat) (fuel : Nat) :
    Option CheckOutcome :=
  let start (status : EfiStatus) : CheckState := ⟨status, true, true,
    toInt32 powerAndThermalRetries, 0, 0⟩
  if efiError createEvent then some (start createEvent).outcome
  else (loop (checkRound sensors) fuel (start createEvent)).map CheckState.outcome

/-! ## What the sensors say in a round -/

/-- The power is good or unreadable. -/
def PlatformSensors.powerFine (i : Nat) : Bool :=
  efiError (sensors.systemPowerCheck i).1 || (sensors.systemPowerCheck i).2

/-- The temperature is good or unreadable. -/
def PlatformSensors.thermalFine (i : Nat) : Bool :=
  efiError (sensors.systemThermalCheck i).1 || (sensors.systemThermalCheck i).2

/-- The power is low, and the mitigation for it fails. -/
def PlatformSensors.mitigationFails (i : Nat) : Bool :=
  !sensors.powerFine i && efiError (sensors.systemPowerMitigate i)

/-- Among `n + 1` rounds from round `i` on there is one that finds everything fine, and no
mitigation has failed before it. -/
def FineWithin (i n : Nat) : Prop :=
  ∃ j ≤ n, sensors.powerFine (i + j) = true ∧ sensors.thermalFine (i + j) = true ∧
    ∀ j' < j, sensors.mitigationFails (i + j') = false

end Checks

variable {sensors : PlatformSensors}

variable (sensors) in
/-- **What a round does**, said once: it ends the checks with the power low, or it notes how power
and temperature are and goes on while something is not fine and there are retries left. -/
theorem checkRound_cases (s : CheckState) :
    (sensors.mitigationFails s.rounds = true ∧ ∃ s', checkRound sensors s = .done s' ∧
      s'.powerGood = false ∧ s'.rounds = s.rounds + 1) ∨
    (sensors.mitigationFails s.rounds = false ∧ ∃ s',
      s'.powerGood = sensors.powerFine s.rounds ∧ s'.thermalGood = sensors.thermalFine s.rounds ∧
      s'.retryCount = s.retryCount - 1 ∧ s'.rounds = s.rounds + 1 ∧
      checkRound sensors s =
        if 0 < s.retryCount ∧
          (!sensors.thermalFine s.rounds || !sensors.powerFine s.rounds) = true
        then .next s' else .done s') := by
  have hlow : (!efiError (sensors.systemPowerCheck s.rounds).1 &&
      !(sensors.systemPowerCheck s.rounds).2) = !sensors.powerFine s.rounds :=
    (Bool.not_or _ _).symm
  unfold checkRound PlatformSensors.mitigationFails
  dsimp only
  rw [hlow]
  cases hpower : sensors.powerFine s.rounds with
  | true =>
      rw [if_neg (by decide)]
      exact Or.inr ⟨rfl, _, rfl, rfl, rfl, rfl, rfl⟩
  | false =>
      rw [if_pos (by decide), Bool.not_false, Bool.true_and]
      cases hmitigate : efiError (sensors.systemPowerMitigate s.rounds) with
      | true =>
          rw [if_pos rfl]
          exact Or.inl ⟨rfl, _, rfl, rfl, rfl⟩
      | false =>
          rw [if_neg Bool.false_ne_true]
          exact Or.inr ⟨rfl, _, rfl, rfl, rfl, rfl, rfl⟩

/-- The first round decides, or the rounds behind it do. -/
theorem fineWithin_iff {i n : Nat} :
    FineWithin sensors i n ↔ (sensors.powerFine i = true ∧ sensors.thermalFine i = true) ∨
      (0 < n ∧ sensors.mitigationFails i = false ∧ FineWithin sensors (i + 1) (n - 1)) := by
  constructor
  · rintro ⟨j, hj, hpower, hthermal, hbefore⟩
    cases j with
    | zero => exact Or.inl ⟨hpower, hthermal⟩
    | succ j =>
        have hstep : ∀ j, i + 1 + j = i + (j + 1) := fun j => by omega
        refine Or.inr ⟨by omega, hbefore 0 (Nat.succ_pos j), j, by omega, ?_, ?_, ?_⟩
        · rw [hstep]
          exact hpower
        · rw [hstep]
          exact hthermal
        · intro j' hj'
          rw [hstep]
          exact hbefore (j' + 1) (Nat.succ_lt_succ hj')
  · rintro (⟨hpower, hthermal⟩ | ⟨hn, hfirst, j, hj, hpower, hthermal, hbefore⟩)
    · exact ⟨0, Nat.zero_le n, hpower, hthermal, fun j' hj' => absurd hj' (Nat.not_lt_zero j')⟩
    · have hstep : ∀ j, i + (j + 1) = i + 1 + j := fun j => by omega
      refine ⟨j + 1, by omega, ?_, ?_, ?_⟩
      · rw [hstep]
        exact hpower
      · rw [hstep]
        exact hthermal
      · intro j' hj'
        cases j' with
        | zero => exact hfirst
        | succ j' =>
            rw [hstep]
            exact hbefore j' (Nat.lt_of_succ_lt_succ hj')

/-- A failed mitigation is no fine round. -/
theorem powerFine_of_mitigationFails {i : Nat} (h : sensors.mitigationFails i = true) :
    sensors.powerFine i = false := by
  unfold PlatformSensors.mitigationFails at h
  cases hpower : sensors.powerFine i with
  | true => rw [hpower] at h; cases h
  | false => rfl

/-- **The loop, from any state with `n` retries left**: it ends after at most `n + 1` rounds, with
everything fine exactly if one of them was and no mitigation failed before. -/
theorem checkLoop_returns (n : Nat) : ∀ {s : CheckState}, s.retryCount = n →
    ∃ s', Returns (fun fuel => loop (checkRound sensors) fuel s) s' ∧
      s'.rounds ≤ s.rounds + n + 1 ∧
      (s'.thermalGood = true ∧ s'.powerGood = true ↔ FineWithin sensors s.rounds n) := by
  induction n with
  | zero =>
      intro s hretry
      rcases checkRound_cases sensors s with
        ⟨hfails, s', hround, hpower, hrounds⟩ | ⟨-, s', hpower, hthermal, -, hrounds, hround⟩
      · refine ⟨s', loop_returns_done hround, by omega, ?_⟩
        rw [fineWithin_iff, hpower, powerFine_of_mitigationFails hfails]
        simp
      · rw [if_neg (by rw [hretry]; simp)] at hround
        refine ⟨s', loop_returns_done hround, by omega, ?_⟩
        rw [fineWithin_iff, hpower, hthermal, and_comm]
        simp
  | succ n ih =>
      intro s hretry
      rcases checkRound_cases sensors s with
        ⟨hfails, s', hround, hpower, hrounds⟩ |
          ⟨hmitigated, s', hpower, hthermal, hretry', hrounds, hround⟩
      · refine ⟨s', loop_returns_done hround, by omega, ?_⟩
        rw [fineWithin_iff, hpower, powerFine_of_mitigationFails hfails, hfails]
        simp
      · by_cases hfine : sensors.powerFine s.rounds = true ∧ sensors.thermalFine s.rounds = true
        · rw [if_neg (by rw [hfine.1, hfine.2]; simp)] at hround
          refine ⟨s', loop_returns_done hround, by omega, ?_⟩
          rw [hpower, hthermal, fineWithin_iff]
          exact ⟨fun _ => Or.inl hfine, fun _ => hfine.symm⟩
        · have hgoesOn : 0 < s.retryCount ∧
              (!sensors.thermalFine s.rounds || !sensors.powerFine s.rounds) = true := by
            refine ⟨by omega, ?_⟩
            rw [← Bool.not_and, Bool.not_eq_true', Bool.eq_false_iff, ne_eq, Bool.and_eq_true,
              and_comm]
            exact hfine
          rw [if_pos hgoesOn] at hround
          obtain ⟨s'', hreturns, hle, hiff⟩ := ih (show s'.retryCount = n by omega)
          refine ⟨s'', loop_returns_next hround hreturns, by omega, ?_⟩
          rw [hiff, hrounds, fineWithin_iff (n := n + 1)]
          simp only [hfine, hmitigated, false_or, Nat.succ_pos, true_and, Nat.add_sub_cancel]

/-- There is no shutdown exactly if both flags are set. -/
theorem outcome_shutdown_iff (s : CheckState) :
    s.outcome.shutdown = none ↔ s.thermalGood = true ∧ s.powerGood = true := by
  unfold CheckState.outcome
  cases s.thermalGood <;> cases s.powerGood <;> simp

variable (sensors) in
/-- **The checks are bounded, and let the boot go on only when they may.** With `R` retries and a
timer event, MsPreBootChecks ends after at most `R + 1` rounds, and without a shutdown exactly if in
one of the first `R + 1` rounds power and temperature are both good or unreadable, and no mitigation
has failed in a round before it. -/
theorem checks_pass_iff {createEvent : EfiStatus} {R : Nat} (hevent : efiError createEvent = false)
    (hR : R < 2147483648) :
    ∃ out, Returns (msPreBootChecks sensors createEvent R) out ∧ out.rounds ≤ R + 1 ∧
      (out.shutdown = none ↔ ∃ i ≤ R, sensors.powerFine i = true ∧ sensors.thermalFine i = true ∧
        ∀ j < i, sensors.mitigationFails j = false) := by
  obtain ⟨s, hreturns, hrounds, hiff⟩ := checkLoop_returns R
    (show (CheckState.mk createEvent true true (toInt32 R) 0 0).retryCount = R from if_pos hR)
  have hrun := hreturns.map CheckState.outcome
  refine ⟨s.outcome, ?_, ?_, ?_⟩
  · obtain ⟨n, hn⟩ := hrun
    refine ⟨n, fun fuel hfuel => ?_⟩
    rw [msPreBootChecks, if_neg (by rw [hevent]; exact Bool.false_ne_true)]
    exact hn fuel hfuel
  · show s.rounds ≤ R + 1
    rw [← Nat.zero_add R]
    exact hrounds
  · rw [outcome_shutdown_iff, hiff, FineWithin]
    simp only [Nat.zero_add]

/-- A system that is too warm in its first two rounds, and low on power in the second. -/
def warmSystem : PlatformSensors where
  systemPowerCheck i := (efiSuccess, i != 1)
  systemPowerMitigate _ := efiSuccess
  systemThermalCheck i := (efiSuccess, decide (2 ≤ i))

/-- Two retries are enough for it, one is not. -/
theorem checks_pass_iff_warm :
    (∃ out, Returns (msPreBootChecks warmSystem efiSuccess 2) out ∧ out.shutdown = none) ∧
    ∃ out, Returns (msPreBootChecks warmSystem efiSuccess 1) out ∧ out.shutdown ≠ none := by
  obtain ⟨out, hout, -, hpass⟩ := checks_pass_iff warmSystem (R := 2) efiError_success (by decide)
  obtain ⟨out', hout', -, hpass'⟩ :=
    checks_pass_iff warmSystem (R := 1) efiError_success (by decide)
  refine ⟨⟨out, hout, hpass.mpr ⟨2, Nat.le_refl 2, by decide, by decide, by decide⟩⟩,
    out', hout', fun h => ?_⟩
  obtain ⟨i, hi, -, hthermal, -⟩ := hpass'.mp h
  have htwo : 2 ≤ i := by simpa [PlatformSensors.thermalFine, warmSystem] using hthermal
  omega

end OemPkg.Boot
