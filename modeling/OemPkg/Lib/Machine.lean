/-
# OemPkg.Lib.Machine — request/answer machines, their runs, and simulation between them

A component that serves one request at a time is a `Machine`: a step function from a state and a
request to the next state and an answer. Everything the development says about "every run, of any
length" is said about `Machine.run` and `Machine.answers`, and is proved from facts about one step
by the rules of this file: a relation to an abstract machine that every step preserves carries over
to runs (`Simulates.run`), and the abstract machine predicts the answers (`Simulates.answers`).

A component that some requests start anew is looked at from the last of these on
(`run_upToLast`, `run_sinceLast`).

The abstract machine most used below is the `registerFile`: a family of registers, each of which
always reads back the last value written to it (`registerFile_run`).
-/
import Mathlib.Data.List.DropRight
import Mathlib.Logic.Function.Basic

namespace OemPkg.Lib

/-- A deterministic component: a state, one request at a time, one answer for each request. -/
structure Machine (σ ι ο : Type*) where
  step : σ → ι → σ × ο

namespace Machine

variable {σ α ι κ ο π : Type*}

/-- The state after serving a list of requests, oldest first. -/
def run (M : Machine σ ι ο) : σ → List ι → σ
  | s, [] => s
  | s, i :: is => M.run (M.step s i).1 is

/-- The answers given along a run, oldest first. -/
def answers (M : Machine σ ι ο) : σ → List ι → List ο
  | _, [] => []
  | s, i :: is => (M.step s i).2 :: M.answers (M.step s i).1 is

/-- What an observer of the component sees of a run: each request with its answer. -/
def trace (M : Machine σ ι ο) (s : σ) (is : List ι) : List (ι × ο) :=
  is.zip (M.answers s is)

@[simp] theorem run_cons (M : Machine σ ι ο) (s : σ) (i : ι) (is : List ι) :
    M.run s (i :: is) = M.run (M.step s i).1 is := rfl

@[simp] theorem trace_cons (M : Machine σ ι ο) (s : σ) (i : ι) (is : List ι) :
    M.trace s (i :: is) = (i, (M.step s i).2) :: M.trace (M.step s i).1 is := rfl

theorem run_append (M : Machine σ ι ο) (is js : List ι) :
    ∀ s : σ, M.run s (is ++ js) = M.run (M.run s is) js := by
  induction is with
  | nil => intro s; rfl
  | cons i is ih => intro s; exact ih (M.step s i).1

/-- A run of the requests that are picked out of a list, from the first element on. -/
theorem run_filterMap_cons (M : Machine σ ι ο) (f : κ → Option ι) (k : κ) (ks : List κ) (s : σ) :
    M.run s ((k :: ks).filterMap f) = M.run (M.run s (f k).toList) (ks.filterMap f) := by
  cases hk : f k with
  | none => rw [List.filterMap_cons_none hk]; rfl
  | some i => rw [List.filterMap_cons_some hk]; rfl

theorem answers_append (M : Machine σ ι ο) (is js : List ι) :
    ∀ s : σ, M.answers s (is ++ js) = M.answers s is ++ M.answers (M.run s is) js := by
  induction is with
  | nil => intro s; rfl
  | cons i is ih => intro s; exact congrArg _ (ih (M.step s i).1)

/-- **The invariant rule.** What every step preserves, every run preserves. -/
theorem run_preserves (M : Machine σ ι ο) {I : σ → Prop}
    (hstep : ∀ s i, I s → I (M.step s i).1) : ∀ (is : List ι) {s : σ}, I s → I (M.run s is) := by
  intro is
  induction is with
  | nil => intro s h; exact h
  | cons i is ih => intro s h; exact ih (hstep s i h)

/-- The same for what the state and the answers so far have in common. -/
theorem run_answers_preserves (M : Machine σ ι ο) {I : σ → List ο → Prop}
    (hstep : ∀ s answered i, I s answered → I (M.step s i).1 (answered ++ [(M.step s i).2])) :
    ∀ (is : List ι) {s : σ} (answered : List ο), I s answered →
      I (M.run s is) (answered ++ M.answers s is) := by
  intro is
  induction is with
  | nil => intro s answered h; exact (List.append_nil answered).symm ▸ h
  | cons i is ih =>
      intro s answered h
      have hrest := ih _ (hstep s answered i h)
      rwa [List.append_assoc, List.singleton_append] at hrest

/-- Every step of the run satisfies `P`, in the state in which it is taken. -/
def Along (M : Machine σ ι ο) (P : σ → ι → Prop) : σ → List ι → Prop
  | _, [] => True
  | s, i :: is => P s i ∧ M.Along P (M.step s i).1 is

instance decidableAlong (M : Machine σ ι ο) (P : σ → ι → Prop) [∀ s i, Decidable (P s i)] :
    ∀ s is, Decidable (M.Along P s is)
  | _, [] => .isTrue trivial
  | s, i :: is =>
      have := decidableAlong M P (M.step s i).1 is
      inferInstanceAs (Decidable (P s i ∧ M.Along P (M.step s i).1 is))

/-- A property of all answers is one of all steps. -/
theorem forall_mem_answers (M : Machine σ ι ο) (P : ο → Prop) : ∀ (is : List ι) (s : σ),
    (∀ o ∈ M.answers s is, P o) ↔ M.Along (fun s i => P (M.step s i).2) s is := by
  intro is
  induction is with
  | nil => intro s; exact iff_of_true (fun o ho => absurd ho List.not_mem_nil) trivial
  | cons i is ih =>
      intro s
      exact List.forall_mem_cons.trans (and_congr_right' (ih (M.step s i).1))

/-- **The rule for properties of steps.** Under an invariant that the steps with `R` preserve, two
properties that agree on each such step agree along every run of them. -/
theorem along_congr (M : Machine σ ι ο) {I : σ → Prop} {P Q R : σ → ι → Prop}
    (hstep : ∀ s i, I s → R s i → I (M.step s i).1) (h : ∀ s i, I s → R s i → (P s i ↔ Q s i)) :
    ∀ (is : List ι) {s : σ}, I s → M.Along R s is → (M.Along P s is ↔ M.Along Q s is) := by
  intro is
  induction is with
  | nil => intro s _ _; exact Iff.rfl
  | cons i is ih =>
      intro s hI hR
      exact and_congr (h s i hI hR.1) (ih (hstep s i hI hR.1) hR.2)

/-- **The rule for flags.** A property of states that a step keeps exactly when the step satisfies
`P` holds after a run exactly when it held before and every step has satisfied `P`. -/
theorem run_iff_along (M : Machine σ ι ο) {I : σ → Prop} {P : σ → ι → Prop}
    (hstep : ∀ s i, I (M.step s i).1 ↔ I s ∧ P s i) :
    ∀ (is : List ι) {s : σ}, I (M.run s is) ↔ I s ∧ M.Along P s is := by
  intro is
  induction is with
  | nil => intro s; exact (and_iff_left trivial).symm
  | cons i is ih =>
      intro s
      rw [run_cons, ih, hstep, and_assoc]
      exact Iff.rfl

/-- **The rule for one-shot triggers.** A trigger is armed until the first request that fires it,
and records what that request gives it. Over a run it records what the first such request gives. -/
theorem oneShot {τ : Type*} (M : Machine σ ι ο) (armed : σ → Bool) (record : σ → List τ)
    (fires : ι → Option (List τ))
    (harmed : ∀ s i, armed (M.step s i).1 = (armed s && (fires i).isNone))
    (hrecord : ∀ s i, record (M.step s i).1 =
      record s ++ if armed s then (fires i).getD [] else []) :
    ∀ (is : List ι) (s : σ), record (M.run s is) =
      record s ++ if armed s then (is.findSome? fires).getD [] else [] := by
  intro is
  induction is with
  | nil => intro s; rw [List.findSome?_nil, Option.getD_none, ite_self, List.append_nil]; rfl
  | cons i is ih =>
      intro s
      rw [run_cons, ih, hrecord, harmed, List.findSome?_cons]
      cases armed s with
      | false => simp only [Bool.false_and, Bool.false_eq_true, if_false, List.append_nil]
      | true =>
          cases fires i with
          | none =>
              simp only [Option.isNone_none, Bool.and_self, if_true, Option.getD_none,
                List.append_nil]
          | some actions =>
              simp only [Option.isNone_some, Bool.and_false, Bool.false_eq_true, if_false, if_true,
                Option.getD_some, List.append_nil]

/-- The last value that the steps of a run write, if any of them does. -/
def lastAlong {τ : Type*} (M : Machine σ ι ο) (write : σ → ι → Option τ) : σ → List ι → Option τ
  | _, [] => none
  | s, i :: is => (M.lastAlong write (M.step s i).1 is).or (write s i)

/-- **The rule for registers.** Under an invariant, what each step writes or leaves alone is at the
end of a run what the last step to write it has written. -/
theorem run_last {τ : Type*} (M : Machine σ ι ο) {I : σ → Prop} (read : σ → Option τ)
    (write : σ → ι → Option τ) (hinv : ∀ s i, I s → I (M.step s i).1)
    (hstep : ∀ s i, I s → read (M.step s i).1 = (write s i).or (read s)) :
    ∀ (is : List ι) {s : σ}, I s → read (M.run s is) = (M.lastAlong write s is).or (read s) := by
  intro is
  induction is with
  | nil => intro s _; rfl
  | cons i is ih =>
      intro s h
      rw [run_cons, ih (hinv s i h), hstep s i h, lastAlong, Option.or_assoc]

/-- The last step to write is some step of the run, with none after it. -/
theorem lastAlong_eq_some_iff {τ : Type*} (M : Machine σ ι ο) {write : σ → ι → Option τ} {x : τ} :
    ∀ {is : List ι} {s : σ}, M.lastAlong write s is = some x ↔ ∃ before i after,
      is = before ++ i :: after ∧ write (M.run s before) i = some x ∧
        M.lastAlong write (M.step (M.run s before) i).1 after = none := by
  intro is
  induction is with
  | nil =>
      intro s
      constructor
      · intro h
        cases h
      · rintro ⟨before, i, after, h, -⟩
        exact absurd h.symm (List.append_ne_nil_of_right_ne_nil before (List.cons_ne_nil i after))
  | cons i is ih =>
      intro s
      rw [lastAlong, Option.or_eq_some_iff, ih]
      constructor
      · rintro (⟨before, j, after, rfl, hwrite, hlast⟩ | ⟨hnone, hwrite⟩)
        · exact ⟨i :: before, j, after, rfl, hwrite, hlast⟩
        · exact ⟨[], i, is, rfl, hwrite, hnone⟩
      · rintro ⟨before, j, after, h, hwrite, hlast⟩
        cases before with
        | nil =>
            obtain ⟨rfl, rfl⟩ := List.cons.inj h
            exact .inr ⟨hlast, hwrite⟩
        | cons j' before =>
            obtain ⟨rfl, rfl⟩ := List.cons.inj h
            exact .inl ⟨before, j, after, rfl, hwrite, hlast⟩

private theorem countP_cons_toNat {τ : Type*} (p : τ → Bool) (x : τ) (xs : List τ) :
    (x :: xs).countP p = xs.countP p + (p x).toNat := by
  rw [List.countP_cons]
  cases p x <;> rfl

/-- **The amortisation rule.** If every step that spends takes it from a step that earns, directly
or out of what has been saved, then a run spends no more often than it earns. -/
theorem countP_trace_le (M : Machine σ ι ο) {earns : ι → Bool} {spends : ι × ο → Bool}
    (saved : σ → Nat)
    (hstep : ∀ s i, (spends (i, (M.step s i).2)).toNat + saved (M.step s i).1 ≤
      (earns i).toNat + saved s) :
    ∀ (is : List ι) (s : σ),
      (M.trace s is).countP spends + saved (M.run s is) ≤ is.countP earns + saved s := by
  intro is
  induction is with
  | nil => intro s; exact Nat.le_refl _
  | cons i is ih =>
      intro s
      have hfirst := hstep s i
      have hrest := ih (M.step s i).1
      rw [trace_cons, run_cons, countP_cons_toNat, countP_cons_toNat]
      omega

/-! ### Restarts -/

/-- The requests up to the last one that restarts the component, with it; none if none does. -/
def upToLast (restarts : ι → Bool) (is : List ι) : List ι := is.rdropWhile fun i => !restarts i

/-- The requests after it. -/
def sinceLast (restarts : ι → Bool) (is : List ι) : List ι := is.rtakeWhile fun i => !restarts i

theorem upToLast_append_sinceLast (restarts : ι → Bool) (is : List ι) :
    upToLast restarts is ++ sinceLast restarts is = is :=
  List.rdropWhile_append_rtakeWhile

theorem restarts_of_mem_sinceLast {restarts : ι → Bool} {is : List ι} {i : ι}
    (h : i ∈ sinceLast restarts is) : restarts i = false := by
  have hnot := List.mem_rtakeWhile_imp h
  rwa [Bool.not_eq_true'] at hnot

theorem run_sinceLast (M : Machine σ ι ο) (restarts : ι → Bool) (is : List ι) (s : σ) :
    M.run s is = M.run (M.run s (upToLast restarts is)) (sinceLast restarts is) := by
  rw [← run_append, upToLast_append_sinceLast]

/-- **The rule for restarts.** What holds at first and after each restart holds where the requests
since the last one begin. -/
theorem run_upToLast (M : Machine σ ι ο) {restarts : ι → Bool} {I : σ → Prop}
    (hrestart : ∀ s i, restarts i = true → I (M.step s i).1) (is : List ι) {s : σ} (h : I s) :
    I (M.run s (upToLast restarts is)) := by
  rcases List.eq_nil_or_concat' (upToLast restarts is) with hnil | ⟨before, i, hlast⟩
  · rw [hnil]
    exact h
  · have hne : upToLast restarts is ≠ [] := by
      rw [hlast]
      exact List.append_ne_nil_of_right_ne_nil _ (List.cons_ne_nil _ _)
    have hget : (upToLast restarts is).getLast hne = i := by
      simp only [hlast, List.getLast_append_singleton]
    have hnot : ¬ (!restarts ((upToLast restarts is).getLast hne)) = true :=
      List.rdropWhile_last_not (fun i => !restarts i) is hne
    rw [hget, Bool.not_eq_true', Bool.not_eq_false] at hnot
    rw [hlast, run_append]
    exact hrestart _ _ hnot

/-- `R` is a simulation of `M` by the abstract machine `A`: it survives every step, with requests
translated by `f` and `M`'s answers seen through `view`. -/
structure Simulates (M : Machine σ ι ο) (A : Machine α κ π) (f : ι → κ) (view : ο → π)
    (R : σ → α → Prop) : Prop where
  step : ∀ {s a} (i : ι), R s a → R (M.step s i).1 (A.step a (f i)).1
  answer : ∀ {s a} (i : ι), R s a → view (M.step s i).2 = (A.step a (f i)).2

namespace Simulates

variable {M : Machine σ ι ο} {A : Machine α κ π} {f : ι → κ} {view : ο → π} {R : σ → α → Prop}

/-- **The simulation rule for runs.** -/
theorem run (h : Simulates M A f view R) :
    ∀ (is : List ι) {s : σ} {a : α}, R s a → R (M.run s is) (A.run a (is.map f)) := by
  intro is
  induction is with
  | nil => intro s a hR; exact hR
  | cons i is ih => intro s a hR; exact ih (h.step i hR)

/-- **The simulation rule for answers.** The abstract machine predicts every answer of the run. -/
theorem answers (h : Simulates M A f view R) :
    ∀ (is : List ι) {s : σ} {a : α}, R s a →
      (M.answers s is).map view = A.answers a (is.map f) := by
  intro is
  induction is with
  | nil => intro s a _; rfl
  | cons i is ih =>
      intro s a hR
      simp only [Machine.answers, List.map_cons, h.answer i hR, ih (h.step i hR)]

end Simulates

end Machine

/-! ## Registers -/

/-- The requests a family of registers serves. `idle` touches no register. -/
inductive RegisterRequest (κ β : Type*) where
  | write (k : κ) (v : β)
  | read (k : κ)
  | idle
  deriving Repr

section Registers

variable {κ β : Type*} [DecidableEq κ]

/-- A family of registers: a read answers with the register's value. -/
def registerFile : Machine (κ → β) (RegisterRequest κ β) (Option β) where
  step r
    | .write k v => (Function.update r k v, none)
    | .read k => (r, some (r k))
    | .idle => (r, none)

/-- The last value the requests write to register `k`, if any of them does. -/
def lastWrite (k : κ) : List (RegisterRequest κ β) → Option β
  | [] => none
  | .write k' v :: is => (lastWrite k is).or (if k' = k then some v else none)
  | .read _ :: is => lastWrite k is
  | .idle :: is => lastWrite k is

/-- **A register holds the last value written to it**, or its first value if nothing was. -/
theorem registerFile_run (k : κ) :
    ∀ (is : List (RegisterRequest κ β)) (r : κ → β),
      registerFile.run r is k = (lastWrite k is).getD (r k) := by
  intro is
  induction is with
  | nil => intro r; rfl
  | cons i is ih =>
      intro r
      rw [Machine.run_cons, ih]
      cases i with
      | write k' v =>
          by_cases hk : k' = k
          · subst hk
            cases h : lastWrite k' is <;> simp [registerFile, lastWrite, h]
          · have hk' : k ≠ k' := fun h => hk h.symm
            cases h : lastWrite k is <;> simp [registerFile, lastWrite, h, hk, hk']
      | read k' => rfl
      | idle => rfl

end Registers

end OemPkg.Lib
