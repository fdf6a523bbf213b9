/-
# OemPkg.Lib.Loop — loops that may not end

A `while` loop is a `body` that in each state either leaves with a result or names the next state.
`loop body fuel s` runs at most `fuel` rounds of it. That the loop ends with a certain result is
`Returns`: every supply of fuel from some point on gives that result. The rules are one for each way
a round goes (`loop_returns_done`, `loop_returns_next`), and that a loop returns one result at most
(`Returns.unique`).

A loop that reads an input in each round is `interact body`: it needs no fuel, it is over when it
leaves or when there is no input left, and then it is still in a state. Its rules are an invariant
with a postcondition (`interact_preserves`), which may speak of the inputs read so far
(`interact_history`), a simulation (`interact_related`) and flags (`interact_iff_along`).
-/
import Mathlib.Tactic.Common

namespace OemPkg.Lib

/-- One round of a loop. -/
inductive Round (σ ρ : Type*) where
  /-- leave the loop with a result -/
  | done (r : ρ)
  /-- go on from a state -/
  | next (s : σ)

section Loop

variable {σ ρ ρ' : Type*}

/-- At most `fuel` rounds of a loop: its result, if it has left by then. -/
def loop (body : σ → Round σ ρ) : (fuel : Nat) → σ → Option ρ
  | 0, _ => none
  | fuel + 1, s =>
      match body s with
      | .done r => some r
      | .next s => loop body fuel s

/-- A computation that is given fuel comes to the result `r`. -/
def Returns (run : Nat → Option ρ) (r : ρ) : Prop := ∃ n, ∀ fuel ≥ n, run fuel = some r

/-- **There is one result at most.** -/
theorem Returns.unique {run : Nat → Option ρ} {r r' : ρ} (h : Returns run r)
    (h' : Returns run r') : r = r' := by
  obtain ⟨n, hn⟩ := h
  obtain ⟨n', hn'⟩ := h'
  have hleft := hn (max n n') (Nat.le_max_left n n')
  rw [hn' (max n n') (Nat.le_max_right n n')] at hleft
  exact (Option.some.inj hleft).symm

/-- What needs no fuel returns. -/
theorem returns_const (r : ρ) : Returns (fun _ => some r) r := ⟨0, fun _ _ => rfl⟩

/-- Work on the result of a computation that returns. -/
theorem Returns.map {run : Nat → Option ρ} {r : ρ} (h : Returns run r) (f : ρ → ρ') :
    Returns (fun fuel => (run fuel).map f) (f r) := by
  obtain ⟨n, hn⟩ := h
  refine ⟨n, fun fuel hfuel => ?_⟩
  show (run fuel).map f = _
  rw [hn fuel hfuel, Option.map_some]

/-- One computation after another. -/
theorem Returns.bind {run : Nat → Option ρ} {r : ρ} (h : Returns run r)
    {f : ρ → Nat → Option ρ'} {r' : ρ'} (h' : Returns (f r) r') :
    Returns (fun fuel => (run fuel).bind fun r => f r fuel) r' := by
  obtain ⟨n, hn⟩ := h
  obtain ⟨n', hn'⟩ := h'
  refine ⟨max n n', fun fuel hfuel => ?_⟩
  show (run fuel).bind _ = _
  rw [hn fuel (Nat.le_trans (Nat.le_max_left n n') hfuel), Option.bind_some]
  exact hn' fuel (Nat.le_trans (Nat.le_max_right n n') hfuel)

variable {body : σ → Round σ ρ} {s : σ}

theorem loop_returns_done {r : ρ} (h : body s = .done r) :
    Returns (fun fuel => loop body fuel s) r := by
  refine ⟨1, fun fuel hfuel => ?_⟩
  obtain ⟨k, rfl⟩ : ∃ k, fuel = k + 1 := ⟨fuel - 1, by omega⟩
  simp only [loop, h]

theorem loop_returns_next {r : ρ} {s' : σ} (h : body s = .next s')
    (hs' : Returns (fun fuel => loop body fuel s') r) :
    Returns (fun fuel => loop body fuel s) r := by
  obtain ⟨n, hn⟩ := hs'
  refine ⟨n + 1, fun fuel hfuel => ?_⟩
  obtain ⟨k, rfl⟩ : ∃ k, fuel = k + 1 := ⟨fuel - 1, by omega⟩
  simp only [loop, h]
  exact hn k (by omega)

end Loop

/-! ## Loops that read an input in each round -/

section Interact

variable {ι σ ρ : Type*}

/-- A loop that reads one input a round: how it has been left, or the state in which it waits for
the next input. -/
def interact (body : ι → σ → Round σ ρ) : List ι → σ → Round σ ρ
  | [], s => .next s
  | i :: is, s =>
      match body i s with
      | .done r => .done r
      | .next s => interact body is s

/-- What holds of a loop that goes on, or of its result. -/
def Round.Holds (I : σ → Prop) (Q : ρ → Prop) : Round σ ρ → Prop
  | .done r => Q r
  | .next s => I s

variable {body : ι → σ → Round σ ρ}

theorem interact_cons_done {i : ι} {s : σ} {r : ρ} (h : body i s = .done r) (is : List ι) :
    interact body (i :: is) s = .done r := by
  rw [interact, h]

theorem interact_cons_next {i : ι} {s s' : σ} (h : body i s = .next s') (is : List ι) :
    interact body (i :: is) s = interact body is s' := by
  rw [interact, h]

/-- **The invariant rule.** What every round keeps, or turns into the postcondition when it leaves.
-/
theorem interact_preserves {I : σ → Prop} {Q : ρ → Prop} :
    ∀ {is : List ι}, (∀ i ∈ is, ∀ s, I s → (body i s).Holds I Q) →
      ∀ {s : σ}, I s → (interact body is s).Holds I Q := by
  intro is
  induction is with
  | nil => intro _ s h; exact h
  | cons i is ih =>
      intro hround s h
      obtain ⟨hfirst, hrest⟩ := List.forall_mem_cons.mp hround
      have hi := hfirst s h
      cases hbody : body i s with
      | done r =>
          rw [interact_cons_done hbody]
          rwa [hbody] at hi
      | next s' =>
          rw [interact_cons_next hbody]
          rw [hbody] at hi
          exact ih hrest hi

/-- The inputs that are read: up to the one in whose round the loop is left. -/
def inputsRead (body : ι → σ → Round σ ρ) : List ι → σ → List ι
  | [], _ => []
  | i :: is, s =>
      i :: match body i s with
        | .done _ => []
        | .next s' => inputsRead body is s'

/-- **The invariant rule with a history.** The invariant and the postcondition may speak of what has
been read. -/
theorem interact_history {I : List ι → σ → Prop} {Q : List ι → ρ → Prop}
    (hround : ∀ past i s, I past s → (body i s).Holds (I (past ++ [i])) (Q (past ++ [i]))) :
    ∀ (is past : List ι) {s : σ}, I past s →
      (interact body is s).Holds (I (past ++ inputsRead body is s))
        (Q (past ++ inputsRead body is s)) := by
  intro is
  induction is with
  | nil =>
      intro past s h
      rw [inputsRead, List.append_nil]
      exact h
  | cons i is ih =>
      intro past s h
      have hi := hround past i s h
      rw [inputsRead]
      cases hbody : body i s with
      | done r =>
          rw [interact_cons_done hbody]
          rwa [hbody] at hi
      | next s' =>
          rw [interact_cons_next hbody]
          rw [hbody] at hi
          have hrest := ih (past ++ [i]) hi
          rwa [List.append_assoc, List.singleton_append] at hrest

/-- Two loops that have come to the same point: both have been left, with results in `Q`, or both
go on, from states in `R`. -/
def Round.Related {α π : Type*} (R : σ → α → Prop) (Q : ρ → π → Prop) :
    Round σ ρ → Round α π → Prop
  | .done r, .done q => Q r q
  | .next s, .next a => R s a
  | .done _, .next _ => False
  | .next _, .done _ => False

/-- **The simulation rule.** Two loops that go together in every round go together. -/
theorem interact_related {α π : Type*} {abstract : ι → α → Round α π} {R : σ → α → Prop}
    {Q : ρ → π → Prop} : ∀ {is : List ι},
      (∀ i ∈ is, ∀ s a, R s a → (body i s).Related R Q (abstract i a)) →
        ∀ {s : σ} {a : α}, R s a →
          (interact body is s).Related R Q (interact abstract is a) := by
  intro is
  induction is with
  | nil => intro _ s a h; exact h
  | cons i is ih =>
      intro hround s a h
      obtain ⟨hfirst, hrest⟩ := List.forall_mem_cons.mp hround
      have hi := hfirst s a h
      cases hbody : body i s with
      | done r =>
          rw [hbody] at hi
          cases habstract : abstract i a with
          | done q =>
              rw [interact_cons_done hbody, interact_cons_done habstract]
              rwa [habstract] at hi
          | next a' =>
              rw [habstract] at hi
              -- one has been left and the other goes on
              exact hi.elim
      | next s' =>
          rw [hbody] at hi
          cases habstract : abstract i a with
          | done q =>
              rw [habstract] at hi
              exact hi.elim
          | next a' =>
              rw [habstract] at hi
              rw [interact_cons_next hbody, interact_cons_next habstract]
              exact ih hrest hi

/-- `P` holds in each round of a run, in the state in which it is taken. -/
def InteractAlong (body : ι → σ → Round σ ρ) (P : ι → σ → Prop) : List ι → σ → Prop
  | [], _ => True
  | i :: is, s =>
      P i s ∧
        match body i s with
        | .done _ => True
        | .next s' => InteractAlong body P is s'

/-- A run that goes on as long as its rounds do. -/
theorem interactAlong_cons_next {P : ι → σ → Prop} {i : ι} {s s' : σ} (h : body i s = .next s')
    (is : List ι) :
    InteractAlong body P (i :: is) s ↔ P i s ∧ InteractAlong body P is s' := by
  rw [InteractAlong, h]

theorem interactAlong_cons_done {P : ι → σ → Prop} {i : ι} {s : σ} {r : ρ}
    (h : body i s = .done r) (is : List ι) : InteractAlong body P (i :: is) s ↔ P i s := by
  rw [InteractAlong, h]
  exact and_iff_left trivial

/-- **The rule for flags.** A property that a round keeps exactly when the round satisfies `P` holds
of a run exactly when it held before and every round has satisfied `P`. -/
theorem interact_iff_along {P : ι → σ → Prop} {I : σ → Prop} {J : ρ → Prop}
    (hround : ∀ i s, (body i s).Holds (fun s' => I s' ↔ I s ∧ P i s) (fun r => J r ↔ I s ∧ P i s)) :
    ∀ (is : List ι) (s : σ),
      (interact body is s).Holds (fun s' => I s' ↔ I s ∧ InteractAlong body P is s)
        (fun r => J r ↔ I s ∧ InteractAlong body P is s) := by
  intro is
  induction is with
  | nil => intro s; exact (and_iff_left trivial).symm
  | cons i is ih =>
      intro s
      have hi := hround i s
      cases hbody : body i s with
      | done r =>
          rw [hbody] at hi
          rw [interact_cons_done hbody, interactAlong_cons_done hbody]
          exact hi
      | next s₁ =>
          rw [hbody] at hi
          rw [interact_cons_next hbody, interactAlong_cons_next hbody]
          have hi' : I s₁ ↔ I s ∧ P i s := hi
          have hrest := ih s₁
          rwa [hi', and_assoc] at hrest

end Interact

end OemPkg.Lib
