/-
# OemPkg.Lib.Looking — computations that look at memory and may not end

`Looking α` is a computation that is given a number of rounds. With enough of them it comes to a
value and the bytes it has looked at; more rounds change nothing, which is a field of the structure.
`Yields x a` says all that one wants of such a computation: it ends, with the value `a`, and every
byte it has looked at lies in its block. The rules follow the operations (`yields_pure`,
`yields_bind`, `yields_read`), and a loop has one for a round of it (`yields_loop`) and one for the
induction (`Yields.loop_induction`).
-/
import OemPkg.Lib.Accesses
import OemPkg.Lib.Loop

namespace OemPkg.Lib

universe u

/-- A computation that may not end: its outcome, if it has ended within a number of rounds. -/
structure Looking (α : Type u) where
  run : Nat → Option (Recorded α)
  mono : ∀ {n r}, run n = some r → run (n + 1) = some r

namespace Looking

variable {α β σ ρ : Type u}

/-- Looking at what `x` has looked at as well. -/
def andThen (x : Recorded β) (y : Option (Recorded α)) : Option (Recorded α) :=
  y.map fun r => ⟨r.value, x.accesses ++ r.accesses⟩

theorem andThen_eq_some {x : Recorded β} {y : Option (Recorded α)} {r : Recorded α} :
    andThen x y = some r ↔ ∃ r', y = some r' ∧ r = ⟨r'.value, x.accesses ++ r'.accesses⟩ := by
  rw [andThen, Option.map_eq_some_iff]
  exact exists_congr fun r' => and_congr_right' eq_comm

instance : Monad Looking where
  pure a := ⟨fun _ => some (pure a), id⟩
  bind x f := ⟨fun n => (x.run n).bind fun r => andThen r ((f r.value).run n), by
    intro n r h
    obtain ⟨r₁, hx, h⟩ := Option.bind_eq_some_iff.mp h
    obtain ⟨r₂, hf, h⟩ := andThen_eq_some.mp h
    rw [x.mono hx, Option.bind_some, (f r₁.value).mono hf]
    exact congrArg some h.symm⟩

/-- A computation that ends in any case. -/
def ofRecorded (x : Recorded α) : Looking α := ⟨fun _ => some x, id⟩

/-- A read of `w` bytes at `off`. -/
def read (beyond : Nat → UInt8) (b : Bytes) (off w : Nat) : Looking Bytes :=
  ofRecorded (Recorded.read beyond b off w)

/-- At most `n` rounds of a loop. -/
def loopRun (body : σ → Looking (Round σ ρ)) : Nat → σ → Option (Recorded ρ)
  | 0, _ => none
  | n + 1, s => ((body s).run n).bind fun r =>
      match r.value with
      | .done v => some ⟨v, r.accesses⟩
      | .next s' => andThen r (loopRun body n s')

theorem loopRun_mono (body : σ → Looking (Round σ ρ)) (n : Nat) :
    ∀ {s : σ} {r : Recorded ρ}, loopRun body n s = some r → loopRun body (n + 1) s = some r := by
  induction n with
  | zero => intro s r h; cases h
  | succ n ih =>
      intro s r h
      obtain ⟨r₁, hbody, h⟩ := Option.bind_eq_some_iff.mp h
      rw [loopRun, (body s).mono hbody, Option.bind_some]
      cases hround : r₁.value with
      | done v =>
          rw [hround] at h
          exact h
      | next s' =>
          rw [hround] at h
          obtain ⟨r₂, hrest, h⟩ := andThen_eq_some.mp h
          exact andThen_eq_some.mpr ⟨r₂, ih hrest, h⟩

/-- A loop. -/
def loop (body : σ → Looking (Round σ ρ)) (s : σ) : Looking ρ :=
  ⟨fun n => loopRun body n s, fun {n _} h => loopRun_mono body n h⟩

theorem run_mono (x : Looking α) {m n : Nat} (h : m ≤ n) {r : Recorded α} (hr : x.run m = some r) :
    x.run n = some r := by
  obtain ⟨d, rfl⟩ := Nat.exists_eq_add_of_le h
  clear h
  induction d with
  | zero => exact hr
  | succ d ih => exact x.mono ih

/-! ## What a computation yields -/

/-- **The computation ends with the value `a`**, and has looked at nothing outside its blocks. -/
def Yields (x : Looking α) (a : α) : Prop := ∃ n r, x.run n = some r ∧ r.value = a ∧ r.InBounds

/-- The computation ends with the value `a`, whatever it has looked at. -/
def Ends (x : Looking α) (a : α) : Prop := ∃ n r, x.run n = some r ∧ r.value = a

theorem Ends.unique {x : Looking α} {a b : α} (ha : x.Ends a) (hb : x.Ends b) : a = b := by
  obtain ⟨m, r, hr, rfl⟩ := ha
  obtain ⟨n, r', hr', rfl⟩ := hb
  have h := x.run_mono (Nat.le_max_left m n) hr
  rw [x.run_mono (Nat.le_max_right m n) hr'] at h
  rw [Option.some.inj h]

theorem Yields.ends {x : Looking α} {a : α} (h : x.Yields a) : x.Ends a := by
  obtain ⟨n, r, hr, hvalue, -⟩ := h
  exact ⟨n, r, hr, hvalue⟩

/-- There is one value at most. -/
theorem Yields.unique {x : Looking α} {a b : α} (ha : x.Yields a) (hb : x.Yields b) : a = b :=
  ha.ends.unique hb.ends

theorem ends_pure (a : α) : (pure a : Looking α).Ends a := ⟨0, pure a, rfl, rfl⟩

theorem ends_read (beyond : Nat → UInt8) (b : Bytes) (off w : Nat) :
    (read beyond b off w).Ends (readPast beyond b off w) := ⟨0, _, rfl, rfl⟩

theorem Ends.bind {x : Looking α} {f : α → Looking β} {a : α} {b : β} (hx : x.Ends a)
    (hf : (f a).Ends b) : (x >>= f).Ends b := by
  obtain ⟨m, r₁, hr₁, rfl⟩ := hx
  obtain ⟨n, r₂, hr₂, hvalue⟩ := hf
  refine ⟨max m n, ⟨r₂.value, r₁.accesses ++ r₂.accesses⟩, ?_, hvalue⟩
  refine Option.bind_eq_some_iff.mpr ⟨r₁, x.run_mono (Nat.le_max_left m n) hr₁, ?_⟩
  exact andThen_eq_some.mpr ⟨r₂, run_mono _ (Nat.le_max_right m n) hr₂, rfl⟩

theorem inBounds_append {x : Recorded β} {y : Recorded α} :
    (⟨y.value, x.accesses ++ y.accesses⟩ : Recorded α).InBounds ↔ x.InBounds ∧ y.InBounds :=
  List.forall_mem_append

@[simp] theorem yields_ofRecorded {x : Recorded α} {a : α} :
    (ofRecorded x).Yields a ↔ x.value = a ∧ x.InBounds := by
  constructor
  · rintro ⟨n, r, hr, hvalue, hin⟩
    cases hr
    exact ⟨hvalue, hin⟩
  · rintro ⟨hvalue, hin⟩
    exact ⟨0, x, rfl, hvalue, hin⟩

@[simp] theorem yields_pure {a b : α} : (pure a : Looking α).Yields b ↔ a = b := by
  constructor
  · rintro ⟨n, r, hr, rfl, -⟩
    cases hr
    rfl
  · rintro rfl
    exact ⟨0, pure a, rfl, rfl, Recorded.inBounds_pure a⟩

/-- **A read yields the bytes of its window**, if this ends inside the block. -/
theorem yields_read {beyond : Nat → UInt8} {b : Bytes} {off w : Nat} (hw : 0 < w) {data : Bytes} :
    (read beyond b off w).Yields data ↔ off + w ≤ b.length ∧ data = slice off w b := by
  rw [read, yields_ofRecorded, Recorded.inBounds_read hw, Recorded.value_read]
  constructor
  · rintro ⟨rfl, h⟩
    exact ⟨h, readPast_eq_slice h⟩
  · rintro ⟨h, rfl⟩
    exact ⟨readPast_eq_slice h, h⟩

/-- **One after the other.** -/
theorem yields_bind {x : Looking α} {f : α → Looking β} {b : β} :
    (x >>= f).Yields b ↔ ∃ a, x.Yields a ∧ (f a).Yields b := by
  constructor
  · rintro ⟨n, r, hr, hvalue, hin⟩
    obtain ⟨r₁, hx, h⟩ := Option.bind_eq_some_iff.mp hr
    obtain ⟨r₂, hf, rfl⟩ := andThen_eq_some.mp h
    obtain ⟨hin₁, hin₂⟩ := inBounds_append.mp hin
    exact ⟨r₁.value, ⟨n, r₁, hx, rfl, hin₁⟩, n, r₂, hf, hvalue, hin₂⟩
  · rintro ⟨a, ⟨m, r₁, hx, rfl, hin₁⟩, n, r₂, hf, hvalue, hin₂⟩
    refine ⟨max m n, ⟨r₂.value, r₁.accesses ++ r₂.accesses⟩, ?_, hvalue,
      inBounds_append.mpr ⟨hin₁, hin₂⟩⟩
    refine Option.bind_eq_some_iff.mpr ⟨r₁, x.run_mono (Nat.le_max_left m n) hx, ?_⟩
    exact andThen_eq_some.mpr ⟨r₂, run_mono _ (Nat.le_max_right m n) hf, rfl⟩

theorem yields_ite {c : Prop} [Decidable c] {x y : Looking α} {a : α} :
    (if c then x else y).Yields a ↔ if c then x.Yields a else y.Yields a := by
  split_ifs
  · exact Iff.rfl
  · exact Iff.rfl

section Loop

variable {body : σ → Looking (Round σ ρ)} {s : σ} {v : ρ}

/-- **A round of a loop**: it is the last one, or the loop goes on. -/
theorem yields_loop : (loop body s).Yields v ↔
    (body s).Yields (.done v) ∨ ∃ s', (body s).Yields (.next s') ∧ (loop body s').Yields v := by
  constructor
  · rintro ⟨n, r, hr, hvalue, hin⟩
    cases n with
    | zero => cases hr
    | succ n =>
        obtain ⟨r₁, hbody, h⟩ := Option.bind_eq_some_iff.mp hr
        cases hround : r₁.value with
        | done w =>
            rw [hround] at h
            cases h
            cases hvalue
            exact Or.inl ⟨n, r₁, hbody, hround, hin⟩
        | next s' =>
            rw [hround] at h
            obtain ⟨r₂, hrest, rfl⟩ := andThen_eq_some.mp h
            obtain ⟨hin₁, hin₂⟩ := inBounds_append.mp hin
            exact Or.inr ⟨s', ⟨n, r₁, hbody, hround, hin₁⟩, n, r₂, hrest, hvalue, hin₂⟩
  · rintro (⟨n, r, hr, hvalue, hin⟩ |
      ⟨s', ⟨m, r₁, hbody, hround, hin₁⟩, n, r₂, hrest, hvalue, hin₂⟩)
    · refine ⟨n + 1, ⟨v, r.accesses⟩, ?_, rfl, hin⟩
      refine Option.bind_eq_some_iff.mpr ⟨r, hr, ?_⟩
      rw [hvalue]
    · refine ⟨max m n + 1, ⟨r₂.value, r₁.accesses ++ r₂.accesses⟩, ?_, hvalue,
        inBounds_append.mpr ⟨hin₁, hin₂⟩⟩
      refine Option.bind_eq_some_iff.mpr ⟨r₁, run_mono _ (Nat.le_max_left m n) hbody, ?_⟩
      rw [hround]
      exact andThen_eq_some.mpr ⟨r₂, run_mono (loop body s') (Nat.le_max_right m n) hrest, rfl⟩

/-- **The induction rule.** What holds of a last round, and of a state when it holds of the next
one, holds of every state from which the loop yields a value. -/
theorem Yields.loop_induction {P : σ → ρ → Prop}
    (hdone : ∀ s v, (body s).Yields (.done v) → P s v)
    (hnext : ∀ s s' v, (body s).Yields (.next s') → P s' v → P s v)
    (h : (loop body s).Yields v) : P s v := by
  obtain ⟨n, r, hr, hvalue, hin⟩ := h
  induction n generalizing s r with
  | zero => cases hr
  | succ n ih =>
      obtain ⟨r₁, hbody, h⟩ := Option.bind_eq_some_iff.mp hr
      cases hround : r₁.value with
      | done w =>
          rw [hround] at h
          cases h
          cases hvalue
          exact hdone s w ⟨n, r₁, hbody, hround, hin⟩
      | next s' =>
          rw [hround] at h
          obtain ⟨r₂, hrest, rfl⟩ := andThen_eq_some.mp h
          obtain ⟨hin₁, hin₂⟩ := inBounds_append.mp hin
          exact hnext s s' v ⟨n, r₁, hbody, hround, hin₁⟩ (ih r₂ hrest hvalue hin₂)

end Loop

end Looking

end OemPkg.Lib
