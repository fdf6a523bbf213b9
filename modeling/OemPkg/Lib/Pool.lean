/-
# OemPkg.Lib.Pool — a pool of blocks, live and released

Blocks are numbered in the order of their allocation. A released block is no longer live; nothing
keeps a program from releasing it again, so the releases are a list and not a set. `ReleasesOnce`
says of two states of a pool that the blocks allocated in between have been released once each, and
no others.
-/
import OemPkg.Lib.Bytes
import Mathlib.Data.List.Nodup
import Mathlib.Logic.Function.Basic

namespace OemPkg.Lib

/-- A pool: the live blocks with their contents, and the blocks released so far. -/
structure Pool where
  live : Nat → Option Bytes
  released : List Nat
  next : Nat

namespace Pool

/-- AllocatePool, with the contents the new block happens to have. -/
def allocatePool (contents : Bytes) (p : Pool) : Nat × Pool :=
  (p.next, ⟨Function.update p.live p.next (some contents), p.released, p.next + 1⟩)

/-- FreePool -/
def freePool (b : Nat) (p : Pool) : Pool :=
  { p with live := Function.update p.live b none, released := p.released ++ [b] }

/-- The block `b` with other contents. -/
def fill (b : Nat) (contents : Bytes) (p : Pool) : Pool :=
  { p with live := Function.update p.live b (some contents) }

/-- **The blocks allocated between `p` and `p'` have been released once**, and no others. -/
def ReleasesOnce (p p' : Pool) : Prop :=
  ∀ b, p'.released.count b = p.released.count b + if p.next ≤ b ∧ b < p'.next then 1 else 0

@[simp] theorem fill_live (b : Nat) (contents : Bytes) (p : Pool) :
    (p.fill b contents).live b = some contents := Function.update_self ..

/-- One block is allocated between `p` and `p'`, and released so many times. -/
def ReleasesNew (p p' : Pool) (times : Nat) : Prop :=
  p'.released = p.released ++ List.replicate times p.next ∧ p'.next = p.next + 1

/-- Nothing is allocated and nothing released. -/
theorem releasesOnce_of_unchanged {p p' : Pool} (hreleased : p'.released = p.released)
    (hnext : p'.next = p.next) : ReleasesOnce p p' := by
  intro b
  rw [hreleased, hnext, if_neg (by omega), Nat.add_zero]

/-- A new block must have been released, and once. -/
theorem ReleasesNew.releasesOnce_iff {p p' : Pool} {times : Nat} (h : ReleasesNew p p' times) :
    ReleasesOnce p p' ↔ times = 1 := by
  obtain ⟨hreleased, hnext⟩ := h
  have hcount : ∀ b, p'.released.count b =
      p.released.count b + if p.next = b then times else 0 := by
    intro b
    rw [hreleased, List.count_append, List.count_replicate]
    simp only [beq_iff_eq]
  constructor
  · intro h
    have hown := h p.next
    rw [hcount, hnext, if_pos rfl, if_pos (by omega)] at hown
    omega
  · rintro rfl b
    rw [hcount, hnext]
    by_cases hb : p.next = b
    · rw [if_pos hb, if_pos (by omega)]
    · rw [if_neg hb, if_neg (by omega)]

end Pool

/-! ## What a program does with a pool -/

/-- An allocation, or a release through a pointer, which may be NULL. -/
inductive PoolEvent where
  | allocates (b : Nat)
  | frees (p : Option Nat)
  deriving DecidableEq, Repr

/-- The blocks a program owns after such events, if it has owned `own` before: those it has
allocated and not released. -/
def ownedAfter : (own : List Nat) → List PoolEvent → List Nat
  | own, [] => own
  | own, .allocates b :: events => ownedAfter (b :: own) events
  | own, .frees none :: events => ownedAfter own events
  | own, .frees (some b) :: events => ownedAfter (own.erase b) events

/-- **Only what is owned is released**: each release is of a block that was allocated before and has
not been released since. -/
def FreesOwn : (own : List Nat) → List PoolEvent → Prop
  | _, [] => True
  | own, .allocates b :: events => FreesOwn (b :: own) events
  | _, .frees none :: _ => False
  | own, .frees (some b) :: events => b ∈ own ∧ FreesOwn (own.erase b) events

theorem freesOwn_append (events events' : List PoolEvent) :
    ∀ {own : List Nat}, FreesOwn own (events ++ events') ↔
      FreesOwn own events ∧ FreesOwn (ownedAfter own events) events' := by
  induction events with
  | nil => intro own; exact ⟨fun h => ⟨trivial, h⟩, fun h => h.2⟩
  | cons e events ih =>
      intro own
      cases e with
      | allocates b => exact ih
      | frees p =>
          cases p with
          | none => exact iff_of_false id fun h => h.1
          | some b => exact (and_congr_right' ih).trans and_assoc.symm

theorem ownedAfter_append (events events' : List PoolEvent) :
    ∀ {own : List Nat},
      ownedAfter own (events ++ events') = ownedAfter (ownedAfter own events) events' := by
  induction events with
  | nil => intro own; rfl
  | cons e events ih =>
      intro own
      cases e with
      | allocates b => exact ih
      | frees p =>
          cases p with
          | none => exact ih
          | some b => exact ih

/-- The blocks that are allocated, in order. -/
def allocations (events : List PoolEvent) : List Nat :=
  events.filterMap fun
    | .allocates b => some b
    | .frees _ => none

/-- The blocks that are released, in order. -/
def releases (events : List PoolEvent) : List Nat :=
  events.filterMap fun
    | .allocates _ => none
    | .frees p => p

@[simp] theorem allocations_append (events events' : List PoolEvent) :
    allocations (events ++ events') = allocations events ++ allocations events' :=
  List.filterMap_append

@[simp] theorem releases_append (events events' : List PoolEvent) :
    releases (events ++ events') = releases events ++ releases events' :=
  List.filterMap_append

/-- **Nothing gets lost in the count**: what was owned and what is allocated has been released or is
still owned. -/
theorem FreesOwn.perm (events : List PoolEvent) : ∀ {own : List Nat}, FreesOwn own events →
    (own ++ allocations events).Perm (releases events ++ ownedAfter own events) := by
  induction events with
  | nil =>
      intro own _
      show (own ++ []).Perm own
      rw [List.append_nil]
  | cons e events ih =>
      intro own h
      cases e with
      | allocates b => exact List.perm_middle.trans (ih h)
      | frees p =>
          cases p with
          | none => exact h.elim
          | some b =>
              have hown : own.Perm (b :: own.erase b) := List.perm_cons_erase h.1
              exact (hown.append_right _).trans ((ih h.2).cons b)

/-- **Each block is released once or still owned**, if none is allocated twice. -/
theorem FreesOwn.count_releases {events : List PoolEvent} (h : FreesOwn [] events)
    (hnodup : (allocations events).Nodup) {b : Nat} (hb : b ∈ allocations events) :
    (b ∈ ownedAfter [] events → (releases events).count b = 0) ∧
      (b ∉ ownedAfter [] events → (releases events).count b = 1) := by
  have hcount := (FreesOwn.perm events h).count_eq b
  rw [List.nil_append, List.count_append, List.count_eq_one_of_mem hnodup hb] at hcount
  constructor
  · intro howned
    have hpos := List.count_pos_iff.mpr howned
    omega
  · intro hnot
    rw [List.count_eq_zero_of_not_mem hnot] at hcount
    exact hcount.symm

/-- Events after which nothing is owned, if nothing was owned before, and which release only what is
owned exactly when `P` holds. -/
structure Balanced (events : List PoolEvent) (P : Prop) : Prop where
  safe : FreesOwn [] events ↔ P
  settled : P → ownedAfter [] events = []

theorem balanced_nil : Balanced [] True := ⟨Iff.rfl, fun _ => rfl⟩

/-- A block that is allocated and then released. -/
theorem balanced_pair (b : Nat) : Balanced [.allocates b, .frees (some b)] True where
  safe := iff_true_intro ⟨List.mem_cons_self, trivial⟩
  settled := fun _ => List.erase_cons_head b []

/-- Nothing can be released while nothing is owned. -/
theorem balanced_frees (p : Option Nat) : Balanced [.frees p] False where
  safe := by
    cases p with
    | none => exact Iff.rfl
    | some b => exact iff_of_false (fun h => List.not_mem_nil h.1) id
  settled := False.elim

/-- **One after the other**, each from the point where nothing is owned. -/
theorem Balanced.append {events events' : List PoolEvent} {P Q : Prop} (h : Balanced events P)
    (h' : Balanced events' Q) : Balanced (events ++ events') (P ∧ Q) where
  safe := by
    rw [freesOwn_append, h.safe]
    apply and_congr_right
    intro hp
    rw [h.settled hp]
    exact h'.safe
  settled := by
    rintro ⟨hp, hq⟩
    rw [ownedAfter_append, h.settled hp]
    exact h'.settled hq

end OemPkg.Lib
