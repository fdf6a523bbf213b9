/-
# OemPkg.Lib.DenseIndex — a numbered selection kept inside a table

Some entries of a table are selected, and each of them carries its place in the selection: 0, 1, 2,
... in table order (`Dense`). The numbering has two uses, and it serves both because it is dense:
searching the table for number `j` finds the `j`-th selected entry (`dense_find?`), and writing each
entry at its number fills an array from its start, without a gap (`place_dense`). Taking an entry
out of the selection and decrementing the numbers behind it, in one pass, keeps the numbering dense
(`closeUp_dense`).
-/
import Mathlib.Data.List.Basic

namespace OemPkg.Lib

variable {α : Type*}

/-- The selected entries are numbered from `k` on, in order. -/
def Dense : Nat → List (α × Option Nat) → Prop
  | _, [] => True
  | k, (_, none) :: xs => Dense k xs
  | k, (_, some i) :: xs => i = k ∧ Dense (k + 1) xs

/-- The selected entries, in order. -/
def selected (xs : List (α × Option Nat)) : List α :=
  xs.filterMap fun x => x.2.map fun _ => x.1

@[simp] theorem selected_nil : selected ([] : List (α × Option Nat)) = [] := rfl

@[simp] theorem selected_cons_none (a : α) (xs : List (α × Option Nat)) :
    selected ((a, none) :: xs) = selected xs := rfl

@[simp] theorem selected_cons_some (a : α) (i : Nat) (xs : List (α × Option Nat)) :
    selected ((a, some i) :: xs) = a :: selected xs := rfl

/-- The numbers in use stay below the size of the table. -/
theorem dense_lt {xs : List (α × Option Nat)} : ∀ {k : Nat}, Dense k xs → ∀ {x : α × Option Nat},
    x ∈ xs → ∀ {i : Nat}, x.2 = some i → i < k + xs.length := by
  induction xs with
  | nil => intro k _ x hx; exact absurd hx List.not_mem_nil
  | cons y ys ih =>
      intro k h x hx i hi
      obtain ⟨a, m⟩ := y
      rw [List.length_cons]
      cases m with
      | none =>
          rcases List.mem_cons.mp hx with rfl | hx
          · cases hi
          · have := ih h hx hi
            omega
      | some m =>
          obtain ⟨rfl, h⟩ := h
          rcases List.mem_cons.mp hx with rfl | hx
          · cases hi
            omega
          · have := ih h hx hi
            omega

theorem length_selected_le (xs : List (α × Option Nat)) : (selected xs).length ≤ xs.length :=
  List.length_filterMap_le _ _

theorem mem_selected {xs : List (α × Option Nat)} {a : α} (h : a ∈ selected xs) :
    ∃ x ∈ xs, x.1 = a := by
  obtain ⟨x, hx, hxa⟩ := List.mem_filterMap.mp h
  obtain ⟨i, -, rfl⟩ := Option.map_eq_some_iff.mp hxa
  exact ⟨x, hx, rfl⟩

/-! ## Searching -/

/-- **Searching by number** finds the selected entry at that place. -/
theorem dense_find? {xs : List (α × Option Nat)} : ∀ {k : Nat}, Dense k xs → ∀ j : Nat,
    (xs.find? (fun x => x.2 = some (k + j))).map Prod.fst = (selected xs)[j]? := by
  induction xs with
  | nil => intro k _ j; rfl
  | cons x xs ih =>
      intro k h j
      obtain ⟨a, i⟩ := x
      cases i with
      | none =>
          rw [List.find?_cons_of_neg (by simp), selected_cons_none]
          exact ih h j
      | some i =>
          obtain ⟨rfl, h⟩ := h
          cases j with
          | zero =>
              rw [Nat.add_zero, List.find?_cons_of_pos (by simp)]
              rfl
          | succ j =>
              rw [List.find?_cons_of_neg (by simp), selected_cons_some, List.getElem?_cons_succ,
                ← ih h j]
              have hnum : i + (j + 1) = i + 1 + j := by omega
              rw [hnum]

/-! ## Filling an array -/

variable {β : Type*} (val : α → β)

/-- Write what each selected entry stands for at its number. -/
def place (cells : List (Option β)) (xs : List (α × Option Nat)) : List (Option β) :=
  xs.foldl (fun cells x => x.2.elim cells fun i => cells.set i (some (val x.1))) cells

/-- **Filling** leaves the array as it was but for the selected entries, side by side from the first
number on. -/
theorem place_dense {xs : List (α × Option Nat)} : ∀ {k : Nat} {cells : List (Option β)},
    Dense k xs → k + (selected xs).length ≤ cells.length →
      place val cells xs = cells.take k ++ (selected xs).map (fun a => some (val a)) ++
        cells.drop (k + (selected xs).length) := by
  induction xs with
  | nil =>
      intro k cells _ _
      show cells = _
      simp
  | cons x xs ih =>
      intro k cells h hlen
      obtain ⟨a, i⟩ := x
      cases i with
      | none => exact ih h hlen
      | some i =>
          obtain ⟨rfl, h⟩ := h
          rw [selected_cons_some, List.length_cons] at hlen
          show place val (cells.set i (some (val a))) xs = _
          rw [ih h (by rw [List.length_set]; omega), selected_cons_some, List.length_cons,
            List.map_cons]
          have hset : cells.set i (some (val a)) =
              cells.take i ++ some (val a) :: cells.drop (i + 1) :=
            List.set_eq_take_append_cons_drop.trans (if_pos (by omega))
          have hi : (cells.take i).length = i := List.length_take_of_le (by omega)
          have htake : (cells.set i (some (val a))).take (i + 1) =
              cells.take i ++ [some (val a)] := by
            rw [hset, List.take_append, hi, List.take_of_length_le (by omega),
              Nat.add_sub_cancel_left]
            rfl
          have hdrop : (cells.set i (some (val a))).drop (i + 1 + (selected xs).length) =
              cells.drop (i + ((selected xs).length + 1)) := by
            rw [List.drop_set_of_lt (by omega)]
            congr 1
            omega
          rw [htake, hdrop]
          simp

/-! ## Taking entries out -/

/-- One pass that takes the entries with `hit` out of the selection. Once it has taken one out, it
decrements the numbers it meets. -/
def closeUp (hit : α → Bool) : Bool → List (α × Option Nat) → List (α × Option Nat)
  | _, [] => []
  | removed, (a, i) :: xs =>
      let removed := removed || (hit a && i.isSome)
      let i := if hit a then none else if removed then i.map (· - 1) else i
      (a, i) :: closeUp hit removed xs

/-- Behind a hole, with no further hit, the pass moves the whole numbering down. -/
theorem closeUp_shift {hit : α → Bool} {xs : List (α × Option Nat)} :
    ∀ {k : Nat}, Dense (k + 1) xs → (∀ x ∈ xs, hit x.1 = false) →
      Dense k (closeUp hit true xs) ∧ selected (closeUp hit true xs) = selected xs := by
  induction xs with
  | nil => intro k _ _; exact ⟨trivial, rfl⟩
  | cons x xs ih =>
      intro k h hno
      obtain ⟨a, i⟩ := x
      obtain ⟨ha, hrest⟩ := List.forall_mem_cons.mp hno
      have ha' : hit a = false := ha
      cases i with
      | none =>
          obtain ⟨hdense, hsel⟩ := ih h hrest
          simp only [closeUp, ha', Bool.true_or, Bool.false_eq_true, if_false, if_true,
            Option.map_none]
          exact ⟨hdense, hsel⟩
      | some i =>
          obtain ⟨rfl, h⟩ := h
          obtain ⟨hdense, hsel⟩ := ih h hrest
          simp only [closeUp, ha', Bool.true_or, Bool.false_eq_true, if_false, if_true,
            Option.map_some, Nat.add_sub_cancel]
          exact ⟨⟨rfl, hdense⟩, by rw [selected_cons_some, selected_cons_some, hsel]⟩

/-- **The pass keeps the numbering dense** and takes out just the hits, if there is at most one. -/
theorem closeUp_dense {hit : α → Bool} {xs : List (α × Option Nat)} :
    ∀ {k : Nat}, Dense k xs → xs.Pairwise (fun x y => hit x.1 = true → hit y.1 = false) →
      Dense k (closeUp hit false xs) ∧
        selected (closeUp hit false xs) = (selected xs).filter fun a => !hit a := by
  induction xs with
  | nil => intro k _ _; exact ⟨trivial, rfl⟩
  | cons x xs ih =>
      intro k h hone
      obtain ⟨a, i⟩ := x
      obtain ⟨hfirst, hrest⟩ := List.pairwise_cons.mp hone
      cases i with
      | none =>
          obtain ⟨hdense, hsel⟩ := ih h hrest
          simp only [closeUp, Option.isSome_none, Bool.and_false, Bool.or_self,
            Bool.false_eq_true, if_false, ite_self]
          exact ⟨hdense, hsel⟩
      | some i =>
          obtain ⟨rfl, h⟩ := h
          cases ha : hit a with
          | false =>
              obtain ⟨hdense, hsel⟩ := ih h hrest
              simp only [closeUp, ha, Bool.false_and, Bool.or_self, Bool.false_eq_true, if_false]
              refine ⟨⟨rfl, hdense⟩, ?_⟩
              rw [selected_cons_some, hsel, selected_cons_some,
                List.filter_cons_of_pos (by simp [ha])]
          | true =>
              have hno : ∀ y ∈ xs, hit y.1 = false := fun y hy => hfirst y hy ha
              obtain ⟨hdense, hsel⟩ := closeUp_shift h hno
              simp only [closeUp, ha, Option.isSome_some, Bool.and_true, Bool.or_true, if_true]
              refine ⟨hdense, ?_⟩
              rw [selected_cons_none, hsel, selected_cons_some,
                List.filter_cons_of_neg (by simp [ha])]
              refine (List.filter_eq_self.mpr fun b hb => ?_).symm
              obtain ⟨y, hy, rfl⟩ := mem_selected hb
              rw [hno y hy, Bool.not_false]

end OemPkg.Lib
