/-
# OemPkg.FrontPage.FormMap — the table behind the top menu

The model of mFormMap and of the three functions that use it (`FrontPage/FrontPage.c`). An entry has
a number in the full menu and one in the limited menu, or none in one of them. RemoveMenuFromList
takes an entry out of both menus and renumbers what is behind it, in one pass over both columns with
a flag for each. CreateTopMenu writes each entry's string at its number, and CallFrontPage searches
for the entry with the number of the cell that was selected.

Each column by itself is a dense selection (`Lib.Dense`), and the pass over it is `Lib.closeUp`
(`column_removeMenuFromList`): so the numbers of either menu stay 0, 1, 2, ... whatever is removed.
-/
import OemPkg.Lib.Bytes
import OemPkg.Lib.DenseIndex

namespace OemPkg.FrontPage

open OemPkg.Lib

/-- EFI_STRING_ID -/
abbrev EfiStringId := UInt16

/-- What an entry of mFormMap names. -/
structure MenuForm where
  menuString : EfiStringId
  formSetGuid : Block 16
  formId : UInt16

/-- An entry of mFormMap. -/
structure FormMapEntry extends MenuForm where
  fullMenuIndex : UInt16
  limitedMenuIndex : UInt16

/-- mFormMap -/
abbrev FormMap := List FormMapEntry

/-- UNUSED_INDEX -/
def unusedIndex : UInt16 := 0xFFFF

/-- The number of an entry in the menu that is shown. -/
def FormMapEntry.menuIndex (showFullMenu : Bool) (e : FormMapEntry) : UInt16 :=
  if showFullMenu = false then e.limitedMenuIndex else e.fullMenuIndex

/-! ## The three functions -/

/-- What RemoveMenuFromList does to one column of an entry, `hit` being the one to remove: whether
the column has lost an entry, and the new number. -/
def removeIndex (hit removed : Bool) (index : UInt16) : Bool × UInt16 :=
  let r := if hit && index != unusedIndex then (true, unusedIndex) else (removed, index)
  (r.1, if r.1 && r.2 != unusedIndex then r.2 - 1 else r.2)

/-- The loop of RemoveMenuFromList. -/
def removeLoop (menuId : EfiStringId) :
    (fullMenuRemoved limitedMenuRemoved : Bool) → FormMap → FormMap
  | _, _, [] => []
  | fullMenuRemoved, limitedMenuRemoved, e :: es =>
      let full := removeIndex (e.menuString == menuId) fullMenuRemoved e.fullMenuIndex
      let limited := removeIndex (e.menuString == menuId) limitedMenuRemoved e.limitedMenuIndex
      { e with fullMenuIndex := full.2, limitedMenuIndex := limited.2 } ::
        removeLoop menuId full.1 limited.1 es

/-- RemoveMenuFromList -/
def removeMenuFromList (formMap : FormMap) (menuId : EfiStringId) : FormMap :=
  removeLoop menuId false false formMap

/-- The cells CreateTopMenu fills, one more than there are entries: an empty cell ends the list. -/
def menuOptions (showFullMenu : Bool) (formMap : FormMap) : List (Option EfiStringId) :=
  formMap.foldl
    (fun cells e =>
      if e.menuIndex showFullMenu ≠ unusedIndex ∧
          (e.menuIndex showFullMenu).toNat < formMap.length then
        cells.set (e.menuIndex showFullMenu).toNat (some e.menuString)
      else cells)
    (List.replicate (formMap.length + 1) none)

/-- The search loop of CallFrontPage: the entry it stops at, and the last number it read. -/
def searchForm (showFullMenu : Bool) (formIndex : UInt32) :
    FormMap → (index : UInt16) → Option FormMapEntry × UInt16
  | [], index => (none, index)
  | e :: es, _ =>
      if (e.menuIndex showFullMenu).toUInt32 = formIndex then (some e, e.menuIndex showFullMenu)
      else searchForm showFullMenu formIndex es (e.menuIndex showFullMenu)

/-- The form CallFrontPage sends; none is EFI_NOT_FOUND. -/
def callFrontPage (showFullMenu : Bool) (formMap : FormMap) (formIndex : UInt32) :
    Option MenuForm :=
  let r := searchForm showFullMenu formIndex formMap 0
  if r.2.toUInt32 ≠ formIndex then none else r.1.map FormMapEntry.toMenuForm

/-! ## One column -/

/-- A number, if it is one. -/
def usedIndex (index : UInt16) : Option Nat := if index = unusedIndex then none else some index.toNat

/-- The column of one menu, each number with what its entry names. -/
def FormMap.column (formMap : FormMap) (showFullMenu : Bool) : List (MenuForm × Option Nat) :=
  formMap.map fun e => (e.toMenuForm, usedIndex (e.menuIndex showFullMenu))

/-- The entries of one menu, in table order. -/
def FormMap.menu (formMap : FormMap) (showFullMenu : Bool) : List MenuForm :=
  selected (formMap.column showFullMenu)

/-- A table as the source writes it: in either menu the numbers in use are 0, 1, 2, ... in table
order, and no two entries have the same string. -/
structure WellNumbered (formMap : FormMap) : Prop where
  dense : ∀ showFullMenu, Dense 0 (formMap.column showFullMenu)
  distinct : (formMap.map (·.menuString)).Nodup
  length : formMap.length < unusedIndex.toNat

/-- The formsets of the menu, two of which belong to other packages. -/
structure FormSets where
  frontPageConfig : Block 16
  msBootMenu : Block 16
  dfciMenu : Block 16
  hwhMenu : Block 16
  dfciMenuFormId : UInt16
  hwhMenuFormId : UInt16

/-- mFormMap as it is initialised. The tokens of the six strings are numbered here in table order.
-/
def mFormMap (F : FormSets) : FormMap :=
  [⟨⟨1, F.frontPageConfig, 0x0002⟩, 0, 0⟩,
    ⟨⟨2, F.frontPageConfig, 0x0001⟩, 1, unusedIndex⟩,
    ⟨⟨3, F.msBootMenu, 0x1000⟩, 2, unusedIndex⟩,
    ⟨⟨4, F.dfciMenu, F.dfciMenuFormId⟩, 3, 1⟩,
    ⟨⟨5, F.hwhMenu, F.hwhMenuFormId⟩, 4, unusedIndex⟩,
    ⟨⟨6, F.frontPageConfig, 0x0004⟩, 5, 2⟩]

theorem mFormMap_wellNumbered (F : FormSets) : WellNumbered (mFormMap F) where
  dense showFullMenu := by
    cases showFullMenu
    · exact ⟨rfl, rfl, rfl, trivial⟩
    · exact ⟨rfl, rfl, rfl, rfl, rfl, rfl, trivial⟩
  distinct := by
    show [(1 : UInt16), 2, 3, 4, 5, 6].Nodup
    decide
  length := by
    show 6 < 65535
    omega

theorem usedIndex_unused : usedIndex unusedIndex = none := if_pos rfl

theorem usedIndex_of_ne {index : UInt16} (h : index ≠ unusedIndex) :
    usedIndex index = some index.toNat := if_neg h

theorem isSome_usedIndex (index : UInt16) :
    (usedIndex index).isSome = (index != unusedIndex) := by
  unfold usedIndex
  split_ifs with h <;> simp [h]

/-- A number is not decremented to UNUSED_INDEX, as 0 is not decremented. -/
theorem usedIndex_pred {index : UInt16} (hpos : index ≠ 0) :
    usedIndex (index - 1) = some (index.toNat - 1) := by
  have h0 : index.toNat ≠ 0 := fun h => hpos (UInt16.toNat_inj.mp h)
  have hone : (1 : UInt16) ≤ index := by
    rw [UInt16.le_iff_toNat_le]
    show 1 ≤ index.toNat
    omega
  have hsub : (index - 1).toNat = index.toNat - 1 := UInt16.toNat_sub_of_le index 1 hone
  have hne : index - 1 ≠ unusedIndex := by
    intro h
    have htop : (index - 1).toNat = 65535 := congrArg UInt16.toNat h
    have hlt : index.toNat < 65536 := index.toNat_lt
    omega
  rw [usedIndex_of_ne hne, hsub]

/-- **One column of one entry.** -/
theorem removeIndex_spec (hit : Bool) {removed : Bool} {index : UInt16}
    (h : removed = true → index ≠ 0) :
    (removeIndex hit removed index).1 = (removed || (hit && (usedIndex index).isSome)) ∧
      usedIndex (removeIndex hit removed index).2 =
        if hit then none
        else if removed || (hit && (usedIndex index).isSome) then (usedIndex index).map (· - 1)
        else usedIndex index := by
  rw [isSome_usedIndex]
  by_cases hused : index = unusedIndex
  · subst hused
    cases hit <;> cases removed <;> decide
  · have hne : (index != unusedIndex) = true := by simpa using hused
    unfold removeIndex
    cases hit with
    | true => cases removed <;> simp [hne, usedIndex_unused]
    | false =>
        cases removed with
        | false => simp
        | true =>
            simp only [Bool.false_and, Bool.false_eq_true, if_false, Bool.true_and, hne, if_true,
              Bool.or_false, true_and, usedIndex_pred (h rfl), usedIndex_of_ne hused,
              Option.map_some]

/-- The number of an entry the loop has been over. -/
theorem menuIndex_removed (showFullMenu hit fullRemoved limitedRemoved : Bool) (e : FormMapEntry) :
    ({ e with
        fullMenuIndex := (removeIndex hit fullRemoved e.fullMenuIndex).2
        limitedMenuIndex := (removeIndex hit limitedRemoved e.limitedMenuIndex).2 } :
      FormMapEntry).menuIndex showFullMenu =
      (removeIndex hit (if showFullMenu = false then limitedRemoved else fullRemoved)
        (e.menuIndex showFullMenu)).2 := by
  cases showFullMenu <;> rfl

/-- Its flag then. -/
theorem removed_flag (showFullMenu hit fullRemoved limitedRemoved : Bool) (e : FormMapEntry) :
    (if showFullMenu = false then (removeIndex hit limitedRemoved e.limitedMenuIndex).1
      else (removeIndex hit fullRemoved e.fullMenuIndex).1) =
      (removeIndex hit (if showFullMenu = false then limitedRemoved else fullRemoved)
        (e.menuIndex showFullMenu)).1 := by
  cases showFullMenu <;> rfl

/-- **The loop closes up either column**, by induction on the entries still to come. The numbering
is dense, so behind a removed entry there is no 0 left to decrement. -/
theorem column_removeLoop (menuId : EfiStringId) (showFullMenu : Bool) (formMap : FormMap) :
    ∀ {k : Nat} (fullRemoved limitedRemoved : Bool),
      Dense k (formMap.column showFullMenu) →
      ((if showFullMenu = false then limitedRemoved else fullRemoved) = true → 1 ≤ k) →
      (removeLoop menuId fullRemoved limitedRemoved formMap).column showFullMenu =
        closeUp (fun f => f.menuString == menuId)
          (if showFullMenu = false then limitedRemoved else fullRemoved)
          (formMap.column showFullMenu) := by
  induction formMap with
  | nil => intro k fr lr _ _; rfl
  | cons e es ih =>
      intro k fr lr hdense hflag
      let hit := e.menuString == menuId
      -- the flag and the number of this column
      obtain ⟨flag, hf⟩ : ∃ flag, (if showFullMenu = false then lr else fr) = flag := ⟨_, rfl⟩
      obtain ⟨index, hi⟩ : ∃ index, e.menuIndex showFullMenu = index := ⟨_, rfl⟩
      have hcol : Dense k ((e.toMenuForm, usedIndex index) :: FormMap.column es showFullMenu) := by
        rw [← hi]
        exact hdense
      rw [hf] at hflag
      have hpos : flag = true → index ≠ 0 := by
        rintro h rfl
        have hzero : 0 = k := hcol.1
        have := hflag h
        omega
      obtain ⟨hremoved, hindex⟩ := removeIndex_spec hit hpos
      obtain ⟨k', hdense', hflag'⟩ : ∃ k', Dense k' (FormMap.column es showFullMenu) ∧
          ((removeIndex hit flag index).1 = true → 1 ≤ k') := by
        cases hused : usedIndex index with
        | none =>
            rw [hused] at hcol hremoved
            refine ⟨k, hcol, fun h => hflag ?_⟩
            rwa [hremoved, Option.isSome_none, Bool.and_false, Bool.or_false] at h
        | some i =>
            rw [hused] at hcol
            exact ⟨k + 1, hcol.2, fun _ => by omega⟩
      have htail := ih (removeIndex hit fr e.fullMenuIndex).1
        (removeIndex hit lr e.limitedMenuIndex).1 hdense'
        (by rw [removed_flag, hf, hi]; exact hflag')
      rw [removed_flag, hf, hi, hremoved] at htail
      show (e.toMenuForm, usedIndex (FormMapEntry.menuIndex showFullMenu { e with
          fullMenuIndex := (removeIndex hit fr e.fullMenuIndex).2
          limitedMenuIndex := (removeIndex hit lr e.limitedMenuIndex).2 })) ::
        FormMap.column (removeLoop menuId (removeIndex hit fr e.fullMenuIndex).1
          (removeIndex hit lr e.limitedMenuIndex).1 es) showFullMenu =
        closeUp _ _ ((e.toMenuForm, usedIndex (e.menuIndex showFullMenu)) ::
          FormMap.column es showFullMenu)
      rw [menuIndex_removed, hf, hi, hindex, htail]
      rfl

/-- RemoveMenuFromList, seen from either menu. -/
theorem column_removeMenuFromList {formMap : FormMap} (h : WellNumbered formMap)
    (menuId : EfiStringId) (showFullMenu : Bool) :
    (removeMenuFromList formMap menuId).column showFullMenu =
      closeUp (fun f => f.menuString == menuId) false (formMap.column showFullMenu) := by
  unfold removeMenuFromList
  rw [column_removeLoop menuId showFullMenu formMap false false (h.dense showFullMenu) (by simp),
    ite_self]

/-- The loop changes numbers only. -/
theorem forms_removeLoop (menuId : EfiStringId) (formMap : FormMap) :
    ∀ fullRemoved limitedRemoved,
      (removeLoop menuId fullRemoved limitedRemoved formMap).map (·.toMenuForm) =
        formMap.map (·.toMenuForm) := by
  induction formMap with
  | nil => intro fr lr; rfl
  | cons e es ih =>
      intro fr lr
      rw [removeLoop, List.map_cons, List.map_cons, ih]

/-- **One removal** leaves the table well numbered, and takes out of either menu just the entry with
that string. -/
theorem removeMenuFromList_spec {formMap : FormMap} (h : WellNumbered formMap)
    (menuId : EfiStringId) :
    WellNumbered (removeMenuFromList formMap menuId) ∧
      (∀ showFullMenu, (removeMenuFromList formMap menuId).menu showFullMenu =
        (formMap.menu showFullMenu).filter fun f => f.menuString != menuId) ∧
      (removeMenuFromList formMap menuId).length = formMap.length := by
  have hforms : (removeMenuFromList formMap menuId).map (·.toMenuForm) =
      formMap.map (·.toMenuForm) := forms_removeLoop menuId formMap false false
  have hlength : (removeMenuFromList formMap menuId).length = formMap.length := by
    simpa using congrArg List.length hforms
  have hstrings : (removeMenuFromList formMap menuId).map (·.menuString) =
      formMap.map (·.menuString) := by
    have hmap := congrArg (List.map MenuForm.menuString) hforms
    rw [List.map_map, List.map_map] at hmap
    exact hmap
  have hone : ∀ showFullMenu, (formMap.column showFullMenu).Pairwise fun x y =>
      (x.1.menuString == menuId) = true → (y.1.menuString == menuId) = false := by
    intro showFullMenu
    refine List.pairwise_map.mpr ((List.pairwise_map.mp h.distinct).imp ?_)
    intro x y hne hx
    have hxid : x.menuString = menuId := by simpa using hx
    simpa [← hxid] using Ne.symm hne
  have hclosed : ∀ showFullMenu, _ ∧ selected (closeUp (fun f => f.menuString == menuId) false
      (formMap.column showFullMenu)) = _ :=
    fun showFullMenu => closeUp_dense (h.dense showFullMenu) (hone showFullMenu)
  refine ⟨⟨fun showFullMenu => ?_, ?_, ?_⟩, fun showFullMenu => ?_, hlength⟩
  · rw [column_removeMenuFromList h]
    exact (hclosed showFullMenu).1
  · rw [hstrings]
    exact h.distinct
  · rw [hlength]
    exact h.length
  · unfold FormMap.menu
    rw [column_removeMenuFromList h, (hclosed showFullMenu).2]
    rfl

/-- **Any removals**, by induction on them: repeated and unknown strings remove nothing more. -/
theorem removals_spec (menuIds : List EfiStringId) : ∀ {formMap : FormMap}, WellNumbered formMap →
    WellNumbered (menuIds.foldl removeMenuFromList formMap) ∧
      (∀ showFullMenu, (menuIds.foldl removeMenuFromList formMap).menu showFullMenu =
        (formMap.menu showFullMenu).filter fun f => f.menuString ∉ menuIds) ∧
      (menuIds.foldl removeMenuFromList formMap).length = formMap.length := by
  induction menuIds with
  | nil => intro formMap h; exact ⟨h, fun showFullMenu => by simp, rfl⟩
  | cons menuId menuIds ih =>
      intro formMap h
      obtain ⟨hone, hmenu, hlength⟩ := removeMenuFromList_spec h menuId
      obtain ⟨hall, hmenus, hlengths⟩ := ih hone
      refine ⟨hall, fun showFullMenu => ?_, hlengths.trans hlength⟩
      rw [List.foldl_cons, hmenus, hmenu, List.filter_filter]
      apply List.filter_congr
      intro f _
      by_cases hf : f.menuString = menuId <;> simp [hf]

/-! ## The cells, and what they open -/

/-- **The cells** are the entries of the menu, in order, and nothing behind them. -/
theorem menuOptions_spec {formMap : FormMap} (h : WellNumbered formMap) (showFullMenu : Bool) :
    menuOptions showFullMenu formMap =
      (formMap.menu showFullMenu).map (fun f => some f.menuString) ++
        List.replicate (formMap.length + 1 - (formMap.menu showFullMenu).length) none := by
  have hlen : (formMap.menu showFullMenu).length ≤ formMap.length := by
    have := length_selected_le (formMap.column showFullMenu)
    rwa [FormMap.column, List.length_map] at this
  have hplace : menuOptions showFullMenu formMap = place (·.menuString)
      (List.replicate (formMap.length + 1) none) (formMap.column showFullMenu) := by
    unfold menuOptions place
    rw [FormMap.column, List.foldl_map]
    apply List.foldl_ext
    intro cells e he
    by_cases hused : e.menuIndex showFullMenu = unusedIndex
    · rw [if_neg (fun hc => hc.1 hused), hused, usedIndex_unused]
      rfl
    · have hlt := dense_lt (h.dense showFullMenu) (List.mem_map_of_mem he) (usedIndex_of_ne hused)
      rw [FormMap.column, List.length_map, Nat.zero_add] at hlt
      rw [if_pos ⟨hused, hlt⟩, usedIndex_of_ne hused]
      rfl
  rw [hplace, place_dense _ (h.dense showFullMenu) (by
    rw [List.length_replicate, Nat.zero_add]
    exact Nat.le_succ_of_le hlen)]
  rw [List.take_zero, List.nil_append, Nat.zero_add, List.drop_replicate]
  rfl

theorem searchForm_of_find? {showFullMenu : Bool} {formIndex : UInt32} {formMap : FormMap}
    {e : FormMapEntry}
    (h : formMap.find? (fun e => (e.menuIndex showFullMenu).toUInt32 = formIndex) = some e) :
    ∀ index, searchForm showFullMenu formIndex formMap index =
      (some e, e.menuIndex showFullMenu) := by
  induction formMap with
  | nil => cases h
  | cons e' es ih =>
      intro index
      unfold searchForm
      by_cases he : (e'.menuIndex showFullMenu).toUInt32 = formIndex
      · rw [List.find?_cons_of_pos (by simpa using he), Option.some.injEq] at h
        rw [if_pos he, h]
      · rw [List.find?_cons_of_neg (by simpa using he)] at h
        rw [if_neg he, ih h]

/-- **A cell opens its form.** -/
theorem callFrontPage_spec {formMap : FormMap} (h : WellNumbered formMap) (showFullMenu : Bool)
    {j : UInt32} {f : MenuForm} (hf : (formMap.menu showFullMenu)[j.toNat]? = some f) :
    callFrontPage showFullMenu formMap j = some f := by
  have hj : j.toNat < unusedIndex.toNat := by
    have hlt := (List.getElem?_eq_some_iff.mp hf).1
    have hle := length_selected_le (formMap.column showFullMenu)
    rw [FormMap.column, List.length_map] at hle
    have := h.length
    unfold FormMap.menu FormMap.column at hlt
    omega
  have hindex : ∀ e : FormMapEntry, usedIndex (e.menuIndex showFullMenu) = some j.toNat ↔
      (e.menuIndex showFullMenu).toUInt32 = j := by
    intro e
    rw [← UInt32.toNat_inj, UInt16.toNat_toUInt32]
    by_cases hused : e.menuIndex showFullMenu = unusedIndex
    · rw [hused, usedIndex_unused]
      exact iff_of_false (by simp) (by omega)
    · rw [usedIndex_of_ne hused, Option.some.injEq]
  have hfind := dense_find? (h.dense showFullMenu) j.toNat
  rw [Nat.zero_add, FormMap.column, List.find?_map, Option.map_map] at hfind
  obtain ⟨e, he, hef⟩ := Option.map_eq_some_iff.mp (hfind.trans hf)
  have hfound : formMap.find? (fun e => (e.menuIndex showFullMenu).toUInt32 = j) = some e := by
    rw [← he]
    congr 1
    funext e
    simp only [Function.comp_apply, hindex]
  have hindex' : (e.menuIndex showFullMenu).toUInt32 = j := by simpa using List.find?_some hfound
  unfold callFrontPage
  rw [searchForm_of_find? hfound]
  simp only [hindex', ne_eq, not_true_eq_false, if_false, Option.map_some]
  exact congrArg some hef

end OemPkg.FrontPage
