/-
# OemPkg.Settings.Uninitialized — a settings record that is too short

GetBootManagerSetting and SetBootManagerSetting read the variable into a local structure without a
look at the size that was read; InitializeNvVariable has one. A shorter variable leaves the end of
the structure as it was, uninitialised. `settings_ignore_local_iff` says when nobody can tell: two
runs that differ in the initial contents of the structure have the same results exactly when the
variable is not a short one, or holds the setting and is not written back.
-/
import OemPkg.Settings.Registers

namespace OemPkg.Settings

open OemPkg.Lib OemPkg.Uefi

variable {H : MsBootManagerSettingsH}

/-- Runs of `f` that differ only in what the local structure held before. -/
def IgnoresLocal {α : Type*} (f : H.Record → α) : Prop := ∀ r₁ r₂, f r₁ = f r₂

/-- The place of setting `b` in the record. -/
def MsBootManagerSettingsH.place (H : MsBootManagerSettingsH) (b : BootSetting) : Nat :=
  H.layout.offset (.setting b)

/-- **A short variable does no harm** to setting `b` when it holds its byte, and this is already `x`
or the variable, having other attributes, will not be written. -/
def ShortHarmless (H : MsBootManagerSettingsH) (v : Option Variable) (b : BootSetting) (x : UInt8) :
    Prop :=
  ∀ w, v = some w → w.data.length < H.layout.size →
    H.place b < w.data.length ∧ (w.data[H.place b]? = some x ∨ w.attributes ≠ H.attributes)

theorem place_lt_size (H : MsBootManagerSettingsH) (b : BootSetting) :
    H.place b < H.layout.size := by
  have hfits := H.layout.fits (.setting b)
  rw [H.width_setting] at hfits
  exact hfits

/-- The value of a setting is the byte at its place. -/
theorem getElem?_place (m : H.Record) (b : BootSetting) :
    m.bytes[H.place b]? = some (H.value m b) := by
  have hlt : H.place b < m.bytes.length := by
    rw [m.length_bytes]
    exact place_lt_size H b
  have hslice : slice (H.place b) 1 m.bytes = [m.bytes[H.place b]] := by
    rw [slice, List.drop_eq_getElem_cons hlt]
    rfl
  rw [List.getElem?_eq_getElem hlt, MsBootManagerSettingsH.value, Layout.Image.get,
    H.width_setting]
  show some m.bytes[H.place b] = some (UInt8.ofNat (leNat (slice (H.place b) 1 m.bytes)))
  rw [hslice, leNat_cons, leNat_nil, Nat.mul_zero, Nat.add_zero, UInt8.ofNat_toNat]

/-- Setting a byte leaves the other ones. -/
theorem getElem?_set_ne_place (m : H.Record) (b : BootSetting) (n : Nat) {i : Nat}
    (hi : i ≠ H.place b) : (m.set (.setting b) n).bytes[i]? = m.bytes[i]? := by
  have hoff : H.layout.offset (.setting b) ≤ m.bytes.length := by
    rw [m.length_bytes]
    exact (place_lt_size H b).le
  show (splice _ (leBytes (H.layout.width (.setting b)) n) m.bytes)[i]? = _
  rw [getElem?_splice hoff, length_leBytes, H.width_setting]
  by_cases hlt : i < H.layout.offset (.setting b)
  · rw [if_pos hlt]
  · rw [if_neg hlt, if_neg]
    intro h
    apply hi
    show i = H.layout.offset (.setting b)
    omega

/-! ## What the two functions do about a variable that can be read -/

section Fits

variable {w : Variable} (hfit : w.data.length ≤ H.layout.size)
include hfit

theorem getBootManagerSetting_fits (pcd : BootManagerPcds) (r : H.Record) (b : BootSetting) :
    getBootManagerSetting H pcd r (.boot b) (.reliable (some w)) =
      ((efiSuccess, some (H.value (r.copyIn w.data) b)), .reliable (some w)) := by
  simp only [getBootManagerSetting, VarService.getVariable_reliable, readVariable_fits hfit,
    efiError_success, Bool.false_eq_true, if_false]

theorem setBootManagerSetting_fits (r : H.Record) (b : BootSetting) (x : UInt8)
    (flags : DfciSettingFlags) :
    setBootManagerSetting H r (.boot b) x (some flags) (.reliable (some w)) =
      if H.value (r.copyIn w.data) b ≠ x then
        (((writeVariable (some w) H.attributes
            ((r.copyIn w.data).set (.setting b) x.toNat).bytes).1, some flags),
          .reliable (writeVariable (some w) H.attributes
            ((r.copyIn w.data).set (.setting b) x.toNat).bytes).2)
      else ((efiSuccess, some { alreadySet := true }), .reliable (some w)) := by
  simp only [setBootManagerSetting, VarService.getVariable_reliable, readVariable_fits hfit,
    efiError_success, Bool.false_eq_true, if_false, VarService.setVariable_reliable]

/-- The value read for a setting. -/
theorem value_copyIn (r : H.Record) (b : BootSetting) :
    some (H.value (r.copyIn w.data) b) =
      if H.place b < w.data.length then w.data[H.place b]? else some (H.value r b) := by
  rw [← getElem?_place, Layout.Image.getElem?_copyIn hfit, getElem?_place]

end Fits

/-- A record of one byte, repeated. -/
def filled (H : MsBootManagerSettingsH) (y : UInt8) : H.Record :=
  ⟨List.replicate H.layout.size y, List.length_replicate⟩

theorem getElem?_filled {i : Nat} (hi : i < H.layout.size) (y : UInt8) :
    (filled H y).bytes[i]? = some y := by
  simp [filled, hi]

theorem value_filled (b : BootSetting) (y : UInt8) : H.value (filled H y) b = y := by
  have hplace := getElem?_place (filled H y) b
  rw [getElem?_filled (place_lt_size H b)] at hplace
  exact (Option.some.inj hplace).symm

/-! ## Two runs -/

/-- A variable that cannot be read leaves the local structure out of it. -/
theorem ignoresLocal_of_unread {v : Option Variable}
    (herr : efiError (readVariable v H.layout.size).status = true) (b : BootSetting) (x : UInt8)
    (pcd : BootManagerPcds) (flags : DfciSettingFlags) :
    (IgnoresLocal fun r : H.Record => getBootManagerSetting H pcd r (.boot b) (.reliable v)) ∧
      IgnoresLocal fun r : H.Record =>
        setBootManagerSetting H r (.boot b) x (some flags) (.reliable v) := by
  constructor
  · intro r₁ r₂
    simp only [getBootManagerSetting, VarService.getVariable_reliable, herr, if_true]
  · intro r₁ r₂
    simp only [setBootManagerSetting, VarService.getVariable_reliable, herr, if_true]

section TwoRuns

variable {w : Variable} (b : BootSetting) (x : UInt8)

/-- A variable that fills the structure leaves nothing of what it held. -/
theorem ignoresLocal_of_whole (hwhole : w.data.length = H.layout.size) (pcd : BootManagerPcds)
    (flags : DfciSettingFlags) :
    (IgnoresLocal fun r : H.Record =>
        getBootManagerSetting H pcd r (.boot b) (.reliable (some w))) ∧
      IgnoresLocal fun r : H.Record =>
        setBootManagerSetting H r (.boot b) x (some flags) (.reliable (some w)) := by
  have hsame : ∀ r₁ r₂ : H.Record, r₁.copyIn w.data = r₂.copyIn w.data :=
    Layout.Image.copyIn_congr hwhole.ge
  constructor
  · intro r₁ r₂
    simp only [getBootManagerSetting_fits hwhole.le]
    rw [hsame r₁ r₂]
  · intro r₁ r₂
    simp only [setBootManagerSetting_fits hwhole.le]
    rw [hsame r₁ r₂]

variable (hshort : w.data.length < H.layout.size)
include hshort

/-- **Get** does not depend on the local structure when the variable reaches the setting. -/
theorem getBootManagerSetting_short_iff (pcd : BootManagerPcds) :
    (IgnoresLocal fun r : H.Record =>
        getBootManagerSetting H pcd r (.boot b) (.reliable (some w))) ↔
      H.place b < w.data.length := by
  constructor
  · intro h
    by_contra hbehind
    have hvalue : ∀ y, H.value ((filled H y).copyIn w.data) b = y := by
      intro y
      have hread := value_copyIn hshort.le (filled H y) b
      rw [if_neg hbehind, value_filled] at hread
      exact Option.some.inj hread
    have hsame := congrArg (fun out => out.1.2) (h (filled H 0) (filled H 1))
    simp only [getBootManagerSetting_fits hshort.le, hvalue, Option.some.injEq] at hsame
    exact absurd hsame (by decide)
  · intro hreach r₁ r₂
    have hsame : some (H.value (r₁.copyIn w.data) b) = some (H.value (r₂.copyIn w.data) b) := by
      rw [value_copyIn hshort.le, value_copyIn hshort.le, if_pos hreach, if_pos hreach]
    simp only [getBootManagerSetting_fits hshort.le, hsame]

/-- **Set** writes the rest of the local structure back, unless it writes nothing. -/
theorem setBootManagerSetting_short_iff (hreach : H.place b < w.data.length)
    (flags : DfciSettingFlags) :
    (IgnoresLocal fun r : H.Record =>
        setBootManagerSetting H r (.boot b) x (some flags) (.reliable (some w))) ↔
      w.data[H.place b]? = some x ∨ w.attributes ≠ H.attributes := by
  have hvalue : ∀ r : H.Record, some (H.value (r.copyIn w.data) b) = w.data[H.place b]? := by
    intro r
    rw [value_copyIn hshort.le, if_pos hreach]
  have hchanged : ∀ r : H.Record,
      H.value (r.copyIn w.data) b ≠ x ↔ w.data[H.place b]? ≠ some x := by
    intro r
    rw [← hvalue r, ne_eq, ne_eq, Option.some.injEq]
  simp only [IgnoresLocal, setBootManagerSetting_fits hshort.le, hchanged]
  by_cases hsame : w.data[H.place b]? = some x
  · simp [hsame]
  by_cases hattrs : w.attributes = H.attributes
  · -- the byte behind the variable's last is written as the structure had it
    simp only [hsame, hattrs, ne_eq, not_true_eq_false, or_self, iff_false, not_false_eq_true,
      if_true]
    intro h
    have hwrite : ∀ r : H.Record, writeVariable (some w) H.attributes
        ((r.copyIn w.data).set (.setting b) x.toNat).bytes =
          (efiSuccess, some ⟨H.attributes, ((r.copyIn w.data).set (.setting b) x.toNat).bytes⟩) :=
      fun r => writeVariable_rewrite (validAttributes_record H) (hasAccess_record H)
        (record_ne_nil _) hattrs
    have hbyte : ∀ y,
        (((filled H y).copyIn w.data).set (.setting b) x.toNat).bytes[w.data.length]? = some y := by
      intro y
      rw [getElem?_set_ne_place _ _ _ hreach.ne', Layout.Image.getElem?_copyIn hshort.le,
        if_neg (lt_irrefl _), getElem?_filled hshort]
    have hsame := congrArg (fun out => out.2.var.bind fun v => v.data[w.data.length]?)
      (h (filled H 0) (filled H 1))
    simp only [hwrite, VarService.reliable_var, Option.bind_some, hbyte, Option.some.injEq] at hsame
    exact absurd hsame (by decide)
  · -- the write is refused, whatever it would write
    simp only [hsame, hattrs, ne_eq, not_false_eq_true, if_true, or_true, iff_true]
    intro r₁ r₂
    rw [writeVariable_refused (validAttributes_record H) (hasAccess_record H) (record_ne_nil _)
      hattrs, writeVariable_refused (validAttributes_record H) (hasAccess_record H)
      (record_ne_nil _) hattrs]

end TwoRuns

/-- **Settings never come from uninitialised memory** exactly when a short variable does no harm:
two runs of Get, and two runs of Set, that differ in the initial contents of the local structure
return the same and leave the same variable. -/
theorem settings_ignore_local_iff (pcd : BootManagerPcds) (v : Option Variable) (b : BootSetting)
    (x : UInt8) (flags : DfciSettingFlags) :
    ((IgnoresLocal fun r : H.Record =>
          getBootManagerSetting H pcd r (.boot b) (.reliable v)) ∧
        IgnoresLocal fun r : H.Record =>
          setBootManagerSetting H r (.boot b) x (some flags) (.reliable v)) ↔
      ShortHarmless H v b x := by
  cases v with
  | none =>
      have hharmless : ShortHarmless H none b x := fun w hw => nomatch hw
      refine ⟨fun _ => hharmless, fun _ => ignoresLocal_of_unread ?_ b x pcd flags⟩
      rw [readVariable_none]
      exact efiError_notFound
  | some w =>
      by_cases hshort : w.data.length < H.layout.size
      · have hharmless : ShortHarmless H (some w) b x ↔ H.place b < w.data.length ∧
            (w.data[H.place b]? = some x ∨ w.attributes ≠ H.attributes) :=
          ⟨fun h => h w rfl hshort, fun h _ hw _ => Option.some.inj hw ▸ h⟩
        rw [hharmless, getBootManagerSetting_short_iff b hshort]
        exact and_congr_right fun hreach =>
          setBootManagerSetting_short_iff b x hshort hreach flags
      · have hharmless : ShortHarmless H (some w) b x :=
          fun _ hw hlt => absurd (Option.some.inj hw ▸ hlt) hshort
        refine ⟨fun _ => hharmless, fun _ => ?_⟩
        by_cases hwhole : w.data.length = H.layout.size
        · exact ignoresLocal_of_whole b x hwhole pcd flags
        · have hlarge : ¬ w.data.length ≤ H.layout.size := by omega
          refine ignoresLocal_of_unread ?_ b x pcd flags
          rw [readVariable_large hlarge]
          exact efiError_bufferTooSmall

/-- A record of which only the signature and the version are there. -/
def headOnly : Variable := ⟨packedH.attributes, [2, 0, 0, 0, 3]⟩

/-- What Get then returns for IPv6 boot is what the stack held. -/
theorem settings_read_local :
    ¬ ∀ (H : MsBootManagerSettingsH) (pcd : BootManagerPcds) (w : Variable) (b : BootSetting),
      w.data.length ≤ H.layout.size →
      IgnoresLocal fun r : H.Record =>
        getBootManagerSetting H pcd r (.boot b) (.reliable (some w)) := by
  intro h
  have hhead := h packedH ⟨0, 0, 0, 0, 0⟩ headOnly .ipv6 (by decide)
  have hreach := (getBootManagerSetting_short_iff .ipv6 (by decide) ⟨0, 0, 0, 0, 0⟩).mp hhead
  exact absurd hreach (by decide)

end OemPkg.Settings
