/-
# OemPkg.FrontPage.DisplayStrings — the SMBIOS strings on the front page

UpdateDisplayStrings shows serial number, model, UUID and asset tag. Its strings come from a
GetOptionalStringByIndex of the front page's own, which frees what the caller's pointer points to
when a string is missing. `optional_string_lookup` compares it with the one of the DFCI library;
`display_frees_own_iff` says when UpdateDisplayStrings, which has one pointer for all its strings,
frees only blocks of its own.
-/
import OemPkg.Lib.Pool
import OemPkg.Smbios.DeviceId

namespace OemPkg.FrontPage

open OemPkg.Lib OemPkg.Uefi OemPkg.Smbios

/-! ## GetOptionalStringByIndex -/

/-- The strings of the PC information form. -/
inductive PcInfoString where
  /-- STR_INF_VIEW_PC_SERIALNUM_VALUE -/
  | serialNum
  /-- STR_INF_VIEW_PC_MODEL_VALUE -/
  | model
  /-- STR_INF_VIEW_PC_UUID_VALUE -/
  | uuid
  /-- STR_INF_VIEW_PC_ASSET_TAG_VALUE -/
  | assetTag
  deriving DecidableEq, Repr

/-- UpdateDisplayStrings at work: its local NewString, the pool, what it has done with that, and the
strings it has set. -/
structure DisplayRun where
  newString : Option Nat
  pool : Pool
  events : List PoolEvent
  shown : List (PcInfoString × Option Bytes)

namespace DisplayRun

/-- The start: NewString is whatever it is. -/
def start (newString : Option Nat) (pool : Pool) : DisplayRun := ⟨newString, pool, [], []⟩

/-- `NewString = AllocatePool (..)`, and the contents that are written there. -/
def allocate (allocated : Bool) (contents : Bytes) (st : DisplayRun) : DisplayRun :=
  if allocated then
    { st with
      newString := some (st.pool.allocatePool contents).1
      pool := (st.pool.allocatePool contents).2
      events := st.events ++ [.allocates (st.pool.allocatePool contents).1] }
  else { st with newString := none }

/-- `FreePool (NewString)` -/
def free (st : DisplayRun) : DisplayRun :=
  { st with
    pool := match st.newString with
      | some b => st.pool.freePool b
      | none => st.pool
    events := st.events ++ [.frees st.newString] }

/-- What NewString points to. -/
def contents (st : DisplayRun) : Option Bytes := st.newString.bind st.pool.live

/-- HiiSetString with NewString. -/
def hiiSetString (s : PcInfoString) (st : DisplayRun) : DisplayRun :=
  { st with shown := st.shown ++ [(s, st.contents)] }

end DisplayRun

/-- The characters, two bytes each. -/
def unicodeString (chars : Bytes) : Bytes := chars.flatMap fun c => [c, 0]

/-- AsciiStrToUnicodeStrS, with room for the whole string: what is written to the destination. -/
abbrev AsciiStrToUnicodeStrS := Bytes → Bytes

/-- What is documented about it: the string is converted, with its zero. -/
def AsciiStrToUnicodeStrS.Documented (asciiStrToUnicodeStrS : AsciiStrToUnicodeStrS) : Prop :=
  ∀ chars, 0 ∉ chars →
    asciiStrToUnicodeStrS (zeroTerminated chars) = unicodeString (zeroTerminated chars)

/-- What is outside UpdateDisplayStrings. -/
structure DisplayEnv where
  locateProtocol : EfiStatus
  type1 : GetNext SmbiosTableType1
  type3 : GetNext SmbiosTableType3
  asciiStrSize : AsciiStrSize
  asciiStrToUnicodeStrS : AsciiStrToUnicodeStrS
  /-- the memory beyond the string areas -/
  beyond : Nat → UInt8
  /-- a GUID as `%g` prints it -/
  printGuid : Block 16 → Bytes
  /-- there is memory for a string -/
  allocated : Bool

section Functions

variable (env : DisplayEnv)

/-- A block of the pool with these contents. -/
def DisplayEnv.buffer (contents : Bytes) : Option Bytes :=
  if env.allocated then some contents else none

/-- GetOptionalStringByIndex -/
def getOptionalStringByIndex (optionalStrings : Bytes) (index : UInt8) (st : DisplayRun) :
    Looking (EfiStatus × DisplayRun) :=
  if index = 0 then pure (efiSuccess, st.allocate env.allocated [0, 0])
  else do
    let s ← lookup env.asciiStrSize env.beyond optionalStrings index
    if s.notFound then
      -- the end of the set with a number left, or an empty string
      pure (efiNotFound, { st.free with newString := none })
    else do
      let chars ← Looking.read env.beyond optionalStrings s.optionalStrStart s.strSize
      pure (efiSuccess, st.allocate env.allocated (env.asciiStrToUnicodeStrS chars))

/-! ## UpdateDisplayStrings -/

/-- What UpdateDisplayStrings does three times: a string is looked up, and if there is one it is
shown and freed. -/
def displayString (s : PcInfoString) (optionalStrings : Bytes) (index : UInt8) (st : DisplayRun) :
    Looking (EfiStatus × DisplayRun) := do
  let r ← getOptionalStringByIndex env optionalStrings index st
  if efiError r.1 then pure r else pure (r.1, (r.2.hiiSetString s).free)

/-- The UUID, which needs no string area. -/
def displayUuid (uuid : Block 16) (st : DisplayRun) : DisplayRun :=
  if (st.allocate env.allocated (env.printGuid uuid)).newString.isSome then
    ((st.allocate env.allocated (env.printGuid uuid)).hiiSetString .uuid).free
  else st.allocate env.allocated (env.printGuid uuid)

/-- The part about the type 1 record. -/
def displaySystemInformation (st : DisplayRun) : Looking DisplayRun :=
  match env.type1 with
  | .error _ => pure st
  | .ok r => do
      let serial ← displayString env .serialNum (areaBytes r.strings) r.serialNumber st
      let product ← displayString env .model (areaBytes r.strings) r.productName serial.2
      pure (displayUuid env r.uuid product.2)

/-- The part about the type 3 record. -/
def displaySystemEnclosure (st : DisplayRun) : Looking (EfiStatus × DisplayRun) :=
  match env.type3 with
  | .error e => pure (e.1, st)
  | .ok r => displayString env .assetTag (areaBytes r.strings) r.assetTag st

/-- UpdateDisplayStrings -/
def updateDisplayStrings (st : DisplayRun) : Looking (EfiStatus × DisplayRun) :=
  if efiError env.locateProtocol then pure (env.locateProtocol, st)
  else do
    let st ← displaySystemInformation env st
    displaySystemEnclosure env st

end Functions

/-! ## What the lookup returns -/

section Lookup

variable {env : DisplayEnv} (h : env.asciiStrSize.Documented)

/-- The contents of the new block, if there is a string to return. -/
def DisplayEnv.foundString (strings : List AreaString) (index : UInt8) : Option Bytes :=
  if index = 0 then some [0, 0]
  else (stringAt strings index).map fun x => env.asciiStrToUnicodeStrS x.bytes

include h in
/-- **One equation for the lookup**: it ends, stays in the area, and has a new block in NewString or
has released what was there. -/
theorem yields_getOptionalString (strings : List AreaString) (index : UInt8) (st : DisplayRun) :
    (getOptionalStringByIndex env (areaBytes strings) index st).Yields
      (match env.foundString strings index with
        | some contents => (efiSuccess, st.allocate env.allocated contents)
        | none => (efiNotFound, { st.free with newString := none })) := by
  unfold getOptionalStringByIndex DisplayEnv.foundString
  by_cases hzero : index = 0
  · simp only [if_pos hzero]
    exact Looking.yields_pure.mpr rfl
  simp only [if_neg hzero]
  have hlookup := yields_lookupString h env.beyond strings hzero
    (efiNotFound, ({ st.free with newString := none } : DisplayRun))
    fun _ chars => (efiSuccess, st.allocate env.allocated (env.asciiStrToUnicodeStrS chars))
  cases hstring : stringAt strings index with
  | none =>
      rw [hstring] at hlookup
      exact hlookup
  | some x =>
      rw [hstring] at hlookup
      exact hlookup

/-- The new block holds its contents, if there was memory for it. -/
theorem contents_allocate (st : DisplayRun) (contents : Bytes) :
    (st.allocate env.allocated contents).contents = env.buffer contents := by
  unfold DisplayRun.allocate DisplayEnv.buffer
  cases env.allocated with
  | false => rfl
  | true => exact Function.update_self ..

/-- **The two lookups agree.** Both end and stay in the area; for number 0 the string is empty, and
each of the numbers from 1 on gives the string of this number. Beyond the last one the front page
has its error, and DFCI "Not Found". -/
theorem optional_string_lookup {smbios : SmbiosEnv} (hsmbios : smbios.asciiStrSize.Documented)
    {env : DisplayEnv} (h : env.asciiStrSize.Documented)
    (hconvert : env.asciiStrToUnicodeStrS.Documented) (strings : List AreaString) (index : UInt8)
    (size : Option Nat) (st : DisplayRun) :
    ∃ found out,
      (Smbios.getOptionalStringByIndex smbios (areaBytes strings) index size).Yields found ∧
      (getOptionalStringByIndex env (areaBytes strings) index st).Yields out ∧
      (index = 0 → found.string = smbios.buffer [0, 0] ∧
        out.1 = efiSuccess ∧ out.2.contents = env.buffer [0, 0]) ∧
      (∀ x, index ≠ 0 → strings[index.toNat - 1]? = some x →
        found.string = smbios.buffer x.bytes ∧
        out.1 = efiSuccess ∧ out.2.contents = env.buffer (unicodeString x.bytes)) ∧
      (strings.length < index.toNat → found.string = smbios.buffer idNotFound ∧
        out.1 = efiNotFound ∧ out.2.newString = none) := by
  refine ⟨_, _, Smbios.yields_getOptionalString hsmbios strings index size,
    yields_getOptionalString h strings index st, ?_, ?_, ?_⟩
  · intro hzero
    have hfront : env.foundString strings index = some [0, 0] := if_pos hzero
    rw [hfront]
    exact ⟨congrArg smbios.buffer (if_pos hzero), rfl, contents_allocate st [0, 0]⟩
  · intro x hzero hx
    have hstring : stringAt strings index = some x := hx
    have hdfci : optionalString strings index = x.bytes := by
      rw [optionalString, if_neg hzero, hstring]
    have hfront : env.foundString strings index = some (unicodeString x.bytes) := by
      rw [DisplayEnv.foundString, if_neg hzero, hstring, Option.map_some, AreaString.bytes,
        hconvert x.chars x.nonzero]
    rw [hfront]
    exact ⟨congrArg smbios.buffer hdfci, rfl, contents_allocate st _⟩
  · intro hbeyond
    have hzero : index ≠ 0 := by
      rintro rfl
      exact absurd hbeyond (Nat.not_lt_zero _)
    have hstring : stringAt strings index = none :=
      List.getElem?_eq_none (Nat.le_sub_one_of_lt hbeyond)
    have hdfci : optionalString strings index = idNotFound := by
      rw [optionalString, if_neg hzero, hstring]
    have hfront : env.foundString strings index = none := by
      rw [DisplayEnv.foundString, if_neg hzero, hstring, Option.map_none]
    rw [hfront]
    exact ⟨congrArg smbios.buffer hdfci, rfl, rfl⟩

end Lookup

/-! ## One platform -/

/-- The records of `acmePlatform`, and an enclosure without any string. -/
def acmeDisplay (productName serialNumber : UInt8) : DisplayEnv where
  locateProtocol := efiSuccess
  type1 := (acmePlatform productName serialNumber).type1
  type3 := .ok ⟨0, 0, []⟩
  asciiStrSize := asciiStrSize
  asciiStrToUnicodeStrS := unicodeString
  beyond _ := 0xFF
  printGuid _ := []
  allocated := true

/-- The second of two strings in both lookups. -/
theorem optional_string_lookup_second :
    ∃ found out,
      (Smbios.getOptionalStringByIndex (acmePlatform 0 1) (areaBytes [eightDigits, acme]) 2
        none).Yields found ∧
      (getOptionalStringByIndex (acmeDisplay 0 1) (areaBytes [eightDigits, acme]) 2
        (.start none ⟨fun _ => none, [], 0⟩)).Yields out ∧
      found.string = some [0x41, 0x63, 0x6D, 0x65, 0] ∧
      out.2.contents = some [0x41, 0, 0x63, 0, 0x6D, 0, 0x65, 0, 0, 0] := by
  have hsmbios : (acmePlatform 0 1).asciiStrSize.Documented := asciiStrSize_documented
  have hfront : (acmeDisplay 0 1).asciiStrSize.Documented := asciiStrSize_documented
  have hconvert : (acmeDisplay 0 1).asciiStrToUnicodeStrS.Documented := fun _ _ => rfl
  obtain ⟨found, out, hfound, hout, -, hsecond, -⟩ := optional_string_lookup hsmbios hfront hconvert
    [eightDigits, acme] 2 none (.start none ⟨fun _ => none, [], 0⟩)
  obtain ⟨hstring, -, hcontents⟩ := hsecond acme (by decide) rfl
  exact ⟨found, out, hfound, hout, hstring, hcontents⟩

/-! ## What is freed -/

/-- What happens to the pool between two states of the function, which releases only what it owns
exactly when `P` holds. -/
def DisplayRun.Balances (st st' : DisplayRun) (P : Prop) : Prop :=
  ∃ events, st'.events = st.events ++ events ∧ Balanced events P

theorem DisplayRun.Balances.trans {st st' st'' : DisplayRun} {P Q : Prop} (h : st.Balances st' P)
    (h' : st'.Balances st'' Q) : st.Balances st'' (P ∧ Q) := by
  obtain ⟨events, hst', hevents⟩ := h
  obtain ⟨events', hst'', hevents'⟩ := h'
  refine ⟨events ++ events', ?_, hevents.append hevents'⟩
  rw [hst'', hst', List.append_assoc]

/-- From the start of the function on. -/
theorem DisplayRun.Balances.freesOwn_iff {newString : Option Nat} {pool : Pool} {st : DisplayRun}
    {P : Prop} (h : (DisplayRun.start newString pool).Balances st P) :
    FreesOwn [] st.events ↔ P := by
  obtain ⟨events, hst, hevents⟩ := h
  rw [hst]
  exact hevents.safe

section Frees

variable {env : DisplayEnv}

variable (env) in
theorem isSome_foundString (strings : List AreaString) (index : UInt8) :
    (env.foundString strings index).isSome = true ↔ index.toNat ≤ strings.length := by
  unfold DisplayEnv.foundString
  by_cases hzero : index = 0
  · rw [if_pos hzero, hzero]
    exact iff_of_true rfl (Nat.zero_le _)
  · have hpos : 0 < index.toNat := Nat.pos_of_ne_zero fun hno =>
      hzero (UInt8.toNat_inj.mp hno)
    rw [if_neg hzero, Option.isSome_map, stringAt, isSome_getElem?]
    omega

/-- What is allocated is shown and freed. -/
theorem balances_show (hallocated : env.allocated = true) (s : PcInfoString) (contents : Bytes)
    (st : DisplayRun) :
    st.Balances ((st.allocate env.allocated contents).hiiSetString s).free True := by
  refine ⟨[.allocates st.pool.next, .frees (some st.pool.next)], ?_, balanced_pair _⟩
  rw [DisplayRun.allocate, if_pos hallocated]
  exact List.append_assoc ..

theorem balances_displayUuid (hallocated : env.allocated = true) (uuid : Block 16)
    (st : DisplayRun) : st.Balances (displayUuid env uuid st) True := by
  have hnew : (st.allocate env.allocated (env.printGuid uuid)).newString.isSome = true := by
    rw [DisplayRun.allocate, if_pos hallocated]
    rfl
  rw [displayUuid, if_pos hnew]
  exact balances_show hallocated .uuid (env.printGuid uuid) st

/-- **One string**: only what is owned is freed exactly when the record has this string. -/
theorem yields_displayString (h : env.asciiStrSize.Documented)
    (hallocated : env.allocated = true) (s : PcInfoString) (strings : List AreaString)
    (index : UInt8) (st : DisplayRun) :
    ∃ r, (displayString env s (areaBytes strings) index st).Yields r ∧
      st.Balances r.2 (index.toNat ≤ strings.length) := by
  have hlookup := yields_getOptionalString h strings index st
  rw [← isSome_foundString env]
  unfold displayString
  cases hfound : env.foundString strings index with
  | none =>
      rw [hfound] at hlookup
      dsimp only at hlookup
      refine ⟨(efiNotFound, { st.free with newString := none }),
        Looking.yields_bind.mpr ⟨_, hlookup, ?_⟩, [.frees st.newString], rfl, ?_⟩
      · rw [if_pos efiError_notFound]
        exact Looking.yields_pure.mpr rfl
      · rw [Option.isSome_none, eq_false Bool.false_ne_true]
        exact balanced_frees st.newString
  | some contents =>
      rw [hfound] at hlookup
      dsimp only at hlookup
      refine ⟨(efiSuccess, ((st.allocate env.allocated contents).hiiSetString s).free),
        Looking.yields_bind.mpr ⟨_, hlookup, ?_⟩, ?_⟩
      · rw [if_neg (by rw [efiError_success]; exact Bool.false_ne_true)]
        exact Looking.yields_pure.mpr rfl
      · rw [Option.isSome_some, eq_self]
        exact balances_show hallocated s contents st

/-- What UpdateDisplayStrings looks up is there. -/
def RecordsHaveStrings (env : DisplayEnv) : Prop :=
  (∀ r, env.type1 = .ok r →
    r.serialNumber.toNat ≤ r.strings.length ∧ r.productName.toNat ≤ r.strings.length) ∧
  ∀ r, env.type3 = .ok r → r.assetTag.toNat ≤ r.strings.length

theorem yields_displaySystemInformation (h : env.asciiStrSize.Documented)
    (hallocated : env.allocated = true) (st : DisplayRun) :
    ∃ st', (displaySystemInformation env st).Yields st' ∧ st.Balances st' (∀ r,
      env.type1 = .ok r →
        r.serialNumber.toNat ≤ r.strings.length ∧ r.productName.toNat ≤ r.strings.length) := by
  unfold displaySystemInformation
  cases env.type1 with
  | error e =>
      refine ⟨st, Looking.yields_pure.mpr rfl, [], (List.append_nil _).symm, ?_⟩
      simp only [reduceCtorEq, false_imp_iff, implies_true]
      exact balanced_nil
  | ok r =>
      obtain ⟨serial, hserial, hfirst⟩ :=
        yields_displayString h hallocated .serialNum r.strings r.serialNumber st
      obtain ⟨product, hproduct, hsecond⟩ :=
        yields_displayString h hallocated .model r.strings r.productName serial.2
      have hthird := balances_displayUuid hallocated r.uuid product.2
      refine ⟨displayUuid env r.uuid product.2, Looking.yields_bind.mpr ⟨_, hserial,
        Looking.yields_bind.mpr ⟨_, hproduct, Looking.yields_pure.mpr rfl⟩⟩, ?_⟩
      have hall := (hfirst.trans hsecond).trans hthird
      rw [and_true] at hall
      simpa only [Except.ok.injEq, forall_eq'] using hall

theorem yields_displaySystemEnclosure (h : env.asciiStrSize.Documented)
    (hallocated : env.allocated = true) (st : DisplayRun) :
    ∃ r, (displaySystemEnclosure env st).Yields r ∧ st.Balances r.2 (∀ r,
      env.type3 = .ok r → r.assetTag.toNat ≤ r.strings.length) := by
  unfold displaySystemEnclosure
  cases env.type3 with
  | error e =>
      refine ⟨(e.1, st), Looking.yields_pure.mpr rfl, [], (List.append_nil _).symm, ?_⟩
      simp only [reduceCtorEq, false_imp_iff, implies_true]
      exact balanced_nil
  | ok r =>
      obtain ⟨tag, htag, hframe⟩ :=
        yields_displayString h hallocated .assetTag r.strings r.assetTag st
      refine ⟨tag, htag, ?_⟩
      simpa only [Except.ok.injEq, forall_eq'] using hframe

/-- **When UpdateDisplayStrings frees only what it owns**, whatever NewString is at first: there is
no SMBIOS protocol, or each string that is looked up is there. -/
theorem display_frees_own_iff (h : env.asciiStrSize.Documented) (hallocated : env.allocated = true)
    (newString : Option Nat) (pool : Pool) :
    (∃ out, (updateDisplayStrings env (.start newString pool)).Yields out ∧
      FreesOwn [] out.2.events) ↔
      efiError env.locateProtocol = true ∨ RecordsHaveStrings env := by
  obtain ⟨out, hout, hbalances⟩ : ∃ out,
      (updateDisplayStrings env (.start newString pool)).Yields out ∧
      (DisplayRun.start newString pool).Balances out.2
        (efiError env.locateProtocol = true ∨ RecordsHaveStrings env) := by
    unfold updateDisplayStrings
    by_cases hlocate : efiError env.locateProtocol = true
    · rw [if_pos hlocate, eq_true (Or.inl hlocate)]
      exact ⟨_, Looking.yields_pure.mpr rfl, [], rfl, balanced_nil⟩
    · rw [if_neg hlocate, eq_false hlocate, false_or]
      obtain ⟨st, hsystem, hfirst⟩ :=
        yields_displaySystemInformation h hallocated (.start newString pool)
      obtain ⟨r, henclosure, hsecond⟩ := yields_displaySystemEnclosure h hallocated st
      exact ⟨r, Looking.yields_bind.mpr ⟨st, hsystem, henclosure⟩, hfirst.trans hsecond⟩
  constructor
  · rintro ⟨out', hout', hfrees⟩
    rw [hout'.unique hout] at hfrees
    exact hbalances.freesOwn_iff.mp hfrees
  · intro hcond
    exact ⟨out, hout, hbalances.freesOwn_iff.mpr hcond⟩

/-- Both strings of the record are there, and the enclosure asks for none. -/
theorem display_frees_own_acme :
    ∃ out, (updateDisplayStrings (acmeDisplay 1 2) (.start (some 7) ⟨fun _ => none, [], 0⟩)).Yields
      out ∧ FreesOwn [] out.2.events := by
  have hsize : (acmeDisplay 1 2).asciiStrSize.Documented := asciiStrSize_documented
  refine (display_frees_own_iff hsize rfl (some 7) ⟨fun _ => none, [], 0⟩).mpr (Or.inr ⟨?_, ?_⟩)
  · intro r hr
    cases hr
    exact ⟨Nat.le_refl 2, Nat.le_succ 1⟩
  · intro r hr
    cases hr
    exact Nat.le_refl 0

/-- A product name that is missing: the block of the serial number is freed once more. -/
theorem display_frees_twice :
    ¬ ∀ (env : DisplayEnv), env.asciiStrSize.Documented → env.allocated = true →
      ∀ newString pool, ∃ out, (updateDisplayStrings env (.start newString pool)).Yields out ∧
        FreesOwn [] out.2.events := by
  intro hall
  have hsize : (acmeDisplay 3 2).asciiStrSize.Documented := asciiStrSize_documented
  rcases (display_frees_own_iff hsize rfl none ⟨fun _ => none, [], 0⟩).mp
    (hall (acmeDisplay 3 2) hsize rfl none ⟨fun _ => none, [], 0⟩) with hlocate | ⟨hsystem, -⟩
  · exact Bool.false_ne_true hlocate
  · exact absurd (hsystem _ rfl).2 (Nat.not_succ_le_self 2)

end Frees

end OemPkg.FrontPage
