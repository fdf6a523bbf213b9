/-
# OemPkg.FrontPage.PasswordPrompts — the buffers of the password dialogs

SwmDialogsPasswordPrompt hands its caller what the user typed in a buffer that it allocates. Two
functions of the front page (`FrontPage/FrontPageUi.c`) prompt in a loop and have to track, wipe and
free these buffers: ChallengeUserPassword and SetSystemPassword. What they share is `promptLoop`;
the two differ in what they do with a password after OK, which is its parameter.

`BuffersReleased` says what becomes of each buffer, by what the dialog has done: it is wiped and freed
once, unless the dialog has overwritten the pointer to it, and then it is lost. `promptLoop_buffers`
proves it of the loop. ChallengeUserPassword is here, with the proof that its loop is the one
`FrontPage.Authentication` is about once the buffers are left out (`challengeLoop_seen`) and what that
means for them (`challengeUserPassword_buffers`); SetSystemPassword is in `FrontPage.PasswordChange`.
-/
import OemPkg.FrontPage.Authentication
import OemPkg.Lib.Loop
import OemPkg.Lib.Pool
import OemPkg.Password.Policy

namespace OemPkg.FrontPage

open OemPkg.Lib OemPkg.Uefi OemPkg.Password

/-! ## The loop -/

/-- A buffer of the dialog: its block, the string in it, and what is behind the terminator. -/
structure PasswordBuffer where
  block : Nat
  string : Char16String
  slack : Bytes

namespace PasswordBuffer

def contents (b : PasswordBuffer) : Bytes := b.string.bytes ++ [0, 0] ++ b.slack

/-- The contents after ZeroMem of StrLen * sizeof (CHAR16) bytes. -/
def wiped (b : PasswordBuffer) : Bytes :=
  splice 0 (List.replicate (b.string.length * 2) 0) b.contents

end PasswordBuffer

/-- What the dialog does with the pointer it is given. -/
inductive BufferWrite where
  | keeps
  | null
  | allocates (string : Char16String) (slack : Bytes)

/-- The string behind the pointer after the dialog has written it. -/
def BufferWrite.leaves (string : Option Char16String) : BufferWrite → Option Char16String
  | .keeps => string
  | .null => none
  | .allocates string _ => some string

/-- The buffer that the dialog allocates. -/
def BufferWrite.buffer : BufferWrite → Option (Char16String × Bytes)
  | .allocates string slack => some (string, slack)
  | _ => none

/-- One call of SwmDialogsPasswordPrompt. -/
structure PasswordPrompt where
  status : EfiStatus
  result : SwmMbResult
  write : BufferWrite

/-- The locals of a function that prompts: the pointer PasswordBuffer, and what else it keeps. Of
the pool, the number of the next block, what has happened in it, and what was in each buffer when it
was freed. -/
structure PromptState (τ : Type*) where
  passwordBuffer : Option PasswordBuffer
  next : Nat
  pool : List PoolEvent
  released : List (Nat × Bytes)
  rest : τ

/-- How the loop is left: without an answer, with the status of the dialog, or with a result. -/
inductive PromptExit (ρ : Type*) where
  | cancelled (status : EfiStatus)
  | answered (r : ρ)

variable {ι τ ρ : Type*}

namespace PromptState

/-- Before the first prompt. -/
def start (rest : τ) : PromptState τ := ⟨none, 0, [], [], rest⟩

/-- The block the pointer points to. -/
def block (st : PromptState τ) : Option Nat := st.passwordBuffer.map (·.block)

/-- The dialog writes the pointer. -/
def write (w : BufferWrite) (st : PromptState τ) : PromptState τ :=
  match w with
  | .keeps => st
  | .null => { st with passwordBuffer := none }
  | .allocates string slack =>
      { st with
        passwordBuffer := some ⟨st.next, string, slack⟩
        next := st.next + 1
        pool := st.pool ++ [.allocates st.next] }

/-- If a password buffer was used, it is wiped and freed. -/
def release (st : PromptState τ) : PromptState τ :=
  match st.passwordBuffer with
  | none => st
  | some b =>
      { st with
        passwordBuffer := none
        pool := st.pool ++ [.frees (some b.block)]
        released := st.released ++ [(b.block, b.wiped)] }

@[simp] theorem release_passwordBuffer (st : PromptState τ) :
    st.release.passwordBuffer = none := by
  unfold release
  cases hbuffer : st.passwordBuffer with
  | none => exact hbuffer
  | some b => rfl

@[simp] theorem release_rest (st : PromptState τ) : st.release.rest = st.rest := by
  unfold release
  cases st.passwordBuffer <;> rfl

@[simp] theorem write_rest (w : BufferWrite) (st : PromptState τ) :
    (st.write w).rest = st.rest := by
  cases w <;> rfl

end PromptState

/-- One round: the prompt, and `onOk` for a password after OK. -/
def promptRound (onOk : ι → Option Char16String → τ → Round τ (τ × ρ)) (i : PasswordPrompt × ι)
    (st : PromptState τ) : Round (PromptState τ) (PromptState τ × PromptExit ρ) :=
  let st := st.write i.1.write
  if efiError i.1.status || i.1.result == .idCancel then .done (st, .cancelled i.1.status)
  else if i.1.result == .idOk then
    match onOk i.2 (st.passwordBuffer.map (·.string)) st.rest with
    | .done (rest, r) => .done ({ st with rest }, .answered r)
    | .next rest => .next { st with rest }.release
  else .next st

/-! One equation for each way a round goes. -/

section Rounds

variable {onOk : ι → Option Char16String → τ → Round τ (τ × ρ)} {i : PasswordPrompt × ι}
  {st : PromptState τ}

/-- The string the prompt leaves in the buffer. -/
def PromptState.typed (st : PromptState τ) (i : PasswordPrompt × ι) : Option Char16String :=
  (st.write i.1.write).passwordBuffer.map (·.string)

/-- A dialog error or Cancel. -/
def PasswordPrompt.stops (p : PasswordPrompt) : Bool :=
  efiError p.status || p.result == .idCancel

theorem promptRound_stops (h : i.1.stops = true) :
    promptRound onOk i st = .done (st.write i.1.write, .cancelled i.1.status) := by
  unfold promptRound
  exact if_pos h

theorem promptRound_skips (hstop : i.1.stops = false) (hok : (i.1.result == .idOk) = false) :
    promptRound onOk i st = .next (st.write i.1.write) := by
  unfold promptRound
  dsimp only
  rw [← PasswordPrompt.stops, hstop, hok]
  rfl

/-- What OK leads to. -/
theorem promptRound_asks (hstop : i.1.stops = false) (hok : (i.1.result == .idOk) = true) :
    promptRound onOk i st =
      match onOk i.2 (st.typed i) st.rest with
      | .done (rest, r) => .done ({ st.write i.1.write with rest }, .answered r)
      | .next rest => .next { st.write i.1.write with rest }.release := by
  unfold promptRound PromptState.typed
  dsimp only
  rw [← PasswordPrompt.stops, hstop, hok, if_neg Bool.false_ne_true, if_pos rfl,
    PromptState.write_rest]

theorem promptRound_done (hstop : i.1.stops = false) (hok : (i.1.result == .idOk) = true) {l : τ}
    {r : ρ} (h : onOk i.2 (st.typed i) st.rest = .done (l, r)) :
    promptRound onOk i st = .done ({ st.write i.1.write with rest := l }, .answered r) := by
  rw [promptRound_asks hstop hok, h]

theorem promptRound_next (hstop : i.1.stops = false) (hok : (i.1.result == .idOk) = true) {l : τ}
    (h : onOk i.2 (st.typed i) st.rest = .next l) :
    promptRound onOk i st = .next { st.write i.1.write with rest := l }.release := by
  rw [promptRound_asks hstop hok, h]

end Rounds

/-- The loop, and the release behind it. -/
def promptLoop (onOk : ι → Option Char16String → τ → Round τ (τ × ρ))
    (prompts : List (PasswordPrompt × ι)) (st : PromptState τ) :
    Round (PromptState τ) (PromptState τ × PromptExit ρ) :=
  match interact (promptRound onOk) prompts st with
  | .done (st, e) => .done (st.release, e)
  | .next st => .next st

/-! ## What the dialog has done -/

/-- The buffers that the prompts allocate, in order. The number of one is that of its block. -/
def buffersOf (prompts : List (PasswordPrompt × ι)) : List (Char16String × Bytes) :=
  prompts.filterMap fun i => i.1.write.buffer

/-- **The prompts leave the pointer at buffer `b`**: one of them has allocated it, and since then none
has written the pointer, and none was answered with OK. -/
inductive LeftAt : List (PasswordPrompt × ι) → Nat → Prop
  | allocates {past : List (PasswordPrompt × ι)} {i : PasswordPrompt × ι}
      (hwrite : i.1.write.buffer.isSome = true) (hresult : i.1.result ≠ .idOk) :
      LeftAt (past ++ [i]) (buffersOf past).length
  | keeps {past : List (PasswordPrompt × ι)} {i : PasswordPrompt × ι} {b : Nat} (h : LeftAt past b)
      (hwrite : i.1.write = .keeps) (hresult : i.1.result ≠ .idOk) : LeftAt (past ++ [i]) b

/-- **Buffer `b` is overwritten**: a prompt writes the pointer while it points there. -/
def Overwritten (prompts : List (PasswordPrompt × ι)) (b : Nat) : Prop :=
  ∃ past i after, prompts = past ++ i :: after ∧ LeftAt past b ∧ i.1.write ≠ .keeps

section Prompts

variable {past : List (PasswordPrompt × ι)} {i : PasswordPrompt × ι} {b : Nat}

theorem buffersOf_append (past after : List (PasswordPrompt × ι)) :
    buffersOf (past ++ after) = buffersOf past ++ buffersOf after := List.filterMap_append

theorem buffersOf_snoc : buffersOf (past ++ [i]) = buffersOf past ++ i.1.write.buffer.toList := by
  rw [buffersOf_append]
  cases h : i.1.write.buffer <;> simp [buffersOf, h]

theorem not_leftAt_nil : ¬ LeftAt ([] : List (PasswordPrompt × ι)) b := by
  intro h
  generalize hread : ([] : List (PasswordPrompt × ι)) = read at h
  cases h with
  | allocates hwrite hresult => simp at hread
  | keeps h hwrite hresult => simp at hread

/-- One more prompt. -/
theorem leftAt_snoc : LeftAt (past ++ [i]) b ↔ i.1.result ≠ .idOk ∧
    (i.1.write = .keeps ∧ LeftAt past b ∨
      i.1.write.buffer.isSome = true ∧ b = (buffersOf past).length) := by
  constructor
  · intro h
    generalize hread : past ++ [i] = read at h
    cases h with
    | allocates hwrite hresult =>
        obtain ⟨rfl, hi⟩ := List.append_inj' hread rfl
        cases hi
        exact ⟨hresult, .inr ⟨hwrite, rfl⟩⟩
    | keeps h hwrite hresult =>
        obtain ⟨rfl, hi⟩ := List.append_inj' hread rfl
        cases hi
        exact ⟨hresult, .inl ⟨hwrite, h⟩⟩
  · rintro ⟨hresult, ⟨hwrite, h⟩ | ⟨hwrite, rfl⟩⟩
    · exact .keeps h hwrite hresult
    · exact .allocates hwrite hresult

theorem overwritten_snoc : Overwritten (past ++ [i]) b ↔
    Overwritten past b ∨ LeftAt past b ∧ i.1.write ≠ .keeps := by
  constructor
  · rintro ⟨before, j, after, hread, hleft, hwrite⟩
    rcases List.eq_nil_or_concat' after with rfl | ⟨after, k, rfl⟩
    · obtain ⟨rfl, hj⟩ := List.append_inj' hread rfl
      cases hj
      exact .inr ⟨hleft, hwrite⟩
    · rw [← List.cons_append, ← List.append_assoc] at hread
      obtain ⟨rfl, -⟩ := List.append_inj' hread rfl
      exact .inl ⟨before, j, after, rfl, hleft, hwrite⟩
  · rintro (⟨before, j, after, rfl, hleft, hwrite⟩ | ⟨hleft, hwrite⟩)
    · exact ⟨before, j, after ++ [i], by rw [List.append_assoc, List.cons_append], hleft, hwrite⟩
    · exact ⟨past, i, [], rfl, hleft, hwrite⟩

/-- The pointer is left at a buffer by a prompt that was not answered with OK. -/
theorem LeftAt.exists_other (h : LeftAt past b) (hstops : ∀ j ∈ past, j.1.stops = false) :
    ∃ j ∈ past, j.1.result = .other := by
  have hlast : ∃ j ∈ past, j.1.result ≠ .idOk := by
    cases h with
    | allocates hwrite hresult => exact ⟨_, List.mem_append_right _ List.mem_cons_self, hresult⟩
    | keeps h hwrite hresult => exact ⟨_, List.mem_append_right _ List.mem_cons_self, hresult⟩
  obtain ⟨j, hj, hresult⟩ := hlast
  refine ⟨j, hj, ?_⟩
  have hgoes := hstops j hj
  unfold PasswordPrompt.stops at hgoes
  cases hr : j.1.result with
  | idOk => exact absurd hr hresult
  | idCancel =>
      rw [hr, beq_self_eq_true, Bool.or_true] at hgoes
      exact Bool.noConfusion hgoes
  | other => rfl

end Prompts

/-- **What becomes of the buffers** of the prompts that have been read. -/
structure BuffersReleased (read : List (PasswordPrompt × ι)) (st : PromptState τ) : Prop where
  /-- only buffers of the dialog are freed, while they are there -/
  own : FreesOwn [] st.pool
  allocated : allocations st.pool = List.range (buffersOf read).length
  /-- each is freed once unless it has been overwritten -/
  once : ∀ b < (buffersOf read).length, ¬ Overwritten read b → (releases st.pool).count b = 1
  /-- those are lost -/
  lost : ∀ b, Overwritten read b → (releases st.pool).count b = 0
  left : ∀ b, b ∈ ownedAfter [] st.pool ↔ Overwritten read b
  /-- what is in a buffer when it is freed: nothing of the string -/
  wiped : st.released.map Prod.fst = releases st.pool ∧
    ∀ b contents, (b, contents) ∈ st.released → ∃ string slack,
      (buffersOf read)[b]? = some (string, slack) ∧
        contents = List.replicate (string.length * 2 + 2) 0 ++ slack

/-! ## The invariant -/

theorem length_bytes (s : Char16String) : s.bytes.length = s.length * 2 := by
  unfold Char16String.bytes Char16String.length
  induction s.chars with
  | nil => rfl
  | cons c cs ih =>
      rw [List.flatMap_cons, List.length_append, ih, length_leBytes, List.length_cons]
      omega

/-- **ZeroMem leaves nothing of the string.** -/
theorem PasswordBuffer.wiped_eq (b : PasswordBuffer) :
    b.wiped = List.replicate (b.string.length * 2 + 2) 0 ++ b.slack := by
  have hlength : (List.replicate (b.string.length * 2) (0 : UInt8)).length =
      b.string.bytes.length := by
    rw [List.length_replicate, length_bytes]
  unfold PasswordBuffer.wiped PasswordBuffer.contents splice
  rw [List.take_zero, List.nil_append, Nat.zero_add, hlength, List.append_assoc,
    List.drop_left, List.replicate_add, List.append_assoc]
  rfl

/-- The state tells of the prompts `past`: the pointer is at a buffer with `pointed`, and `lost` are
those that have been overwritten. -/
structure Kept (past : List (PasswordPrompt × ι)) (pointed : Nat → Prop) (lost : List Nat)
    (st : PromptState τ) : Prop where
  next : st.next = (buffersOf past).length
  safe : FreesOwn [] st.pool
  allocated : allocations st.pool = List.range st.next
  owned : ownedAfter [] st.pool = st.block.toList ++ lost
  lost_iff : ∀ b, b ∈ lost ↔ Overwritten past b
  pointed_iff : ∀ b, st.block = some b ↔ pointed b
  contents : ∀ b, st.passwordBuffer = some b → (buffersOf past)[b.block]? = some (b.string, b.slack)
  frees : st.released.map Prod.fst = releases st.pool
  wiped : ∀ b contents, (b, contents) ∈ st.released → ∃ string slack,
    (buffersOf past)[b]? = some (string, slack) ∧
      contents = List.replicate (string.length * 2 + 2) 0 ++ slack

section Kept

variable {past : List (PasswordPrompt × ι)} {pointed : Nat → Prop} {lost : List Nat}
  {st : PromptState τ}

theorem kept_start (rest : τ) : Kept ([] : List (PasswordPrompt × ι))
    (LeftAt ([] : List (PasswordPrompt × ι))) [] (PromptState.start rest) where
  next := rfl
  safe := trivial
  allocated := rfl
  owned := rfl
  lost_iff b := by
    refine iff_of_false List.not_mem_nil ?_
    rintro ⟨past, i, after, hread, -, -⟩
    simp at hread
  pointed_iff b := iff_of_false (fun h => nomatch h) not_leftAt_nil
  contents _ h := nomatch h
  frees := rfl
  wiped _ _ h := nomatch h

theorem Kept.of_rest (h : Kept past pointed lost st) (rest : τ) :
    Kept past pointed lost { st with rest } :=
  ⟨h.next, h.safe, h.allocated, h.owned, h.lost_iff, h.pointed_iff, h.contents, h.frees, h.wiped⟩

theorem Kept.of_pointed (h : Kept past pointed lost st) {pointed' : Nat → Prop}
    (hiff : ∀ b, pointed b ↔ pointed' b) : Kept past pointed' lost st :=
  { h with pointed_iff := fun b => (h.pointed_iff b).trans (hiff b) }

/-- What has been read of the buffers stays as it is when more is read. -/
theorem getElem?_buffersOf_append {b : Nat} {buffer : Char16String × Bytes}
    (h : (buffersOf past)[b]? = some buffer) (after : List (PasswordPrompt × ι)) :
    (buffersOf (past ++ after))[b]? = some buffer := by
  obtain ⟨hlt, -⟩ := List.getElem?_eq_some_iff.mp h
  rw [buffersOf_append, List.getElem?_append_left hlt]
  exact h

/-- The buffer a prompt has in hand: the one it has allocated, or the one it has kept. -/
def InHand (past : List (PasswordPrompt × ι)) (i : PasswordPrompt × ι) (b : Nat) : Prop :=
  i.1.write = .keeps ∧ LeftAt past b ∨
    i.1.write.buffer.isSome = true ∧ b = (buffersOf past).length

/-- What was in the freed buffers does not depend on what is read later. -/
theorem Kept.wiped_append (h : Kept past pointed lost st) (after : List (PasswordPrompt × ι)) :
    ∀ b contents, (b, contents) ∈ st.released → ∃ string slack,
      (buffersOf (past ++ after))[b]? = some (string, slack) ∧
        contents = List.replicate (string.length * 2 + 2) 0 ++ slack := by
  intro b contents hmem
  obtain ⟨string, slack, hbuffer, hcontents⟩ := h.wiped b contents hmem
  exact ⟨string, slack, getElem?_buffersOf_append hbuffer after, hcontents⟩

/-- Where the pointer is written, the buffer it was at is overwritten as well. -/
theorem Kept.overwrites (h : Kept past (LeftAt past) lost st) {i : PasswordPrompt × ι}
    (hwrite : i.1.write ≠ .keeps) (b : Nat) :
    b ∈ st.block.toList ++ lost ↔ Overwritten (past ++ [i]) b := by
  rw [List.mem_append, Option.mem_toList, h.pointed_iff, h.lost_iff, overwritten_snoc, or_comm]
  exact or_congr_right (and_iff_left hwrite).symm

/-- **A write loses the buffer it overwrites**, and no other. -/
theorem Kept.write (h : Kept past (LeftAt past) lost st) (i : PasswordPrompt × ι) :
    ∃ lost', Kept (past ++ [i]) (InHand past i) lost' (st.write i.1.write) := by
  have hbuffers : buffersOf (past ++ [i]) = buffersOf past ++ i.1.write.buffer.toList :=
    buffersOf_snoc
  cases hw : i.1.write with
  | keeps =>
      refine ⟨lost, ?_⟩
      have hsame : buffersOf (past ++ [i]) = buffersOf past := by
        rw [hbuffers, hw]
        exact List.append_nil _
      refine ⟨h.next.trans (congrArg List.length hsame.symm), h.safe, h.allocated, h.owned, ?_, ?_,
        ?_, h.frees, h.wiped_append [i]⟩
      · intro b
        rw [h.lost_iff, overwritten_snoc]
        exact (or_iff_left fun hno => hno.2 hw).symm
      · intro b
        unfold InHand
        rw [PromptState.write, h.pointed_iff, hw]
        simp [BufferWrite.buffer]
      · intro b hb
        rw [hsame]
        exact h.contents b hb
  | null =>
      refine ⟨st.block.toList ++ lost, ?_⟩
      have hsame : buffersOf (past ++ [i]) = buffersOf past := by
        rw [hbuffers, hw]
        exact List.append_nil _
      refine ⟨h.next.trans (congrArg List.length hsame.symm), h.safe, h.allocated, h.owned,
        h.overwrites (by rw [hw]; nofun), ?_, fun b hb => (nomatch hb), h.frees, h.wiped_append [i]⟩
      intro b
      unfold InHand
      rw [hw]
      simp [PromptState.write, PromptState.block, BufferWrite.buffer]
  | allocates string slack =>
      refine ⟨st.block.toList ++ lost, ?_⟩
      have hmore : buffersOf (past ++ [i]) = buffersOf past ++ [(string, slack)] := by
        rw [hbuffers, hw]
        rfl
      refine ⟨?_, ?_, ?_, ?_, h.overwrites (by rw [hw]; nofun), ?_, ?_, ?_, h.wiped_append [i]⟩
      · rw [hmore, List.length_append, ← h.next]
        rfl
      · exact (freesOwn_append _ _).mpr ⟨h.safe, trivial⟩
      · show allocations (st.pool ++ [.allocates st.next]) = List.range (st.next + 1)
        rw [allocations_append, h.allocated, List.range_succ]
        rfl
      · show ownedAfter [] (st.pool ++ [.allocates st.next]) = _
        rw [ownedAfter_append, h.owned]
        rfl
      · intro b
        unfold InHand
        rw [hw, ← h.next]
        simp [PromptState.write, PromptState.block, BufferWrite.buffer, eq_comm]
      · rintro b ⟨⟩
        rw [hmore, h.next]
        exact List.getElem?_concat_length
      · show st.released.map Prod.fst = releases (st.pool ++ [.allocates st.next])
        rw [releases_append, ← h.frees]
        exact (List.append_nil _).symm

/-- **A release frees the buffer**, with nothing of the string in it. -/
theorem Kept.release (h : Kept past pointed lost st) :
    Kept past (fun _ => False) lost st.release := by
  unfold PromptState.release
  cases hbuffer : st.passwordBuffer with
  | none =>
      refine h.of_pointed fun b => iff_of_false ?_ id
      rw [← h.pointed_iff, PromptState.block, hbuffer]
      nofun
  | some b =>
      have howned : ownedAfter [] st.pool = b.block :: lost := by
        rw [h.owned, PromptState.block, hbuffer]
        rfl
      refine ⟨h.next, ?_, ?_, ?_, h.lost_iff, fun b => iff_of_false (fun h => nomatch h) id,
        fun b hb => (nomatch hb), ?_, ?_⟩
      · rw [freesOwn_append]
        refine ⟨h.safe, ?_⟩
        rw [howned]
        exact ⟨List.mem_cons_self, trivial⟩
      · show allocations (st.pool ++ [.frees (some b.block)]) = _
        rw [allocations_append, h.allocated]
        exact List.append_nil _
      · show ownedAfter [] (st.pool ++ [.frees (some b.block)]) = lost
        rw [ownedAfter_append, howned]
        exact List.erase_cons_head b.block lost
      · show (st.released ++ [(b.block, b.wiped)]).map Prod.fst =
          releases (st.pool ++ [.frees (some b.block)])
        rw [List.map_append, h.frees, releases_append]
        rfl
      · intro b' contents hmem
        rcases List.mem_append.mp hmem with hmem | hmem
        · exact h.wiped b' contents hmem
        · cases List.mem_singleton.mp hmem
          exact ⟨b.string, b.slack, h.contents b hbuffer, b.wiped_eq⟩

/-- **At the end** nothing is left but what has been overwritten. -/
theorem Kept.buffersReleased (h : Kept past (fun _ => False) lost st) :
    BuffersReleased past st := by
  have hnull : st.block = none := Option.eq_none_iff_forall_not_mem.mpr fun b hb =>
    (h.pointed_iff b).mp hb
  have howned : ownedAfter [] st.pool = lost := by
    rw [h.owned, hnull]
    rfl
  have hallocated : allocations st.pool = List.range (buffersOf past).length :=
    h.allocated.trans (congrArg List.range h.next)
  have hnodup : (allocations st.pool).Nodup := hallocated ▸ List.nodup_range
  have hleft : ∀ b, b ∈ ownedAfter [] st.pool ↔ Overwritten past b :=
    fun b => howned ▸ h.lost_iff b
  have hcount : ∀ b < (buffersOf past).length,
      (Overwritten past b → (releases st.pool).count b = 0) ∧
        (¬ Overwritten past b → (releases st.pool).count b = 1) := by
    intro b hb
    rw [← hleft]
    exact h.safe.count_releases hnodup (hallocated ▸ List.mem_range.mpr hb)
  refine ⟨h.safe, hallocated, fun b hb => (hcount b hb).2, ?_, hleft, h.frees, h.wiped⟩
  intro b hover
  refine (hcount b ?_).1 hover
  -- what is owned has been allocated
  have hperm := (FreesOwn.perm st.pool h.safe).mem_iff (a := b)
  rw [List.nil_append, hallocated, List.mem_range] at hperm
  exact hperm.mpr (List.mem_append_right _ ((hleft b).mpr hover))

end Kept

/-! ## The buffers of a loop -/

section Loop

variable (onOk : ι → Option Char16String → τ → Round τ (τ × ρ))

/-- The prompts that are shown before the loop is left. -/
def promptsRead (prompts : List (PasswordPrompt × ι)) (rest : τ) : List (PasswordPrompt × ι) :=
  inputsRead (promptRound onOk) prompts (.start rest)

/-- The loop waits for the next prompt. -/
def Waits (past : List (PasswordPrompt × ι)) (st : PromptState τ) : Prop :=
  (∃ lost, Kept past (LeftAt past) lost st) ∧ ∀ j ∈ past, j.1.stops = false

/-- The loop has been left. -/
def Left (past : List (PasswordPrompt × ι)) (r : PromptState τ × PromptExit ρ) : Prop :=
  (∃ pointed lost, Kept past pointed lost r.1) ∧
    ((∀ j ∈ past, j.1.result ≠ .other) → ∀ b, ¬ Overwritten past b)

/-- Dialogs that know no other result overwrite nothing. -/
theorem not_overwritten {past : List (PasswordPrompt × ι)} (hstops : ∀ j ∈ past, j.1.stops = false)
    (i : PasswordPrompt × ι) (h : ∀ j ∈ past ++ [i], j.1.result ≠ .other) (b : Nat) :
    ¬ Overwritten (past ++ [i]) b := by
  rintro ⟨before, j, after, hread, hleft, -⟩
  have hbefore : ∀ k ∈ before, k ∈ past := by
    rcases List.eq_nil_or_concat' after with rfl | ⟨after, k, rfl⟩
    · obtain ⟨rfl, -⟩ := List.append_inj' hread rfl
      exact fun k hk => hk
    · rw [← List.cons_append, ← List.append_assoc] at hread
      obtain ⟨rfl, -⟩ := List.append_inj' hread rfl
      exact fun k hk => List.mem_append_left _ hk
  obtain ⟨k, hk, hother⟩ := hleft.exists_other fun k hk => hstops k (hbefore k hk)
  exact h k (List.mem_append_left _ (hbefore k hk)) hother

/-- **One round.** -/
theorem promptRound_kept (past : List (PasswordPrompt × ι)) (i : PasswordPrompt × ι)
    (st : PromptState τ) (h : Waits past st) :
    (promptRound onOk i st).Holds (Waits (past ++ [i])) (Left (past ++ [i])) := by
  obtain ⟨⟨lost, hkept⟩, hstops⟩ := h
  obtain ⟨lost', hwrite⟩ := hkept.write i
  have hleft : ∀ {st' : PromptState τ} {e : PromptExit ρ},
      Kept (past ++ [i]) (InHand past i) lost' st' → Left (past ++ [i]) (st', e) :=
    fun h => ⟨⟨_, _, h⟩, not_overwritten hstops i⟩
  cases hstop : i.1.stops with
  | true =>
      rw [promptRound_stops hstop]
      exact hleft hwrite
  | false =>
      have hnext : ∀ j ∈ past ++ [i], j.1.stops = false := by
        intro j hj
        rcases List.mem_append.mp hj with hj | hj
        · exact hstops j hj
        · rw [List.mem_singleton.mp hj]
          exact hstop
      cases hok : i.1.result == .idOk with
      | false =>
          have hresult : i.1.result ≠ .idOk := fun h => by rw [h] at hok; exact Bool.noConfusion hok
          rw [promptRound_skips hstop hok]
          refine ⟨⟨lost', hwrite.of_pointed fun b => ?_⟩, hnext⟩
          rw [leftAt_snoc]
          exact (and_iff_right hresult).symm
      | true =>
          rw [promptRound_asks hstop hok]
          cases onOk i.2 (st.typed i) st.rest with
          | done r => exact hleft (hwrite.of_rest r.1)
          | next rest =>
              refine ⟨⟨lost', (hwrite.of_rest rest).release.of_pointed fun b => ?_⟩, hnext⟩
              rw [leftAt_snoc]
              exact iff_of_false id fun h => h.1 (beq_iff_eq.mp hok)

/-- **The buffers of a loop that ends**: each is wiped and freed once unless it is overwritten, and
with dialogs that know no other result nothing is left. -/
theorem promptLoop_buffers (prompts : List (PasswordPrompt × ι)) (rest : τ) :
    let read := promptsRead onOk prompts rest
    (promptLoop onOk prompts (.start rest)).Holds (fun _ => True) fun r =>
      BuffersReleased read r.1 ∧
        ((∀ i ∈ read, i.1.result ≠ .other) → ownedAfter [] r.1.pool = []) := by
  intro read
  have hstart : Waits ([] : List (PasswordPrompt × ι)) (PromptState.start rest) :=
    ⟨⟨[], kept_start rest⟩, fun j hj => absurd hj List.not_mem_nil⟩
  have hrun := interact_history (promptRound_kept onOk) prompts [] hstart
  unfold promptLoop
  cases hend : interact (promptRound onOk) prompts (.start rest) with
  | next st => exact trivial
  | done r =>
      rw [hend] at hrun
      obtain ⟨⟨pointed, lost, hkept⟩, hother⟩ := hrun
      have hreleased := hkept.release.buffersReleased
      refine ⟨hreleased, fun hresults => List.eq_nil_iff_forall_not_mem.mpr fun b hb => ?_⟩
      exact hother hresults b ((hreleased.left b).mp hb)

end Loop

/-! ## ChallengeUserPassword -/

/-- What ChallengeUserPassword keeps besides the buffer: MaxAttempts, mAuthToken, and the calls of
GetAuthToken so far. -/
structure ChallengeLocals where
  maxAttempts : UInt8
  token : DfciAuthToken
  attempts : List Attempt

section Challenge

variable (invalid : DfciAuthToken)

/-- What ChallengeUserPassword does with a password. The source releases the buffer of a failed
attempt before it counts the attempts; when that was the last one, the loop is left with a NULL
pointer, and here the release behind the loop does it. -/
def challengeOnOk (services : AuthServices) (string : Option Char16String) (l : ChallengeLocals) :
    Round ChallengeLocals (ChallengeLocals × LoopExit) :=
  let attempt := getAuthToken invalid services (string.map (·.chars)) l.token
  let attempts := l.attempts ++ [attempt]
  if attempt.status = efiSuccess then
    .done (⟨l.maxAttempts, attempt.token, attempts⟩, .authenticated)
  else if l.maxAttempts ≠ 0 ∧ l.maxAttempts - 1 = 0 then
    .done (⟨l.maxAttempts - 1, attempt.token, attempts⟩, .attemptsExpired)
  else
    .next ⟨if l.maxAttempts ≠ 0 then l.maxAttempts - 1 else 0, attempt.token, attempts⟩

section OnOk

variable {invalid} {services : AuthServices} {string : Option Char16String} {l : ChallengeLocals}
  {attempt : Attempt}

theorem challengeOnOk_authenticates
    (hattempt : getAuthToken invalid services (string.map (·.chars)) l.token = attempt)
    (h : attempt.status = efiSuccess) :
    challengeOnOk invalid services string l =
      .done (⟨l.maxAttempts, attempt.token, l.attempts ++ [attempt]⟩, .authenticated) := by
  unfold challengeOnOk
  rw [hattempt]
  dsimp only
  rw [if_pos h]

theorem challengeOnOk_expires
    (hattempt : getAuthToken invalid services (string.map (·.chars)) l.token = attempt)
    (h : attempt.status ≠ efiSuccess) (hlast : l.maxAttempts ≠ 0 ∧ l.maxAttempts - 1 = 0) :
    challengeOnOk invalid services string l =
      .done (⟨l.maxAttempts - 1, attempt.token, l.attempts ++ [attempt]⟩, .attemptsExpired) := by
  unfold challengeOnOk
  rw [hattempt]
  dsimp only
  rw [if_neg h, if_pos hlast]

theorem challengeOnOk_retries
    (hattempt : getAuthToken invalid services (string.map (·.chars)) l.token = attempt)
    (h : attempt.status ≠ efiSuccess) (hmore : ¬ (l.maxAttempts ≠ 0 ∧ l.maxAttempts - 1 = 0)) :
    challengeOnOk invalid services string l =
      .next ⟨if l.maxAttempts ≠ 0 then l.maxAttempts - 1 else 0, attempt.token,
        l.attempts ++ [attempt]⟩ := by
  unfold challengeOnOk
  rw [hattempt]
  dsimp only
  rw [if_neg h, if_neg hmore]

end OnOk

/-- The loop of ChallengeUserPassword with its buffers. -/
def challengeUserPasswordPrompts (prompts : List (PasswordPrompt × AuthServices))
    (maxAttempts : UInt8) (token : DfciAuthToken) :
    Round (PromptState ChallengeLocals) (PromptState ChallengeLocals × PromptExit LoopExit) :=
  promptLoop (challengeOnOk invalid) prompts (.start ⟨maxAttempts, token, []⟩)

/-- The string behind the pointer when the next prompt is shown: none after OK. -/
def PasswordPrompt.leaves (string : Option Char16String) (p : PasswordPrompt) :
    Option Char16String :=
  if p.result == .idOk then none else p.write.leaves string

/-- The rounds without the buffers: each with the string behind the pointer. -/
def seenRounds : (string : Option Char16String) → List (PasswordPrompt × AuthServices) →
    List PasswordRound
  | _, [] => []
  | string, i :: is =>
      ⟨i.1.status, i.1.result, (i.1.write.leaves string).map (·.chars), i.2⟩ ::
        seenRounds (i.1.leaves string) is

/-- The loop without its buffers. -/
def withoutBuffers :
    Round (PromptState ChallengeLocals) (PromptState ChallengeLocals × PromptExit LoopExit) →
      Challenge
  | .next st => ⟨none, st.rest.token, st.rest.attempts⟩
  | .done (st, .cancelled _) => ⟨some .cancelled, st.rest.token, st.rest.attempts⟩
  | .done (st, .answered exit) => ⟨some exit, st.rest.token, st.rest.attempts⟩

/-- The string in the buffer. -/
def PromptState.string (st : PromptState τ) : Option Char16String :=
  st.passwordBuffer.map (·.string)

theorem string_write (w : BufferWrite) (st : PromptState τ) :
    (st.write w).string = w.leaves st.string := by
  cases w <;> rfl

theorem string_release (st : PromptState τ) : st.release.string = none := by
  rw [PromptState.string, PromptState.release_passwordBuffer]
  rfl

theorem typed_eq (st : PromptState τ) (i : PasswordPrompt × ι) :
    st.typed i = i.1.write.leaves st.string := string_write i.1.write st

/-- The first of the rounds without buffers, in the state `st`. -/
def PromptState.round (st : PromptState τ) (i : PasswordPrompt × AuthServices) : PasswordRound :=
  ⟨i.1.status, i.1.result, (i.1.write.leaves st.string).map (·.chars), i.2⟩

theorem seenRounds_cons (st : PromptState τ) (i : PasswordPrompt × AuthServices)
    (is : List (PasswordPrompt × AuthServices)) :
    seenRounds st.string (i :: is) = st.round i :: seenRounds (i.1.leaves st.string) is := rfl

/-- After OK the two rounds agree on what the dialog said. -/
theorem asks_round {st : PromptState τ} {i : PasswordPrompt × AuthServices}
    (h : (st.round i).asks = true) : i.1.stops = false ∧ (i.1.result == .idOk) = true := by
  have hstops : (st.round i).stops = false := stops_of_asks h
  have hok : ((st.round i).swmResult == .idOk) = true := idOk_of_asks h
  exact ⟨hstops, hok⟩

/-- Attempts made before. -/
def Challenge.after (c : Challenge) (attempts : List Attempt) : Challenge :=
  { c with attempts := attempts ++ c.attempts }

/-- **The two loops go together**, by induction on the prompts. -/
theorem challengeLoop_seen (prompts : List (PasswordPrompt × AuthServices)) :
    ∀ st : PromptState ChallengeLocals,
      withoutBuffers (interact (promptRound (challengeOnOk invalid)) prompts st) =
        (challengeLoop invalid (seenRounds st.string prompts) st.rest.maxAttempts
          st.rest.token).after st.rest.attempts := by
  induction prompts with
  | nil =>
      intro st
      show (⟨none, st.rest.token, st.rest.attempts⟩ : Challenge) =
        ⟨none, st.rest.token, st.rest.attempts ++ []⟩
      rw [List.append_nil]
  | cons i prompts ih =>
      intro st
      rw [seenRounds_cons]
      -- both loops make the same attempt, if they make one
      have hattempt : ∃ attempt,
          getAuthToken invalid i.2 ((st.typed i).map (·.chars)) st.rest.token = attempt ∧
          getAuthToken invalid (st.round i).services (st.round i).passwordBuffer st.rest.token =
            attempt := by
        rw [typed_eq]
        exact ⟨_, rfl, rfl⟩
      obtain ⟨attempt, hours, htheirs⟩ := hattempt
      cases roundCase invalid (st.round i) st.rest.maxAttempts with
      | stops stops =>
          -- cancelled: the dialog may have written a buffer, which nothing reads
          rw [challengeLoop_stops stops, interact_cons_done (promptRound_stops stops)]
          show (⟨some .cancelled, (st.write i.1.write).rest.token, _⟩ : Challenge) =
            ⟨some .cancelled, st.rest.token, st.rest.attempts ++ []⟩
          rw [List.append_nil, PromptState.write_rest]
      | skips stops asks =>
          -- not OK: the buffer is kept for the next round
          have hok : (i.1.result == .idOk) = false := by
            rwa [PasswordRound.asks, stops, Bool.not_false, Bool.true_and] at asks
          rw [challengeLoop_skips stops asks, interact_cons_next (promptRound_skips stops hok), ih,
            PasswordPrompt.leaves, hok, if_neg Bool.false_ne_true, PromptState.write_rest,
            string_write]
      | authenticates asks auth =>
          have hstatus : attempt.status = efiSuccess := by
            rw [← htheirs]
            exact authenticates_iff.mp auth
          have hdone := challengeOnOk_authenticates hours hstatus
          obtain ⟨hstop, hok⟩ := asks_round asks
          rw [challengeLoop_authenticates asks auth, htheirs,
            interact_cons_done (promptRound_done hstop hok hdone)]
          rfl
      | expires asks auth last =>
          have hstatus : attempt.status ≠ efiSuccess := by
            rw [← htheirs]
            exact status_ne_success auth
          have hdone := challengeOnOk_expires hours hstatus last
          obtain ⟨hstop, hok⟩ := asks_round asks
          rw [challengeLoop_expires asks auth last, htheirs,
            interact_cons_done (promptRound_done hstop hok hdone)]
          rfl
      | retries asks auth more =>
          have hstatus : attempt.status ≠ efiSuccess := by
            rw [← htheirs]
            exact status_ne_success auth
          -- the buffer is released before the next round, and the attempt is noted
          have hnext := challengeOnOk_retries hours hstatus more
          obtain ⟨hstop, hok⟩ := asks_round asks
          rw [challengeLoop_retries asks auth more, htheirs,
            interact_cons_next (promptRound_next hstop hok hnext), ih, PasswordPrompt.leaves, hok,
            if_pos rfl, string_release, PromptState.release_rest]
          exact congrArg (Challenge.mk _ _) (List.append_assoc ..)

/-- **ChallengeUserPassword wipes and frees what it is given.** In every run that ends, each buffer of
the dialog is wiped and freed once, unless the dialog has overwritten the pointer to it: then it is
never freed. Dialogs that are answered with OK or Cancel leave nothing. Apart from its buffers, the run
is the one of `challengeUserPassword`. -/
theorem challengeUserPassword_buffers (prompts : List (PasswordPrompt × AuthServices))
    (maxAttempts : UInt8) (token : DfciAuthToken) :
    let read := promptsRead (challengeOnOk invalid) prompts ⟨maxAttempts, token, []⟩
    withoutBuffers (challengeUserPasswordPrompts invalid prompts maxAttempts token) =
        (challengeUserPassword invalid (seenRounds none prompts) maxAttempts token).2 ∧
      (challengeUserPasswordPrompts invalid prompts maxAttempts token).Holds (fun _ => True)
        fun r => BuffersReleased read r.1 ∧
          ((∀ i ∈ read, i.1.result ≠ .other) → ownedAfter [] r.1.pool = []) := by
  constructor
  · have hseen := challengeLoop_seen invalid prompts (.start ⟨maxAttempts, token, []⟩)
    unfold challengeUserPasswordPrompts promptLoop
    cases hrun : interact (promptRound (challengeOnOk invalid)) prompts
        (.start ⟨maxAttempts, token, []⟩) with
    | next st =>
        rw [hrun] at hseen
        exact hseen
    | done r =>
        rw [hrun] at hseen
        obtain ⟨st, e⟩ := r
        cases e with
        | cancelled status =>
            show (⟨_, st.release.rest.token, st.release.rest.attempts⟩ : Challenge) = _
            rw [PromptState.release_rest]
            exact hseen
        | answered exit =>
            show (⟨_, st.release.rest.token, st.release.rest.attempts⟩ : Challenge) = _
            rw [PromptState.release_rest]
            exact hseen
  · exact promptLoop_buffers (challengeOnOk invalid) prompts ⟨maxAttempts, token, []⟩

end Challenge

end OemPkg.FrontPage
