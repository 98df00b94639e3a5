import UnboundWasm.Guest.Attribution
import UnboundWasm.Guest.Outcome

/-!
# The blocks of result slots

A slot that is ready points to two blocks of the heap, the packet and the text of `why_bogus`.
They are its own until the slot is cleared: `malloc` hands out none of their bytes, and nothing
else writes to them.  Under that condition every ready slot holds, at any time, the outcome of
the query it is in use for.
-/

namespace UnboundWasm.Guest

open UnboundWasm.Lib UnboundWasm.Host

/-- The blocks a slot points to. -/
def Slot.blocks (memory : Memory) (s : Slot) : List (Nat × Nat) :=
  (if s.packetLen = 0 then [] else [(s.packet, s.packetLen)]) ++
    if s.whyBogus = 0 then []
    else ((strlen memory s.whyBogus).map fun length => (s.whyBogus, length + 1)).toList

/-! ## What a callback does to the memory -/

section

variable {memory after : Memory} {s value : Slot} {outcome : Outcome}
  {packetBlock whyBlock : Option Nat} {ptr count : Nat}

theorem copyPacket_memory
    (copied : copyPacket memory s packetBlock outcome.packet = some (after, value))
    (apart : ∀ block ∈ packetBlock, Memory.Apart ptr count block outcome.packetBytes.length) :
    after.size = memory.size ∧ after.read ptr count = memory.read ptr count := by
  unfold copyPacket at copied
  split at copied
  · cases copied
    exact ⟨rfl, rfl⟩
  · cases copied
    exact ⟨rfl, rfl⟩
  next packet given =>
    split at copied
    · cases copied
      exact ⟨rfl, rfl⟩
    next block =>
      obtain ⟨written, stored, same⟩ := Option.map_eq_some_iff.mp copied
      cases same
      have away := apart block rfl
      rw [Outcome.packetBytes, given] at away
      exact ⟨Memory.size_of_write stored, Memory.read_write_of_disjoint stored away⟩

theorem copyWhy_memory
    (copied : copyWhy memory s whyBlock outcome.whyBogus = some (after, value))
    (apart : ∀ block ∈ whyBlock,
      Memory.Apart ptr count block ((outcome.whyBogus.getD []).length + 1)) :
    after.size = memory.size ∧ after.read ptr count = memory.read ptr count := by
  unfold copyWhy at copied
  split at copied
  · cases copied
    exact ⟨rfl, rfl⟩
  next why given =>
    split at copied
    · cases copied
      exact ⟨rfl, rfl⟩
    next block =>
      obtain ⟨written, stored, same⟩ := Option.map_eq_some_iff.mp copied
      cases same
      have away := apart block rfl
      rw [given] at away
      refine ⟨Memory.size_of_write stored, Memory.read_write_of_disjoint stored ?_⟩
      rw [List.length_append]
      exact away

/-- A callback writes to its own blocks only. -/
theorem resultCb_memory
    (written : resultCb memory s outcome packetBlock whyBlock = some (after, value))
    (packet : ∀ block ∈ packetBlock, Memory.Apart ptr count block outcome.packetBytes.length)
    (why : ∀ block ∈ whyBlock,
      Memory.Apart ptr count block ((outcome.whyBogus.getD []).length + 1)) :
    after.size = memory.size ∧ after.read ptr count = memory.read ptr count := by
  unfold resultCb at written
  split at written
  · dsimp only at written
    split at written
    · cases written
    next copied =>
      split at written
      · cases written
      next explained =>
        cases written
        have first := copyPacket_memory copied packet
        have second := copyWhy_memory explained why
        exact ⟨second.1.trans first.1, second.2.trans first.2⟩
  · cases written
    exact ⟨rfl, rfl⟩

theorem copyPacket_block (empty : s.packetLen = 0)
    (copied : copyPacket memory s packetBlock outcome.packet = some (after, value)) :
    value.whyBogus = s.whyBogus ∧ (value.packetLen ≠ 0 →
      packetBlock = some value.packet ∧ value.packetLen = outcome.packetBytes.length) := by
  unfold copyPacket at copied
  split at copied
  · cases copied
    exact ⟨rfl, fun present => absurd empty present⟩
  · cases copied
    exact ⟨rfl, fun present => absurd empty present⟩
  next packet given =>
    split at copied
    · cases copied
      exact ⟨rfl, fun present => absurd empty present⟩
    next block =>
      obtain ⟨written, stored, same⟩ := Option.map_eq_some_iff.mp copied
      cases same
      exact ⟨rfl, fun _ => ⟨rfl, by rw [Outcome.packetBytes, given, Option.getD_some]⟩⟩

theorem copyWhy_block (empty : s.whyBogus = 0)
    (copied : copyWhy memory s whyBlock outcome.whyBogus = some (after, value)) :
    (value.packet = s.packet ∧ value.packetLen = s.packetLen) ∧
      (value.whyBogus ≠ 0 → whyBlock = some value.whyBogus) := by
  unfold copyWhy at copied
  split at copied
  · cases copied
    exact ⟨⟨rfl, rfl⟩, fun present => absurd empty present⟩
  next why given =>
    split at copied
    · cases copied
      exact ⟨⟨rfl, rfl⟩, fun present => absurd rfl present⟩
    next block =>
      obtain ⟨written, stored, same⟩ := Option.map_eq_some_iff.mp copied
      cases same
      exact ⟨⟨rfl, rfl⟩, fun _ => rfl⟩

/-- A callback leaves pointers to its own blocks in a slot that had none. -/
theorem resultCb_blocks (used : s.used = true) (empty : s.packetLen = 0 ∧ s.whyBogus = 0)
    (written : resultCb memory s outcome packetBlock whyBlock = some (after, value)) :
    (value.packetLen ≠ 0 →
      packetBlock = some value.packet ∧ value.packetLen = outcome.packetBytes.length) ∧
    (value.whyBogus ≠ 0 → whyBlock = some value.whyBogus) := by
  unfold resultCb at written
  rw [if_pos used] at written
  dsimp only at written
  split at written
  · cases written
  next middle copied =>
    split at written
    · cases written
    next explained =>
      cases written
      have first := copyPacket_block (by exact empty.1) copied
      have second := copyWhy_block (first.1.trans empty.2) explained
      refine ⟨?_, second.2⟩
      intro present
      dsimp only at present ⊢
      rw [second.1.2] at present ⊢
      rw [second.1.1]
      exact first.2 present

end

/-! ## Slots and their blocks -/

namespace Slots

/-- A range of the memory holds no byte of a slot that is ready. -/
def Clear (g : Slots) (ptr count : Nat) : Prop :=
  ∀ slot, (g.results slot).ready = true → ∀ block ∈ (g.results slot).blocks g.memory,
    Memory.Apart block.1 block.2 ptr count

/-- A memory, perhaps a larger one, holds what the slots that are ready point to. -/
structure Keeps (g : Slots) (memory : Memory) : Prop where
  grows : g.memory.size ≤ memory.size
  blocks : ∀ slot, (g.results slot).ready = true → ∀ block ∈ (g.results slot).blocks g.memory,
    memory.read block.1 block.2 = g.memory.read block.1 block.2

/-- What is assumed of the blocks a callback is given. -/
structure Given (g : Slots) (completion : Completion) : Prop where
  bounded : completion.outcome.Bounded
  heap : completion.outcome.Allocated completion.packetBlock completion.whyBlock g.memory
  packet : ∀ ptr ∈ completion.packetBlock, g.Clear ptr completion.outcome.packetBytes.length
  why : ∀ ptr ∈ completion.whyBlock,
    g.Clear ptr ((completion.outcome.whyBogus.getD []).length + 1)

/-- The slot holds the outcome of the query it is in use for, blocks and all. -/
def Remembers (g : Slots) (log : List SlotNote) (slot : Int) : Prop :=
  ∃ query outcome packetBlock whyBlock, g.holder log slot = some query ∧
    .completed query outcome ∈ log ∧ outcome.Bounded ∧
    outcome.Recorded packetBlock whyBlock g.memory (g.results slot)

/-- Every slot that is ready does. -/
def Remembering (g : Slots) (log : List SlotNote) : Prop :=
  ∀ slot, (g.results slot).ready = true → g.Remembers log slot

variable {g after : Slots} {log : List SlotNote} {slot : Int}

theorem Kept.used_of_ready (kept : g.Kept log) (ready : (g.results slot).ready = true) :
    (g.results slot).used = true := by
  cases used : (g.results slot).used with
  | true => rfl
  | false =>
      rw [(kept.slots slot).blank used] at ready
      cases ready

variable {action : SlotAction}

/-- A slot stays in use for the same query. -/
theorem holder_step (stepped : g.step action = some after) (before : (g.results slot).used = true)
    (still : (after.results slot).used = true) :
    after.holder (log ++ (g.note action).toList) slot = g.holder log slot := by
  cases moved_of_step stepped with
  | @refused start _ idle =>
      have silent : g.note (.resolveStart start) = none := by simp [Slots.note, idle]
      simp [silent, Slots.holder, idle]
  | @rejected start free err idle _ found _ =>
      have silent : g.note (.resolveStart start) = none := by simp [Slots.note, idle]
      have other : (free : Int) ≠ slot := by
        rintro rfl
        simp [unused_of_freeSlot found] at before
      simp [silent, Slots.holder, idle, other]
  | @accepted start free id idle _ found =>
      have silent : g.note (.resolveStart start) = none := by simp [Slots.note, idle]
      have other : (free : Int) ≠ slot := by
        rintro rfl
        simp [unused_of_freeSlot found] at before
      simp [silent, Slots.holder, idle, other]
  | @returned starting here =>
      obtain ⟨own, query, result⟩ := starting
      cases result with
      | error err =>
          have other : own ≠ slot := by
            rintro rfl
            simp [startReturn, Slots.set, clearResult] at still
          simp [Slots.note, here, Slots.holder, startReturn, Slots.set, other]
      | ok id =>
          simp [Slots.note, here, Slots.holder, startReturn, Slots.set]
  | @callback completion live memory value present same written =>
      have noted : g.note (.callback completion) =
          some (.completed completion.query completion.outcome) := by
        cases here : g.starting <;> simp [Slots.note, here]
      simp [noted, Slots.holder, Slots.set]
  | @resultGet rid out memory idle =>
      have kept : latest (slot + 1) (log ++ (g.note (.resultGet rid out)).toList) =
          latest (slot + 1) log := by
        simp only [Slots.note, idle]
        split <;> simp
      simp [Slots.holder, idle, kept]
  | resolveCancel rid idle =>
      have silent : g.note (.resolveCancel rid) = none := by simp [Slots.note, idle]
      have same : (g.resolveCancel rid).starting = none := by
        unfold Slots.resolveCancel
        split
        · exact idle
        · dsimp only
          split <;> exact idle
      simp [silent, Slots.holder, idle, same]
  | write memory =>
      have silent : g.note (.write memory) = none := by
        cases here : g.starting <;> simp [Slots.note, here]
      simp [silent, Slots.holder]

/-- A slot in use for a query stays in use until it is cancelled. -/
theorem used_step {query : Nat} (stepped : g.step action = some after)
    (used : (g.results slot).used = true) (held : g.holder log slot = some query)
    (uncancelled : ∀ rid, action ≠ .resolveCancel rid) : (after.results slot).used = true := by
  cases moved_of_step stepped with
  | refused | resultGet | write => exact used
  | @rejected start free | @accepted start free =>
      by_cases same : slot = free
      · simp [Slots.set, same]
      · simpa [Slots.set, same] using used
  | @returned starting here =>
      obtain ⟨own, number, result⟩ := starting
      by_cases same : slot = own
      · subst same
        cases result with
        | error err => simp [Slots.holder, here] at held
        | ok id => simpa [startReturn, Slots.set] using used
      · cases result <;> simpa [startReturn, Slots.set, same] using used
  | @callback completion live memory value present same written =>
      by_cases here : slot = live.slot
      · subst here
        simpa [Slots.set] using (resultCb_used written).trans used
      · simpa [Slots.set, here] using used
  | resolveCancel rid => exact absurd rfl (uncancelled rid)

theorem queries_step (stepped : g.step action = some after) : g.queries ≤ after.queries := by
  cases moved_of_step stepped with
  | accepted => exact Nat.le_succ _
  | @returned starting =>
      obtain ⟨own, number, result⟩ := starting
      cases result <;> exact Nat.le_refl _
  | resolveCancel =>
      unfold Slots.resolveCancel
      split
      · exact Nat.le_refl _
      · dsimp only
        split <;> exact Nat.le_refl _
  | refused | rejected | callback | resultGet | write => exact Nat.le_refl _

/-- What happens in any call of the guest. -/
def Inside : SlotAction → Prop
  | .callback _ | .write _ => True
  | .resolveStart _ | .startReturn | .resultGet _ _ | .resolveCancel _ => False

theorem starting_of_inside (stepped : g.step action = some after) (inside : Inside action) :
    after.starting = g.starting := by
  cases moved_of_step stepped with
  | callback | write => rfl
  | refused | rejected | accepted | returned | resultGet | resolveCancel => cases inside

theorem memory_of_write {memory : Memory} (stepped : g.step (.write memory) = some after) :
    after.memory = memory := by
  cases moved_of_step stepped
  rfl

theorem memory_of_resultGet {rid value : Int} {out : Nat} {memory : Memory}
    (stepped : g.step (.resultGet rid out) = some after)
    (got : guestResultGet g.memory g.results rid out = some (value, memory)) :
    after.memory = memory := by
  cases idle : g.starting with
  | some starting => simp [step, idle] at stepped
  | none =>
      simp only [step, idle, got] at stepped
      cases stepped
      rfl

/-- After these no `resolve_start` is inside libunbound. -/
def Ends : SlotAction → Prop
  | .startReturn | .resultGet _ _ | .resolveCancel _ => True
  | .resolveStart _ | .callback _ | .write _ => False

theorem starting_of_ends (stepped : g.step action = some after) (ends : Ends action) :
    after.starting = none := by
  cases moved_of_step stepped with
  | @returned starting =>
      obtain ⟨own, number, result⟩ := starting
      cases result <;> rfl
  | resultGet idle => exact idle
  | resolveCancel rid idle =>
      unfold Slots.resolveCancel
      split
      · exact idle
      · dsimp only
        split <;> exact idle
  | refused | rejected | accepted | callback | write => cases ends

theorem starting_of_refusal {start : Start} {value : Int}
    (stepped : g.step (.resolveStart start) = some after)
    (refused : g.refusal start = some value) : after.starting = none := by
  cases moved_of_step stepped with
  | refused idle => exact idle
  | rejected _ proceeds | accepted _ proceeds =>
      rw [refused] at proceeds
      cases proceeds

theorem starting_of_begin {start : Start} (stepped : g.step (.resolveStart start) = some after)
    (proceeds : g.refusal start = none) :
    g.starting = none ∧ ∃ free, freeSlot g.results = some free ∧
      after.starting = some ⟨free, g.queries, start.result⟩ := by
  cases moved_of_step stepped with
  | refused _ refused =>
      rw [refused] at proceeds
      cases proceeds
  | rejected idle _ found result | accepted idle _ found result =>
      exact ⟨idle, _, found, by rw [result]⟩

/-- `resolve_start` has one of the slots. -/
def InRange (g : Slots) : Prop :=
  ∀ starting, g.starting = some starting → 0 ≤ starting.slot ∧ starting.slot < maxResults

theorem InRange.step (inRange : g.InRange) (stepped : g.step action = some after) :
    after.InRange := by
  intro starting here
  cases action with
  | callback | write =>
      rw [starting_of_inside stepped trivial] at here
      exact inRange starting here
  | startReturn | resultGet | resolveCancel =>
      rw [starting_of_ends stepped trivial] at here
      cases here
  | resolveStart start =>
      cases refusal : g.refusal start with
      | some value =>
          rw [starting_of_refusal stepped refusal] at here
          cases here
      | none =>
          obtain ⟨-, free, found, begun⟩ := starting_of_begin stepped refusal
          rw [begun] at here
          cases here
          have small := List.mem_range.mp (List.mem_of_find?_eq_some found)
          rw [maxResults] at small ⊢
          dsimp only
          omega

/-- The slot of a `resolve_start` that succeeds is in use for its query. -/
theorem Kept.holder_returned {starting : Starting} {id : Int} (kept : g.Kept log)
    (stepped : g.step .startReturn = some after) (here : g.starting = some starting)
    (accepted : starting.result = .ok id) :
    (after.results starting.slot).used = true ∧
      after.holder (log ++ (g.note .startReturn).toList) starting.slot = some starting.query ∧
      .started (starting.slot + 1) starting.query ∈ log ++ (g.note .startReturn).toList := by
  have used := kept.taken starting here
  obtain ⟨own, number, result⟩ := starting
  cases accepted
  have noted : g.note .startReturn = some (.started (own + 1) number) := by
    simp [Slots.note, here]
  rw [Slots.step.eq_def, here] at stepped
  cases stepped
  refine ⟨by simpa [startReturn, Slots.set] using used, ?_, by simp [noted]⟩
  simp [noted, startReturn, Slots.holder]

/-- What is assumed of an action about the blocks that are in use. -/
def Heaped (g : Slots) : SlotAction → Prop
  | .callback completion => g.Given completion
  | .write memory => g.Keeps memory
  | .resultGet _ out => out + resultSize ≤ g.memory.size ∧ g.Clear out resultSize
  | .resolveStart _ | .startReturn | .resolveCancel _ => True

end Slots

section

variable {memory later : Memory} {s : Slot} {outcome : Outcome} {packetBlock whyBlock : Option Nat}

theorem mem_blocks_packet (present : s.packetLen ≠ 0) :
    (s.packet, s.packetLen) ∈ s.blocks memory := by
  simp [Slot.blocks, present]

theorem Outcome.Recorded.mem_blocks_why
    (recorded : outcome.Recorded packetBlock whyBlock memory s) (bounded : outcome.Bounded)
    (present : s.whyBogus ≠ 0) :
    (s.whyBogus, (outcome.recordedWhy whyBlock).length + 1) ∈ s.blocks memory := by
  have length := recorded.whyLen bounded
  rw [if_neg present] at length
  simp [Slot.blocks, present, length]

theorem Outcome.Recorded.blocks_eq
    (recorded : outcome.Recorded packetBlock whyBlock memory s) (bounded : outcome.Bounded) :
    s.blocks memory = (if s.packetLen = 0 then [] else [(s.packet, s.packetLen)]) ++
      if s.whyBogus = 0 then [] else [(s.whyBogus, (outcome.recordedWhy whyBlock).length + 1)] := by
  have length := recorded.whyLen bounded
  unfold Slot.blocks
  split at length
  next null => simp [null]
  next present => simp [present, length]

theorem Outcome.Recorded.undisturbed
    (recorded : outcome.Recorded packetBlock whyBlock memory s) (bounded : outcome.Bounded)
    (kept : ∀ block ∈ s.blocks memory, later.read block.1 block.2 = memory.read block.1 block.2) :
    Undisturbed memory later s (outcome.recordedWhy whyBlock).length where
  packet := fun present => kept _ (mem_blocks_packet present)
  why := fun present => kept _ (recorded.mem_blocks_why bounded present)

theorem Outcome.Recorded.buffer {out : Nat}
    (recorded : outcome.Recorded packetBlock whyBlock memory s) (bounded : outcome.Bounded)
    (inside : out + resultSize ≤ memory.size)
    (clear : ∀ block ∈ s.blocks memory, Memory.Apart block.1 block.2 out resultSize) :
    Buffer memory s (outcome.recordedWhy whyBlock).length out where
  inside := inside
  packet := fun present => clear _ (mem_blocks_packet present)
  why := fun present => clear _ (recorded.mem_blocks_why bounded present)

theorem Outcome.Recorded.of_ubid {ubid : Int}
    (recorded : outcome.Recorded packetBlock whyBlock memory s) :
    outcome.Recorded packetBlock whyBlock memory { s with ubid := ubid } :=
  { recorded with }

/-- A recorded outcome settles the position it is for. -/
theorem Mapped.settles {parser : MessageParser} {qname : Bytes} {qtype : Nat} {poll : Poll}
    (mapped : Mapped parser outcome packetBlock whyBlock qname qtype poll) :
    (∃ err, poll = .failed err) ∨ ∃ res, poll = .ready res := by
  by_cases bogus : outcome.sec = 1
  · exact .inl ⟨_, mapped.bogus bogus⟩
  · by_cases answer : outcome.effective packetBlock = 0 ∨ outcome.effective packetBlock = 3
    · rcases mapped.answer bogus answer with ⟨res, ready, -⟩ | ⟨res, cause, failed, -⟩
      · exact .inr ⟨res, ready⟩
      · exact .inl ⟨cause, failed⟩
    · exact .inl ⟨_, mapped.response bogus (not_or.mp answer)⟩

/-- `guest_result_get` writes to the buffer it is given only. -/
theorem guestResultGet_memory {results : Int → Slot} {rid value : Int} {out ptr count : Nat}
    (got : guestResultGet memory results rid out = some (value, later))
    (apart : Memory.Apart ptr count out resultSize) :
    later.size = memory.size ∧ later.read ptr count = memory.read ptr count := by
  unfold guestResultGet at got
  dsimp only at got
  split at got
  · cases got
    exact ⟨rfl, rfl⟩
  split at got
  · cases got
    exact ⟨rfl, rfl⟩
  split at got
  · cases got
  next cleared clearing =>
    split at got
    · cases got
    next length _ =>
      split at got
      · cases got
      next written writing =>
        cases got
        have first : cleared.read ptr count = memory.read ptr count := by
          apply Memory.read_write_of_disjoint clearing
          rwa [List.length_replicate]
        have second : later.read ptr count = cleared.read ptr count := by
          apply Memory.read_write_of_disjoint writing
          rw [length_resultWords]
          exact apart
        exact ⟨(Memory.size_of_write writing).trans (Memory.size_of_write clearing),
          second.trans first⟩

end

namespace Slots

variable {g after : Slots} {log more : List SlotNote} {slot : Int}

/-- A slot that stays as it is keeps what it remembers. -/
theorem Remembers.keep (remembers : g.Remembers log slot) {ubid : Int}
    (same : after.results slot = { g.results slot with ubid := ubid })
    (holder : after.holder more slot = g.holder log slot) (grown : log ⊆ more)
    (blocks : ∀ block ∈ (g.results slot).blocks g.memory,
      after.memory.read block.1 block.2 = g.memory.read block.1 block.2) :
    after.Remembers more slot := by
  obtain ⟨query, outcome, packetBlock, whyBlock, held, completed, bounded, recorded⟩ := remembers
  refine ⟨query, outcome, packetBlock, whyBlock, holder.trans held, grown completed, bounded, ?_⟩
  rw [same]
  exact (recorded.of_undisturbed (recorded.undisturbed bounded blocks)).of_ubid

/-- A callback leaves its outcome in the slot of its query, in blocks of its own. -/
theorem Kept.remembers_callback {completion : Completion} {live : Live} {memory : Memory}
    {value : Slot} (kept : g.Kept log) (given : g.Given completion) (present : live ∈ g.live)
    (written : resultCb g.memory (g.results live.slot) completion.outcome
      completion.packetBlock completion.whyBlock = some (memory, value)) :
    completion.outcome.Recorded completion.packetBlock completion.whyBlock memory value := by
  obtain ⟨lodged, -⟩ := kept.live live present
  obtain ⟨ubid, fresh⟩ := (kept.slots live.slot).fresh lodged.used lodged.pending
  obtain ⟨recordedMemory, recordedSlot, called, recorded⟩ :=
    Outcome.recorded_resultCb given.heap ubid
  rw [fresh, called] at written
  cases written
  exact recorded

variable {action : SlotAction}

/-- A slot is ready because a callback has made it so, or because it was; then a step leaves it
as it is, except for the id that `resolve_start` stores. -/
theorem Kept.results_step (kept : g.Kept log) (stepped : g.step action = some after)
    (ready : (after.results slot).ready = true) :
    (∃ ubid, after.results slot = { g.results slot with ubid := ubid }) ∨
      ∃ completion, action = .callback completion ∧ ∃ live ∈ g.live,
        live.query = completion.query ∧ live.slot = slot ∧
        resultCb g.memory (g.results slot) completion.outcome completion.packetBlock
          completion.whyBlock = some (after.memory, after.results slot) := by
  cases moved_of_step stepped with
  | refused => exact .inl ⟨_, rfl⟩
  | @rejected start free err idle _ found _ =>
      have different : slot ≠ free := by
        rintro rfl
        simp [Slots.set, (kept.slots free).blank (unused_of_freeSlot found), clearResult] at ready
      exact .inl ⟨(g.results slot).ubid, by simp [Slots.set, different]⟩
  | @accepted start free id idle _ found =>
      have different : slot ≠ free := by
        rintro rfl
        simp [Slots.set, (kept.slots free).blank (unused_of_freeSlot found), clearResult] at ready
      exact .inl ⟨(g.results slot).ubid, by simp [Slots.set, different]⟩
  | @returned starting here =>
      obtain ⟨own, query, result⟩ := starting
      by_cases same : slot = own
      · subst same
        cases result with
        | error err => simp [startReturn, Slots.set, clearResult] at ready
        | ok id => exact .inl ⟨id, by simp [startReturn, Slots.set]⟩
      · exact .inl ⟨(g.results slot).ubid, by cases result <;> simp [startReturn, Slots.set, same]⟩
  | @callback completion live memory value present same written =>
      by_cases here : live.slot = slot
      · subst here
        exact .inr ⟨completion, rfl, live, present, same, rfl, by simpa [Slots.set] using written⟩
      · exact .inl ⟨(g.results slot).ubid, by simp [Slots.set, Ne.symm here]⟩
  | resultGet => exact .inl ⟨_, rfl⟩
  | resolveCancel rid =>
      unfold Slots.resolveCancel at ready ⊢
      split at ready
      next outside => exact .inl ⟨_, by rw [if_pos outside]⟩
      next inside =>
        rw [if_neg inside]
        dsimp only at ready ⊢
        split at ready
        next used =>
          rw [if_pos used]
          by_cases same : slot = rid - 1
          · simp [Slots.set, same, clearResult] at ready
          · exact .inl ⟨(g.results slot).ubid, by simp [Slots.set, same]⟩
        next unused =>
          rw [if_neg unused]
          exact .inl ⟨_, rfl⟩
  | write => exact .inl ⟨_, rfl⟩

/-- An action does not write to a range. -/
def Away (g : Slots) (ptr count : Nat) : SlotAction → Prop
  | .callback completion =>
      (∀ block ∈ completion.packetBlock,
        Memory.Apart ptr count block completion.outcome.packetBytes.length) ∧
      ∀ block ∈ completion.whyBlock,
        Memory.Apart ptr count block ((completion.outcome.whyBogus.getD []).length + 1)
  | .write memory => g.memory.size ≤ memory.size ∧
      memory.read ptr count = g.memory.read ptr count
  | .resultGet _ out => Memory.Apart ptr count out resultSize
  | .resolveStart _ | .startReturn | .resolveCancel _ => True

/-- The frame rule of the guest. -/
theorem memory_step {ptr count : Nat} (stepped : g.step action = some after)
    (away : g.Away ptr count action) : g.memory.size ≤ after.memory.size ∧
      after.memory.read ptr count = g.memory.read ptr count := by
  cases action with
  | resultGet rid out =>
      unfold step at stepped
      split at stepped
      case h_4 same =>
        cases same
        split at stepped
        · cases stepped
        next got =>
          cases stepped
          obtain ⟨size, kept⟩ := guestResultGet_memory got away
          exact ⟨size.ge, kept⟩
      all_goals simp_all
  | write memory =>
      cases moved_of_step stepped
      exact away
  | callback completion =>
      cases moved_of_step stepped with
      | callback present same written =>
          obtain ⟨size, kept⟩ := resultCb_memory written away.1 away.2
          exact ⟨size.ge, kept⟩
  | resolveStart start => cases moved_of_step stepped <;> exact ⟨Nat.le_refl _, rfl⟩
  | startReturn =>
      cases moved_of_step stepped with
      | @returned starting here =>
          obtain ⟨own, query, result⟩ := starting
          cases result <;> exact ⟨Nat.le_refl _, rfl⟩
  | resolveCancel rid =>
      cases moved_of_step stepped with
      | resolveCancel =>
          unfold Slots.resolveCancel
          split
          · exact ⟨Nat.le_refl _, rfl⟩
          · dsimp only
            split <;> exact ⟨Nat.le_refl _, rfl⟩

/-- A step keeps the blocks of the slots that are ready. -/
theorem blocks_step (stepped : g.step action = some after) (heaped : g.Heaped action)
    (ready : (g.results slot).ready = true) : ∀ block ∈ (g.results slot).blocks g.memory,
      after.memory.read block.1 block.2 = g.memory.read block.1 block.2 := by
  intro block mine
  have away : g.Away block.1 block.2 action := by
    cases action with
    | callback completion =>
        exact ⟨fun ptr member => heaped.packet ptr member slot ready block mine,
          fun ptr member => heaped.why ptr member slot ready block mine⟩
    | write memory => exact ⟨heaped.grows, heaped.blocks slot ready block mine⟩
    | resultGet rid out => exact heaped.2 slot ready block mine
    | resolveStart | startReturn | resolveCancel => trivial
  exact (memory_step stepped away).2

/-- What one step preserves: every slot that is ready remembers its outcome. -/
theorem Kept.remembers_step (kept : g.Kept log) (stepped : g.step action = some after)
    (heaped : g.Heaped action) (remembers : g.Remembering log) :
    after.Remembering (log ++ (g.note action).toList) := by
  intro slot ready
  have still := (kept.step stepped).used_of_ready ready
  rcases kept.results_step stepped ready with ⟨ubid, same⟩ | called
  · have before : (g.results slot).ready = true := by
      rwa [same] at ready
    exact (remembers slot before).keep same
      (holder_step stepped (kept.used_of_ready before) still) (List.subset_append_left _ _)
      (blocks_step stepped heaped before)
  · obtain ⟨completion, rfl, live, present, same, rfl, written⟩ := called
    have lodged := (kept.live live present).1
    refine ⟨completion.query, completion.outcome, completion.packetBlock, completion.whyBlock,
      ?_, ?_, heaped.bounded, kept.remembers_callback heaped present written⟩
    · rw [holder_step stepped lodged.used still, lodged.holder, same]
    · cases here : g.starting <;> simp [Slots.note, here]

/-- A range that holds no byte of a ready slot goes on to hold none, unless a callback is given
one of its bytes. -/
theorem Kept.clear_step {ptr count : Nat} (kept : g.Kept log)
    (stepped : g.step action = some after) (heaped : g.Heaped action)
    (remembers : g.Remembering log) (clear : g.Clear ptr count)
    (given : ∀ completion, action = .callback completion →
      (∀ block ∈ completion.packetBlock,
        Memory.Apart block completion.outcome.packetBytes.length ptr count) ∧
      ∀ block ∈ completion.whyBlock,
        Memory.Apart block ((completion.outcome.whyBogus.getD []).length + 1) ptr count) :
    after.Clear ptr count := by
  intro slot ready block mine
  rcases kept.results_step stepped ready with ⟨ubid, same⟩ | called
  · have before : (g.results slot).ready = true := by
      rwa [same] at ready
    obtain ⟨query, outcome, packetBlock, whyBlock, -, -, bounded, recorded⟩ :=
      remembers slot before
    have later := recorded.of_undisturbed
      (recorded.undisturbed bounded (blocks_step stepped heaped before))
    apply clear slot before block
    rw [same, (later.of_ubid).blocks_eq bounded] at mine
    rwa [recorded.blocks_eq bounded]
  · obtain ⟨completion, rfl, live, present, -, rfl, written⟩ := called
    have lodged := (kept.live live present).1
    obtain ⟨ubid, fresh⟩ := (kept.slots live.slot).fresh lodged.used lodged.pending
    have recorded := kept.remembers_callback heaped present written
    obtain ⟨packet, why⟩ := resultCb_blocks lodged.used (by simp [fresh, clearResult]) written
    obtain ⟨packetApart, whyApart⟩ := given completion rfl
    rw [recorded.blocks_eq heaped.bounded, List.mem_append] at mine
    rcases mine with mine | mine
    · split at mine
      · cases mine
      next some =>
        obtain ⟨given, length⟩ := packet some
        rw [List.mem_singleton.mp mine, length]
        exact packetApart _ given
    · split at mine
      · cases mine
      next some =>
        have given := why some
        rw [List.mem_singleton.mp mine, Outcome.recordedWhy, given]
        exact whyApart _ given

theorem size_step (stepped : g.step action = some after) (heaped : g.Heaped action) :
    g.memory.size ≤ after.memory.size := by
  have nowhere (ptr count : Nat) : Memory.Apart 0 0 ptr count := .inl (Nat.zero_le ptr)
  have away : g.Away 0 0 action := by
    cases action with
    | callback completion => exact ⟨fun _ _ => nowhere _ _, fun _ _ => nowhere _ _⟩
    | write memory => exact ⟨heaped.grows, by simp [Memory.read]⟩
    | resultGet rid out => exact nowhere _ _
    | resolveStart | startReturn | resolveCancel => trivial
  exact (memory_step stepped away).1

/-- What a poll of a slot in use comes to: nothing yet, or the outcome of its query. -/
theorem Remembering.polled (remembers : g.Remembering log) (parser : MessageParser)
    {rid value : Int} {out : Nat} {final : Memory} (valid : 0 < rid ∧ rid ≤ maxResults)
    (used : (g.results (rid - 1)).used = true) (inside : out + resultSize ≤ g.memory.size)
    (clear : g.Clear out resultSize)
    (got : guestResultGet g.memory g.results rid out = some (value, final)) :
    value = 0 ∨ value = 1 ∧ ∃ query outcome packetBlock whyBlock,
      g.holder log (rid - 1) = some query ∧ .completed query outcome ∈ log ∧
      ∀ qname qtype, Mapped parser outcome packetBlock whyBlock qname qtype
        (pollResult parser false (.ok (1, final)) out qname qtype) := by
  cases ready : (g.results (rid - 1)).ready with
  | false =>
      have inRange : ¬ (rid ≤ 0 ∨ rid > maxResults ∨ (g.results (rid - 1)).used = false) := by
        simp only [used, Bool.true_eq_false, or_false]
        omega
      simp only [guestResultGet, if_neg inRange, ready, if_true] at got
      cases got
      exact .inl rfl
  | true =>
      obtain ⟨query, outcome, packetBlock, whyBlock, held, completed, bounded, recorded⟩ :=
        remembers (rid - 1) ready
      obtain ⟨written, result, finalRecorded, stored⟩ := guestResultGet_spec recorded bounded valid
        (recorded.buffer bounded inside (clear (rid - 1) ready))
      rw [got] at result
      cases result
      refine .inr ⟨rfl, query, outcome, packetBlock, whyBlock, held, completed, ?_⟩
      intro qname qtype
      rw [pollResult_of_read (by decide) (readResult_spec finalRecorded bounded stored)]
      exact mapped_settle parser outcome packetBlock whyBlock qname qtype

end Slots

end UnboundWasm.Guest
