import UnboundWasm.Host.Poll

/-!
# Results across the ABI

The guest's side of a result: `result_cb` records what libunbound reports, and
`guest_result_get` writes it out for the host.  Encoder and decoder agree only
through offsets into the result structure, so the main theorem composes the two.

`malloc` is outside: a callback is given the blocks it returned, or their
absence, and what is assumed of them is that they lie inside the memory and
apart from each other.
-/

namespace UnboundWasm.Guest

open UnboundWasm.Lib UnboundWasm.Host

/-- `struct result_slot`; pointers are addresses, 0 for NULL. -/
structure Slot where
  used : Bool
  ready : Bool
  ubid : Int
  rcode : Int
  sec : Int
  packet : Nat
  packetLen : Nat
  whyBogus : Nat
  deriving DecidableEq, Repr

/-- `clear_result`. -/
def clearResult : Slot := ⟨false, false, 0, 0, 0, 0, 0, 0⟩

/-- The arguments of the callback: `whyBogus` without its NUL. -/
structure Outcome where
  rcode : Int
  packet : Option Bytes
  sec : Int
  whyBogus : Option Bytes
  deriving DecidableEq, Repr

/-- Copy the packet to a block, or record SERVFAIL when there is none. -/
def copyPacket (memory : Memory) (s : Slot) (block : Option Nat) :
    Option Bytes → Option (Memory × Slot)
  | none | some [] => some (memory, s)
  | some packet =>
      match block with
      | none => some (memory, { s with packet := 0, rcode := 2 })
      | some ptr =>
          (memory.write ptr packet).map fun memory =>
            (memory, { s with packet := ptr, packetLen := packet.length })

/-- Copy the explanation with its NUL. -/
def copyWhy (memory : Memory) (s : Slot) (block : Option Nat) :
    Option Bytes → Option (Memory × Slot)
  | none => some (memory, s)
  | some why =>
      match block with
      | none => some (memory, { s with whyBogus := 0 })
      | some ptr =>
          (memory.write ptr (why ++ [0])).map fun memory =>
            (memory, { s with whyBogus := ptr })

/-- `result_cb`; `none` is an access outside the memory. -/
def resultCb (memory : Memory) (s : Slot) (outcome : Outcome)
    (packetBlock whyBlock : Option Nat) : Option (Memory × Slot) :=
  if s.used then
    let s := { s with rcode := outcome.rcode, sec := outcome.sec }
    match copyPacket memory s packetBlock outcome.packet with
    | none => none
    | some (memory, s) =>
        match copyWhy memory s whyBlock outcome.whyBogus with
        | none => none
        | some (memory, s) => some (memory, { s with ubid := 0, ready := true })
  else
    some (memory, s)

/-- `strlen`; `none` when no NUL comes before the end of the memory. -/
def strlen (memory : Memory) (ptr : Nat) : Option Nat :=
  (List.range (memory.size - ptr)).find? fun i => memory.byte (ptr + i) = 0

/-- `UNBOUND_WASM_SEC_*` for the `sec` of libunbound. -/
def secStatus (sec : Int) : Nat := if sec = 2 then 1 else if sec = 1 then 2 else 0

/-- The fields of `struct unbound_wasm_result` in order, the reserved ones last. -/
def resultWords (s : Slot) (whyLen : Nat) : List Nat :=
  [secStatus s.sec, (s.rcode % 2 ^ 32).toNat, s.whyBogus, whyLen, s.packet, s.packetLen, 0, 0]

theorem length_resultWords (s : Slot) (whyLen : Nat) :
    ((resultWords s whyLen).flatMap wordBytes).length = resultSize := by
  rw [length_flatMap_wordBytes]
  rfl

/-- `MAX_RESULTS`. -/
def maxResults : Int := 64

/-- `ENOENT` of the guest's C library. -/
def enoent : Int := 44

/-- `guest_result_get`; `none` is an access outside the memory. -/
def guestResultGet (memory : Memory) (results : Int → Slot) (rid : Int) (out : Nat) :
    Option (Int × Memory) :=
  let s := results (rid - 1)
  if rid ≤ 0 ∨ rid > maxResults ∨ s.used = false then
    some (-enoent, memory)
  else if s.ready = false then
    some (0, memory)
  else
    match memory.write out (List.replicate resultSize 0) with
    | none => none
    | some cleared =>
        match if s.whyBogus = 0 then some 0 else strlen cleared s.whyBogus with
        | none => none
        | some whyLen =>
            match cleared.write out ((resultWords s whyLen).flatMap wordBytes) with
            | none => none
            | some written => some (1, written)

/-! ## What the slot keeps of an outcome -/

namespace Outcome

variable (outcome : Outcome) (packetBlock whyBlock : Option Nat)

/-- The bytes of the packet, none when there is no packet. -/
def packetBytes : Bytes := outcome.packet.getD []

/-- There was nothing to copy, or there was a block to copy it to. -/
def Copied : Prop := outcome.packetBytes = [] ∨ packetBlock.isSome

instance : Decidable (outcome.Copied packetBlock) :=
  inferInstanceAs (Decidable (_ ∨ _))

/-- A packet that could not be copied counts as SERVFAIL. -/
def recordedRcode : Int := if outcome.Copied packetBlock then outcome.rcode else 2

def recordedPacket : Bytes := if outcome.Copied packetBlock then outcome.packetBytes else []

def recordedWhy : Bytes := if whyBlock.isSome then outcome.whyBogus.getD [] else []

/-- The bounds on what libunbound reports. -/
structure Bounded : Prop where
  packet : outcome.packetBytes.length ≤ 65535
  why : (outcome.whyBogus.getD []).length ≤ 65535
  terminated : 0 ∉ outcome.whyBogus.getD []

/-- What `malloc` promises of the blocks it returned. -/
structure Allocated (memory : Memory) : Prop where
  size : memory.size ≤ 2 ^ 32
  packet : ∀ ptr ∈ packetBlock, ptr ≠ 0 ∧ ptr + outcome.packetBytes.length ≤ memory.size
  why : ∀ ptr ∈ whyBlock,
    ptr ≠ 0 ∧ ptr + ((outcome.whyBogus.getD []).length + 1) ≤ memory.size
  apart : ∀ left ∈ packetBlock, ∀ right ∈ whyBlock,
    Memory.Apart left outcome.packetBytes.length right ((outcome.whyBogus.getD []).length + 1)

/-- A slot that holds an outcome, with its blocks in a memory. -/
structure Recorded (memory : Memory) (s : Slot) : Prop where
  used : s.used = true
  ready : s.ready = true
  rcode : s.rcode = outcome.recordedRcode packetBlock
  sec : s.sec = outcome.sec
  packetLen : s.packetLen = (outcome.recordedPacket packetBlock).length
  packet : s.packetLen ≠ 0 →
    memory.read s.packet s.packetLen = some (outcome.recordedPacket packetBlock)
  noWhy : s.whyBogus = 0 → outcome.recordedWhy whyBlock = []
  why : s.whyBogus ≠ 0 →
    memory.read s.whyBogus ((outcome.recordedWhy whyBlock).length + 1) =
      some (outcome.recordedWhy whyBlock ++ [0])
  packetFits : s.packet < 2 ^ 32
  whyFits : s.whyBogus < 2 ^ 32

variable {outcome packetBlock whyBlock} {memory : Memory}

theorem copyPacket_spec (heap : outcome.Allocated packetBlock whyBlock memory) (s : Slot)
    (empty : s.packet = 0 ∧ s.packetLen = 0) (rcode : s.rcode = outcome.rcode) :
    ∃ after ptr,
      copyPacket memory s packetBlock outcome.packet = some (after, { s with
        rcode := outcome.recordedRcode packetBlock
        packet := ptr
        packetLen := (outcome.recordedPacket packetBlock).length }) ∧
      after.size = memory.size ∧ ptr < 2 ^ 32 ∧
      (outcome.recordedPacket packetBlock ≠ [] →
        packetBlock = some ptr ∧ outcome.recordedPacket packetBlock = outcome.packetBytes ∧
          after.read ptr outcome.packetBytes.length = some outcome.packetBytes) := by
  rcases s with ⟨used, ready, ubid, slotRcode, sec, packet, packetLen, whyBogus⟩
  rcases empty with ⟨noPacket, noLength⟩
  dsimp only at noPacket noLength rcode
  subst packet packetLen slotRcode
  rcases bytes : outcome.packetBytes with _ | ⟨first, rest⟩
  · have copied : outcome.Copied packetBlock := .inl bytes
    have nothing : outcome.recordedPacket packetBlock = [] := by
      rw [recordedPacket, if_pos copied, bytes]
    have skipped : outcome.packet = none ∨ outcome.packet = some [] := by
      rcases given : outcome.packet with _ | packet
      · exact .inl rfl
      · simp only [packetBytes, given, Option.getD_some] at bytes
        exact .inr (congrArg some bytes)
    refine ⟨memory, 0, ?_, rfl, by decide, fun present => absurd nothing present⟩
    rw [nothing, recordedRcode, if_pos copied]
    rcases skipped with absent | absent <;> rw [absent] <;> rfl
  · have given : outcome.packet = some (first :: rest) := by
      rcases present : outcome.packet with _ | packet
      · simp [packetBytes, present] at bytes
      · simp only [packetBytes, present, Option.getD_some] at bytes
        exact congrArg some bytes
    rw [given]
    rcases packetBlock with _ | ptr
    · have lost : ¬ outcome.Copied none := by
        simp [Copied, bytes]
      have nothing : outcome.recordedPacket none = [] := if_neg lost
      refine ⟨memory, 0, ?_, rfl, by decide, fun present => absurd nothing present⟩
      rw [nothing, recordedRcode, if_neg lost]
      rfl
    · have copied : outcome.Copied (some ptr) := .inr rfl
      have whole : outcome.recordedPacket (some ptr) = first :: rest := by
        rw [recordedPacket, if_pos copied, bytes]
      have block := heap.packet ptr rfl
      rw [bytes] at block
      have size := heap.size
      obtain ⟨after, written⟩ := Memory.write_isSome block.2
      refine ⟨after, ptr, ?_, Memory.size_of_write written, ?_, ?_⟩
      · rw [whole, recordedRcode, if_pos copied]
        simp only [copyPacket, written, Option.map_some]
      · have inside := block.2
        rw [List.length_cons] at inside
        omega
      · intro _
        exact ⟨rfl, whole, Memory.read_write written⟩

theorem copyWhy_spec (heap : outcome.Allocated packetBlock whyBlock memory) (s : Slot)
    (empty : s.whyBogus = 0) :
    ∃ after ptr,
      copyWhy memory s whyBlock outcome.whyBogus = some (after, { s with whyBogus := ptr }) ∧
      ptr < 2 ^ 32 ∧ (ptr = 0 → outcome.recordedWhy whyBlock = []) ∧
      (ptr ≠ 0 → after.read ptr ((outcome.recordedWhy whyBlock).length + 1) =
        some (outcome.recordedWhy whyBlock ++ [0])) ∧
      ∀ block ∈ packetBlock, after.read block outcome.packetBytes.length =
        memory.read block outcome.packetBytes.length := by
  rcases s with ⟨used, ready, ubid, rcode, sec, packet, packetLen, whyBogus⟩
  dsimp only at empty
  subst whyBogus
  rcases given : outcome.whyBogus with _ | why
  · refine ⟨memory, 0, rfl, by decide, ?_, fun absent => absurd rfl absent, fun _ _ => rfl⟩
    intro _
    simp [recordedWhy, given]
  · rcases whyBlock with _ | ptr
    · exact ⟨memory, 0, rfl, by decide, fun _ => rfl, fun absent => absurd rfl absent,
        fun _ _ => rfl⟩
    · have whole : outcome.recordedWhy (some ptr) = why := by
        simp [recordedWhy, given]
      have block := heap.why ptr rfl
      have size := heap.size
      have apart := fun left member => heap.apart left member ptr rfl
      simp only [given, Option.getD_some] at block apart
      have length : (why ++ [0]).length = why.length + 1 := by simp
      have inside : ptr + (why ++ [0]).length ≤ memory.size := by
        rw [length]
        exact block.2
      obtain ⟨after, written⟩ := Memory.write_isSome inside
      refine ⟨after, ptr, ?_, by omega, fun null => absurd null block.1, ?_, ?_⟩
      · simp only [copyWhy, written, Option.map_some]
      · intro _
        rw [whole, ← length]
        exact Memory.read_write written
      · intro left member
        apply Memory.read_write_of_disjoint written
        rw [length]
        exact apart left member

/-- The callback records the outcome in a slot that `resolve_start` took. -/
theorem recorded_resultCb (heap : outcome.Allocated packetBlock whyBlock memory) (ubid : Int) :
    ∃ after s,
      resultCb memory { clearResult with used := true, ubid := ubid } outcome packetBlock
        whyBlock = some (after, s) ∧ outcome.Recorded packetBlock whyBlock after s := by
  obtain ⟨middle, packet, packetCopied, size, packetFits, packetRead⟩ :=
    copyPacket_spec heap ⟨true, false, ubid, outcome.rcode, outcome.sec, 0, 0, 0⟩ ⟨rfl, rfl⟩ rfl
  have middleHeap : outcome.Allocated packetBlock whyBlock middle := by
    rcases heap with ⟨small, packetIn, whyIn, apart⟩
    rw [← size] at small packetIn whyIn
    exact ⟨small, packetIn, whyIn, apart⟩
  obtain ⟨after, why, whyCopied, whyFits, noWhy, whyRead, kept⟩ :=
    copyWhy_spec middleHeap ⟨true, false, ubid, outcome.recordedRcode packetBlock, outcome.sec,
      packet, (outcome.recordedPacket packetBlock).length, 0⟩ rfl
  refine ⟨after, ⟨true, true, 0, outcome.recordedRcode packetBlock, outcome.sec,
    packet, (outcome.recordedPacket packetBlock).length, why⟩, ?_, ?_⟩
  · simp only [resultCb, clearResult, if_true, packetCopied, whyCopied]
  · constructor
    case used => rfl
    case ready => rfl
    case rcode => rfl
    case sec => rfl
    case packetLen => rfl
    case noWhy => exact noWhy
    case why => exact whyRead
    case packetFits => exact packetFits
    case whyFits => exact whyFits
    case packet =>
      intro present
      have nonempty : outcome.recordedPacket packetBlock ≠ [] := by
        intro nothing
        exact present (congrArg List.length nothing)
      obtain ⟨block, whole, read⟩ := packetRead nonempty
      dsimp only
      rw [whole, kept packet block]
      exact read

end Outcome

end UnboundWasm.Guest
