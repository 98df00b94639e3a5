import UnboundWasm.Lib.Machine
import UnboundWasm.Host.LinearMemory

/-!
# A guest and its linear memory

What a guest can tell of the memory that backs it: the buffer that the last `Reallocate` returned,
which it reads and writes.  That is the same for a reservation, for an image mapped over one and
for a slice that is copied as it grows, as long as the sizes do not fall and stay within the limit.
-/

namespace UnboundWasm.Host

open UnboundWasm.Lib

/-- What is done to a linear memory: a byte is written, or it is asked for a size. -/
inductive MemoryAction where
  | write (address : Nat) (value : UInt8)
  | reallocate (size : Nat)
  deriving DecidableEq, Repr

/-- The array behind the buffers that a memory returns. -/
def LinearMemory.buf : LinearMemory → Memory
  | mmapMemoryRegion buf => buf
  | imageMemory buf _ => buf
  | sliceMemory buf _ => buf

/-- A byte written through the buffer that was returned last. -/
def LinearMemory.store (address : Nat) (value : UInt8) : LinearMemory → LinearMemory
  | mmapMemoryRegion buf => mmapMemoryRegion (buf.set address value)
  | imageMemory buf imageLen => imageMemory (buf.set address value) imageLen
  | sliceMemory buf length => sliceMemory (buf.set address value) length

/-- Whether a memory is a mapping. -/
def LinearMemory.IsMapping : LinearMemory → Prop
  | mmapMemoryRegion _ => True
  | imageMemory _ _ => True
  | sliceMemory _ _ => False

/-- A memory with the length of the buffer it returned last, none before the first, and the size
it was asked for. -/
structure BackedMemory where
  memory : LinearMemory
  held : Option Nat
  size : Nat

/-- The bytes of the buffer it returned last. -/
def BackedMemory.buffer (backed : BackedMemory) : Option Bytes :=
  backed.held.map fun length => { backed.memory.buf with size := length }.contents

def backedMachine (start : LinearMemory) : Machine BackedMemory MemoryAction where
  initial := ⟨start, none, 0⟩
  step := fun backed action =>
    match action with
    | .write address value =>
        if address < backed.held.getD 0 then
          some { backed with memory := backed.memory.store address value }
        else none
    | .reallocate size =>
        match backed.memory.reallocate size with
        | (none, _) => none
        | (some buffer, memory) => some ⟨memory, some buffer.size, size⟩

/-- Writes are inside the buffer; sizes do not fall and stay within the limit. -/
def Permitted (maxBytes : Nat) (backed : BackedMemory) : MemoryAction → Prop
  | .write address _ => address < backed.held.getD 0
  | .reallocate size => backed.size ≤ size ∧ size ≤ maxBytes

instance (maxBytes : Nat) (backed : BackedMemory) :
    (action : MemoryAction) → Decidable (Permitted maxBytes backed action)
  | .write address _ => inferInstanceAs (Decidable (address < backed.held.getD 0))
  | .reallocate size => inferInstanceAs (Decidable (backed.size ≤ size ∧ size ≤ maxBytes))

/-! ## The memory a guest expects -/

/-- A memory as the guest knows it. -/
structure IdealMemory where
  buffer : Option Bytes
  size : Nat
  deriving DecidableEq, Repr

/-- The first buffer starts with the image, and every other with the one before it; zeros follow. -/
def idealMachine (image : Bytes) : Machine IdealMemory MemoryAction where
  initial := ⟨none, 0⟩
  step := fun ideal action =>
    match action with
    | .write address value =>
        if address < (ideal.buffer.getD []).length then
          some { ideal with buffer := ideal.buffer.map fun bytes => bytes.set address value }
        else none
    | .reallocate size =>
        some ⟨some (Memory.padded (ideal.buffer.getD image) (max size image.length)), size⟩

/-- A linear memory holds some bytes, with zeros behind them. -/
inductive Backs (maxBytes imageLen : Nat) (bytes : Bytes) : LinearMemory → Prop where
  | region (none : imageLen = 0) (fits : bytes.length ≤ maxBytes) :
      Backs maxBytes imageLen bytes (.mmapMemoryRegion (.ofBytes maxBytes bytes))
  | overlay (long : imageLen ≤ bytes.length) (fits : bytes.length ≤ maxBytes) :
      Backs maxBytes imageLen bytes (.imageMemory (.ofBytes maxBytes bytes) imageLen)
  | slice (long : imageLen ≤ bytes.length) :
      Backs maxBytes imageLen bytes (.sliceMemory (.ofBytes bytes.length bytes) bytes.length)

section Backs

variable {maxBytes imageLen : Nat} {bytes image : Bytes} {memory : LinearMemory}

theorem Backs.store (backs : Backs maxBytes imageLen bytes memory) {address : Nat}
    (inside : address < bytes.length) (value : UInt8) :
    Backs maxBytes imageLen (bytes.set address value) (memory.store address value) := by
  have same : (bytes.set address value).length = bytes.length := List.length_set
  cases backs with
  | region none fits =>
      rw [LinearMemory.store, Memory.set_ofBytes inside]
      exact .region none (by omega)
  | overlay long fits =>
      rw [LinearMemory.store, Memory.set_ofBytes inside]
      exact .overlay (by omega) (by omega)
  | slice long =>
      rw [LinearMemory.store, Memory.set_ofBytes inside, ← same]
      exact .slice (by omega)

/-- `Reallocate` returns what the memory holds, and the memory holds the zeros behind it as well. -/
theorem Backs.reallocate (backs : Backs maxBytes imageLen bytes memory) {size : Nat}
    (grows : bytes.length ≤ max size imageLen) (bounded : size ≤ maxBytes) :
    ∃ after, memory.reallocate size = (some (.ofBytes (max size imageLen) bytes), after) ∧
      Backs maxBytes imageLen (Memory.padded bytes (max size imageLen)) after := by
  have length := Memory.length_padded grows
  cases backs with
  | region none fits =>
      subst none
      rw [Nat.max_zero] at length ⊢
      refine ⟨_, if_neg (Nat.not_lt.mpr bounded), ?_⟩
      rw [← Memory.ofBytes_padded maxBytes size]
      exact .region rfl (by omega)
  | overlay long fits =>
      have inside : ¬ max size imageLen > maxBytes := by omega
      simp only [LinearMemory.reallocate, floor_eq_max]
      refine ⟨_, if_neg inside, ?_⟩
      rw [← Memory.ofBytes_padded maxBytes (max size imageLen)]
      exact .overlay (by omega) (by omega)
  | slice long =>
      have same : max size bytes.length = max size imageLen := by omega
      simp only [LinearMemory.reallocate, floor_eq_max, same]
      refine ⟨.sliceMemory (.ofBytes (max size imageLen) bytes) (max size imageLen), ?_, ?_⟩
      · split
        · rw [Memory.copied_ofBytes]
        next fits =>
          have full : max size imageLen = bytes.length :=
            Nat.le_antisymm (Nat.le_of_not_lt fits) grows
          rw [full]
          rfl
      · have backs : Backs maxBytes imageLen (Memory.padded bytes (max size imageLen)) _ :=
          .slice (by omega)
        rwa [length, Memory.ofBytes_padded] at backs

/-- Only a mapping returns nil, and only for more than was reserved. -/
theorem Backs.reallocate_eq_none (backs : Backs maxBytes imageLen bytes memory) (size : Nat) :
    (memory.reallocate size).1 = none ↔ memory.IsMapping ∧ maxBytes < size := by
  cases backs with
  | region none fits =>
      simp only [LinearMemory.reallocate, LinearMemory.IsMapping, true_and]
      split
      next larger => exact iff_of_true rfl larger
      next inside => exact iff_of_false (Option.some_ne_none _) inside
  | overlay long fits =>
      have larger : maxBytes < max size imageLen ↔ maxBytes < size := by omega
      simp only [LinearMemory.reallocate, LinearMemory.IsMapping, floor_eq_max, true_and]
      rw [← larger]
      split
      next larger => exact iff_of_true rfl larger
      next inside => exact iff_of_false (Option.some_ne_none _) inside
  | slice long =>
      simp only [LinearMemory.reallocate, LinearMemory.IsMapping, floor_eq_max, false_and,
        iff_false]
      split <;> exact Option.some_ne_none _

theorem backs_mmapMemory (mappings : Mappings) (maxBytes : Nat) :
    Backs maxBytes 0 [] (mmapMemory mappings maxBytes) := by
  unfold mmapMemory
  split
  · exact .region rfl (Nat.zero_le _)
  · exact .slice (Nat.le_refl 0)

theorem backs_newImageAllocator (image : Bytes) (mappings : Mappings) (maxBytes : Nat) :
    Backs maxBytes image.length image (newImageAllocator image mappings maxBytes) := by
  unfold newImageAllocator
  split
  next mapped => exact .overlay (Nat.le_refl _) mapped.2.1
  next copied => exact .slice (Nat.le_refl _)

/-- The bytes behind the buffers. -/
theorem Backs.contents (backs : Backs maxBytes imageLen bytes memory) :
    { memory.buf with size := bytes.length }.contents = bytes := by
  have exact : (Memory.ofBytes bytes.length bytes).contents = bytes := by
    rw [Memory.contents_ofBytes (Nat.le_refl _), Memory.padded, Nat.sub_self, List.replicate_zero,
      List.append_nil]
  cases backs with
  | region none fits => exact exact
  | overlay long fits => exact exact
  | slice long => exact exact

end Backs

/-- A memory in use is what the guest expects. -/
structure Reflects (maxBytes : Nat) (image : Bytes) (ideal : IdealMemory) (backed : BackedMemory) :
    Prop where
  backs : Backs maxBytes image.length (ideal.buffer.getD image) backed.memory
  held : backed.held = ideal.buffer.map List.length
  size : backed.size = ideal.size
  length : ∀ bytes, ideal.buffer = some bytes → bytes.length = max ideal.size image.length

section Reflects

variable {maxBytes : Nat} {image : Bytes} {ideal : IdealMemory} {backed : BackedMemory}

theorem Reflects.initial {start : LinearMemory} (starts : Backs maxBytes image.length image start) :
    Reflects maxBytes image (idealMachine image).initial (backedMachine start).initial :=
  ⟨starts, rfl, rfl, fun _ => nofun⟩

theorem Reflects.buffer (reflects : Reflects maxBytes image ideal backed) :
    backed.buffer = ideal.buffer := by
  have contents := reflects.backs.contents
  rw [BackedMemory.buffer, reflects.held]
  cases held : ideal.buffer with
  | none => rfl
  | some bytes =>
      rw [held, Option.getD_some] at contents
      rw [Option.map_some, Option.map_some, contents]

/-- What the memory holds fits the next buffer. -/
theorem Reflects.grows (reflects : Reflects maxBytes image ideal backed) {size : Nat}
    (rises : backed.size ≤ size) : (ideal.buffer.getD image).length ≤ max size image.length := by
  rw [reflects.size] at rises
  cases held : ideal.buffer with
  | none => exact Nat.le_max_right _ _
  | some bytes =>
      rw [Option.getD_some, reflects.length bytes held]
      omega

/-- A permitted action does to both the same. -/
theorem Reflects.step (reflects : Reflects maxBytes image ideal backed) {start : LinearMemory}
    {action : MemoryAction} (permitted : Permitted maxBytes backed action) :
    ∃ idealNext backedNext, (idealMachine image).step ideal action = some idealNext ∧
      (backedMachine start).step backed action = some backedNext ∧
      Reflects maxBytes image idealNext backedNext := by
  cases action with
  | write address value =>
      obtain ⟨buffer, size⟩ := ideal
      obtain ⟨backs, held, sameSize, length⟩ := reflects
      cases buffer with
      | none =>
          rw [Permitted, held] at permitted
          exact absurd permitted (Nat.not_lt_zero _)
      | some bytes =>
          have inside : address < bytes.length := by
            rw [Permitted, held] at permitted
            exact permitted
          refine ⟨⟨some (bytes.set address value), size⟩, _, if_pos inside, if_pos permitted, ?_⟩
          refine ⟨backs.store inside value, ?_, sameSize, ?_⟩
          · rw [held, Option.map_some, Option.map_some, List.length_set]
          · rintro _ ⟨rfl⟩
            rw [List.length_set]
            exact length bytes rfl
  | reallocate size =>
      obtain ⟨rises, bounded⟩ := permitted
      have grows := reflects.grows rises
      obtain ⟨after, returned, backs⟩ := reflects.backs.reallocate grows bounded
      refine ⟨_, ⟨after, some (max size image.length), size⟩, rfl, ?_, backs, ?_, rfl, ?_⟩
      · simp only [backedMachine, returned]
        rfl
      · rw [Option.map_some, Memory.length_padded grows]
      · rintro bytes ⟨rfl⟩
        exact Memory.length_padded grows

/-- Every state of a permitted run is what a guest expects. -/
theorem exists_reflects {start : LinearMemory} (starts : Backs maxBytes image.length image start)
    (reaches : (backedMachine start).Reaches (Permitted maxBytes) (backedMachine start).initial
      backed) : ∃ ideal, Reflects maxBytes image ideal backed := by
  have kept : ∀ before action after, (∃ ideal, Reflects maxBytes image ideal before) →
      Permitted maxBytes before action → (backedMachine start).step before action = some after →
      ∃ ideal, Reflects maxBytes image ideal after := by
    rintro before action after ⟨ideal, reflects⟩ permitted stepped
    obtain ⟨idealNext, next, -, same, kept⟩ := reflects.step permitted
    rw [stepped, Option.some.injEq] at same
    subst same
    exact ⟨idealNext, kept⟩
  have reached := Machine.Reaches.invariant kept reaches ⟨_, Reflects.initial starts⟩
  exact reached

/-- Two memories that the guest cannot tell apart stay so. -/
theorem Reflects.followed {start other : LinearMemory} (state otherState : BackedMemory)
    (action : MemoryAction) (next : BackedMemory)
    (both : ∃ ideal, Reflects maxBytes image ideal state ∧ Reflects maxBytes image ideal otherState)
    (permitted : Permitted maxBytes state action)
    (stepped : (backedMachine start).step state action = some next) :
    Permitted maxBytes otherState action ∧
      ∃ otherNext, (backedMachine other).step otherState action = some otherNext ∧
        ∃ ideal, Reflects maxBytes image ideal next ∧ Reflects maxBytes image ideal otherNext := by
  obtain ⟨ideal, reflects, otherReflects⟩ := both
  have otherPermitted : Permitted maxBytes otherState action := by
    cases action with
    | write address value =>
        rw [Permitted, otherReflects.held, ← reflects.held]
        exact permitted
    | reallocate size =>
        rw [Permitted, otherReflects.size, ← reflects.size]
        exact permitted
  obtain ⟨idealNext, found, idealStepped, same, kept⟩ := reflects.step permitted
  obtain ⟨otherIdeal, otherNext, otherIdealStepped, otherStepped, otherKept⟩ :=
    otherReflects.step otherPermitted
  rw [stepped, Option.some.injEq] at same
  rw [idealStepped, Option.some.injEq] at otherIdealStepped
  subst same otherIdealStepped
  exact ⟨otherPermitted, otherNext, otherStepped, idealNext, kept, otherKept⟩

end Reflects

/-- The linear memories agree.  What the allocators return holds nothing or the image.  From there,
over every run of writes inside the buffer and of sizes that do not fall and stay within the limit,
`Reallocate` returns a buffer of that size, but not shorter than the image: the one before it as it
was left, or the image at first, and zeros.  Only a mapping returns nil, for more than it reserved.
And the same run on another memory that starts the same leaves the guest the same buffer. -/
theorem linear_memories_agree (maxBytes : Nat) (image : Bytes) :
    (∀ mappings, Backs maxBytes 0 [] (mmapMemory mappings maxBytes)) ∧
      (∀ mappings, Backs maxBytes image.length image (newImageAllocator image mappings maxBytes)) ∧
      ∀ start, Backs maxBytes image.length image start →
        (∀ backed, (backedMachine start).Reaches (Permitted maxBytes) (backedMachine start).initial
            backed →
          (∀ size, backed.size ≤ size → size ≤ maxBytes →
            ∃ buffer memory zeros, backed.memory.reallocate size = (some buffer, memory) ∧
              BackedMemory.buffer ⟨memory, some buffer.size, size⟩ = some buffer.contents ∧
              buffer.size = max size image.length ∧
              buffer.contents = backed.buffer.getD image ++ List.replicate zeros 0) ∧
          ∀ size, (backed.memory.reallocate size).1 = none ↔
            backed.memory.IsMapping ∧ maxBytes < size) ∧
        ∀ other, Backs maxBytes image.length image other → ∀ actions backed,
          (backedMachine start).runWhen (Permitted maxBytes) (backedMachine start).initial actions =
            some backed →
          ∃ otherBacked, (backedMachine other).runWhen (Permitted maxBytes)
              (backedMachine other).initial actions = some otherBacked ∧
            otherBacked.buffer = backed.buffer := by
  refine ⟨fun mappings => backs_mmapMemory mappings maxBytes,
    fun mappings => backs_newImageAllocator image mappings maxBytes, ?_⟩
  intro start starts
  refine ⟨?_, ?_⟩
  · intro backed reaches
    obtain ⟨ideal, reflects⟩ := exists_reflects starts reaches
    refine ⟨?_, reflects.backs.reallocate_eq_none⟩
    intro size rises bounded
    have grows := reflects.grows rises
    obtain ⟨after, returned, backs⟩ := reflects.backs.reallocate grows bounded
    have contents := Memory.contents_ofBytes grows
    have held := backs.contents
    rw [Memory.length_padded grows, ← contents] at held
    rw [reflects.buffer]
    exact ⟨_, after, _, returned, congrArg some held, rfl, contents⟩
  · intro other otherStarts actions backed ran
    obtain ⟨otherBacked, otherRan, ideal, reflects, otherReflects⟩ :=
      Machine.exists_runWhen Reflects.followed
        ⟨_, Reflects.initial starts, Reflects.initial otherStarts⟩ ran
    exact ⟨otherBacked, otherRan, otherReflects.buffer.trans reflects.buffer.symm⟩

theorem linear_memories_agree_grown :
    ∃ backed otherBacked : BackedMemory,
      (backedMachine (newImageAllocator [7, 8] ⟨true, true⟩ 5)).runWhen (Permitted 5)
        (backedMachine (newImageAllocator [7, 8] ⟨true, true⟩ 5)).initial
        [.reallocate 1, .write 1 9, .reallocate 4] = some backed ∧
      (backedMachine (newImageAllocator [7, 8] ⟨true, false⟩ 5)).runWhen (Permitted 5)
        (backedMachine (newImageAllocator [7, 8] ⟨true, false⟩ 5)).initial
        [.reallocate 1, .write 1 9, .reallocate 4] = some otherBacked ∧
      backed.buffer = some [7, 9, 0, 0] ∧ otherBacked.buffer = backed.buffer := by
  obtain ⟨-, allocated, agree⟩ := linear_memories_agree 5 [7, 8]
  obtain ⟨-, same⟩ := agree _ (allocated ⟨true, true⟩)
  obtain ⟨otherBacked, otherRan, equal⟩ := same _ (allocated ⟨true, false⟩)
    [.reallocate 1, .write 1 9, .reallocate 4] _ rfl
  exact ⟨_, otherBacked, rfl, otherRan, by decide, equal⟩

end UnboundWasm.Host
