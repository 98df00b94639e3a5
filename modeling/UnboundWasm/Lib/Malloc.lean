import UnboundWasm.Lib.Memory

/-!
# Allocators in a linear memory

An allocator whose bookkeeping lies in the memory it allocates from, so that allocating is
a function of the memory.  A client may write to its live blocks and to nothing else; in
return the blocks stay apart and keep what was written to them.
-/

namespace UnboundWasm.Lib

/-- `alloc` returns a block of at least the size asked for, and the memory after it.
`live memory ptr count` says that the client holds the block. -/
structure Malloc where
  alloc : Memory → Nat → Option (Nat × Memory)
  live : Memory → Nat → Nat → Prop
  inside : ∀ {memory : Memory} {ptr count : Nat}, live memory ptr count → ptr + count ≤ memory.size
  grows : ∀ {memory after : Memory} {count ptr : Nat},
    alloc memory count = some (ptr, after) → memory.size ≤ after.size
  fresh : ∀ {memory after : Memory} {count ptr : Nat},
    alloc memory count = some (ptr, after) → live after ptr count
  apart : ∀ {memory after : Memory} {count ptr other size : Nat},
    alloc memory count = some (ptr, after) → live memory other size →
      live after other size ∧ Memory.Apart other size ptr count
  keeps : ∀ {memory after : Memory} {count ptr other size address : Nat},
    alloc memory count = some (ptr, after) → live memory other size →
      other ≤ address → address < other + size → after.byte address = memory.byte address
  writes : ∀ {memory after : Memory} {ptr count other size : Nat} {data : List UInt8},
    live memory ptr count → data.length ≤ count → memory.write ptr data = some after →
      live memory other size → live after other size

namespace Malloc

variable {malloc : Malloc} {memory between after : Memory} {ptr count other size : Nat}
  {data stored : List UInt8}

/-- A live block holds a byte string. -/
structure Holds (malloc : Malloc) (memory : Memory) (ptr : Nat) (data : List UInt8) : Prop where
  live : ∃ count, data.length ≤ count ∧ malloc.live memory ptr count
  read : memory.read ptr data.length = some data

/-- A block that was allocated and written to holds what was written. -/
theorem holds_of_write (allocated : malloc.alloc memory count = some (ptr, between))
    (fits : data.length ≤ count) (written : between.write ptr data = some after) :
    malloc.Holds after ptr data where
  live := ⟨count, fits,
    malloc.writes (malloc.fresh allocated) fits written (malloc.fresh allocated)⟩
  read := Memory.read_write written

/-- The other blocks hold what they held. -/
theorem Holds.kept (holds : malloc.Holds memory other stored)
    (allocated : malloc.alloc memory count = some (ptr, between)) (fits : data.length ≤ count)
    (written : between.write ptr data = some after) : malloc.Holds after other stored := by
  obtain ⟨size, inside, live⟩ := holds.live
  obtain ⟨still, apart⟩ := malloc.apart allocated live
  have unmoved : between.read other stored.length = some stored := by
    rw [← holds.read]
    obtain ⟨bound, -⟩ := Memory.read_eq_some_iff.mp holds.read
    rw [Memory.read, Memory.read, if_pos bound, if_pos (bound.trans (malloc.grows allocated))]
    congr 1
    apply List.map_congr_left
    intro i inRange
    rw [List.mem_range] at inRange
    exact malloc.keeps allocated live (by omega) (by omega)
  constructor
  case live => exact ⟨size, inside, malloc.writes (malloc.fresh allocated) fits written still⟩
  case read =>
    rw [Memory.read_write_of_disjoint written]
    · exact unmoved
    · rcases apart with before | behind
      · exact .inl (by omega)
      · exact .inr (by omega)

end Malloc

/-- The allocator that takes every block from the end of the memory. -/
def growing : Malloc where
  alloc memory count := some (memory.size, { memory with size := memory.size + count })
  live memory ptr count := ptr + count ≤ memory.size
  inside := fun live => live
  grows := by
    intro memory after count ptr allocated
    cases allocated
    exact Nat.le_add_right _ _
  fresh := by
    intro memory after count ptr allocated
    cases allocated
    exact Nat.le_refl _
  apart := by
    intro memory after count ptr other size allocated live
    cases allocated
    exact ⟨Nat.le_add_right_of_le live, .inl live⟩
  keeps := by
    intro memory after count ptr other size address allocated _ _ _
    cases allocated
    rfl
  writes := by
    intro memory after ptr count other size data _ _ written live
    rw [Memory.size_of_write written]
    exact live

end UnboundWasm.Lib
