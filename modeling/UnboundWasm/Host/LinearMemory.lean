import UnboundWasm.Lib.Memory
import UnboundWasm.Host.Answer

/-!
# Linear memories

`memory_unix.go`: the three back ends of a guest's linear memory, and the allocators that
choose among them.  A Go slice of bytes is a memory of its length; an anonymous mapping
reads as zero, and the image mapped over the start of one as the image.
-/

namespace UnboundWasm.Host

open UnboundWasm.Lib

/-- The implementations of `experimental.LinearMemory`. The `buf` of `sliceMemory` is a whole
array, as long as the slice's capacity, and `length` the length of the slice. -/
inductive LinearMemory where
  | mmapMemoryRegion (buf : Memory)
  | imageMemory (buf : Memory) (imageLen : Nat)
  | sliceMemory (buf : Memory) (length : Nat)

/-- `Reallocate`: the buffer it returns, unless that is nil, and the memory after the call. -/
def LinearMemory.reallocate : LinearMemory → Nat → Option Memory × LinearMemory
  | mmapMemoryRegion buf, size =>
      if size > buf.size then (none, mmapMemoryRegion buf)
      else (some { buf with size := size }, mmapMemoryRegion buf)
  | imageMemory buf imageLen, size =>
      let size := if size < imageLen then imageLen else size
      if size > buf.size then (none, imageMemory buf imageLen)
      else (some { buf with size := size }, imageMemory buf imageLen)
  | sliceMemory buf length, size =>
      let size := if size < length then length else size
      if size > buf.size then
        let grown := buf.copied length size
        (some grown, sliceMemory grown size)
      else (some { buf with size := size }, sliceMemory buf size)

def pageSize : Nat := 65536

/-- `math.MaxInt`. -/
def maxInt : Nat := 2 ^ 63 - 1

/-- Which calls of the system succeed: the anonymous mapping, and the image over it. -/
structure Mappings where
  reserves : Bool
  overlays : Bool

/-- `mmapMemory`. -/
def mmapMemory (mappings : Mappings) (maxBytes : Nat) : LinearMemory :=
  if maxBytes ≤ maxInt ∧ mappings.reserves then
    .mmapMemoryRegion (.ofBytes maxBytes [])
  else
    .sliceMemory (.ofBytes 0 []) 0

/-- `newImageAllocator`, for the allocation of one memory. -/
def newImageAllocator (image : Bytes) (mappings : Mappings) (maxBytes : Nat) : LinearMemory :=
  if maxBytes ≤ maxInt ∧ image.length ≤ maxBytes ∧ mappings.reserves ∧ mappings.overlays then
    .imageMemory (.ofBytes maxBytes image) image.length
  else
    .sliceMemory (.ofBytes image.length image) image.length

/-- The length below which a memory does not go. -/
theorem floor_eq_max (size floor : Nat) :
    (if size < floor then floor else size) = max size floor := by
  split <;> omega

/-- The first buffer is the image and zeros behind it, whichever memory backs it. -/
theorem reallocate_newImageAllocator (image : Bytes) (mappings : Mappings) {size maxBytes : Nat}
    (bounded : size ≤ maxBytes) :
    ((newImageAllocator image mappings maxBytes).reallocate size).1 =
      some (.ofBytes (max size image.length) image) := by
  unfold newImageAllocator
  split
  next mapped =>
    have inside : ¬ max size image.length > maxBytes := by omega
    simp only [LinearMemory.reallocate, floor_eq_max]
    simp [Memory.ofBytes, inside]
  next copied =>
    simp only [LinearMemory.reallocate, floor_eq_max]
    split
    · rw [Memory.copied_ofBytes]
    · rfl

end UnboundWasm.Host
