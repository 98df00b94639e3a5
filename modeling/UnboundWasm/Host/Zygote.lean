import UnboundWasm.Host.DataSegments
import UnboundWasm.Host.LinearMemory

/-!
# The zygote

`zygote.go`: the memory image of a warmed template, and the clones that start from it.  What
wazero does is a parameter: it takes the first buffer of a memory from the allocator, asking
for the minimum the module declares, and copies the data segments of the module into it.
-/

namespace UnboundWasm.Host

open UnboundWasm.Lib

/-- `api.Memory.Size`, a 32-bit number. -/
def memSize (memory : Memory) : Nat :=
  memory.size % 2 ^ 32

/-- A template image with the ranges that the segments of the module cover in it. -/
structure Zygote (wasm : Bytes) where
  image : Bytes
  segs : List SegRange
  parsed : parseDataSegments wasm = .ok segs
  inside : ∀ seg ∈ segs, seg.off.toNat + seg.len.toNat ≤ image.length
  addressable : image.length < 2 ^ 32

/-- What `initZygote` leaves in the runtime: nothing, `zygoteErr`, or `zygote`. -/
inductive Prepared (wasm : Bytes) where
  | disabled
  | failed (zygoteErr : Error)
  | ready (zygote : Zygote wasm)

/-- `initZygote`. The template is the memory of an instance after its warmup, or the error
that the instance, the warmup or the check of its sockets and timers ended in; `stored` tells
whether the image could be written to a file. -/
def initZygote (supported : Bool) (wasm : Bytes) (template : Except Error Memory)
    (stored : Bool) : Prepared wasm :=
  if supported then
    match parsed : parseDataSegments wasm, template with
    | .error _, _ => .disabled
    | .ok _, .error err => .failed err
    | .ok segs, .ok mem =>
        match view : mem.read 0 (memSize mem) with
        | none => .failed (.new "unbound: reading template memory failed")
        | some image =>
            if inside : ∀ seg ∈ segs, seg.off.toNat + seg.len.toNat ≤ image.length then
              if stored then
                .ready
                  { image, segs, parsed, inside
                    addressable := by
                      rw [Memory.length_of_read view]
                      exact Nat.mod_lt _ (by decide) }
              else .disabled
            else .failed (.new "unbound: data segment outside template memory")
  else .disabled

/-- The memory that a module declares, in pages, its maximum cut to the memory limit. -/
structure MemoryType where
  minPages : Nat
  maxPages : Nat
  ordered : minPages ≤ maxPages
  bounded : maxPages ≤ 65536

/-- An address lies in the range of a segment. -/
def SegRange.Covers (seg : SegRange) (address : Nat) : Prop :=
  seg.off.toNat ≤ address ∧ address < seg.off.toNat + seg.len.toNat

/-- How wazero fills a fresh buffer, without start functions: it may fail, and it writes
nothing outside the ranges. -/
structure Instantiation (segs : List SegRange) where
  fill : Memory → Except Error Memory
  size : ∀ {before after}, fill before = .ok after → after.size = before.size
  byte : ∀ {before after}, fill before = .ok after →
    ∀ address, (∀ seg ∈ segs, ¬ seg.Covers address) → after.byte address = before.byte address

/-- The loop of `newClone` over the ranges. There is no result when it panics. -/
def restore (image : Bytes) : List SegRange → Memory → Option (Except Error Memory)
  | [], mem => some (.ok mem)
  | s :: rest, mem =>
      match sliceExpr image s.off.toNat (s.off + s.len).toNat with
      | none => none
      | some data =>
          match mem.write s.off.toNat data with
          | none => some (.error (.new "unbound: restoring data segment failed"))
          | some mem => restore image rest mem

variable {wasm : Bytes}

/-- The buffer of a clone before wazero fills it. -/
def freshBuffer (zygote : Zygote wasm) (type : MemoryType) (mappings : Mappings) :
    Option Memory :=
  ((newImageAllocator zygote.image mappings (pageSize * type.maxPages)).reallocate
    (pageSize * type.minPages)).1

/-- `newClone` up to `reseed`: the memory of the clone. There is no result when it panics. -/
def newClone (zygote : Zygote wasm) (type : MemoryType) (mappings : Mappings)
    (instantiation : Instantiation zygote.segs) : Option (Except Error Memory) :=
  match freshBuffer zygote type mappings with
  | none => none
  | some buffer =>
      match instantiation.fill buffer with
      | .error err => some (.error err)
      | .ok mem =>
          let got := memSize mem
          let want := zygote.image.length
          if got ≠ want then
            some (.error (.new s!"unbound: clone memory is {got} bytes, template {want}"))
          else restore zygote.image zygote.segs mem

/-! ## The restore loop -/

/-- The bytes that the loop takes for a range inside the image. -/
theorem sliceExpr_of_inside {image : Bytes} {seg : SegRange}
    (inside : seg.off.toNat + seg.len.toNat ≤ image.length) (addressable : image.length < 2 ^ 32) :
    ∃ data, sliceExpr image seg.off.toNat (seg.off + seg.len).toNat = some data ∧
      data.length = seg.len.toNat ∧
      ∀ address, seg.Covers address →
        data.getD (address - seg.off.toNat) 0 = image.getD address 0 := by
  have sum : (seg.off + seg.len).toNat = seg.off.toNat + seg.len.toNat := by
    rw [UInt32.toNat_add, Nat.mod_eq_of_lt (by omega)]
  refine ⟨(image.drop seg.off.toNat).take seg.len.toNat, ?_, ?_, ?_⟩
  · rw [sum, sliceExpr, if_pos ⟨by omega, inside⟩, Nat.add_sub_cancel_left]
  · rw [List.length_take, List.length_drop]
    omega
  · intro address covered
    obtain ⟨low, high⟩ := covered
    have short : address - seg.off.toNat < seg.len.toNat := by omega
    simp [short, Nat.add_sub_cancel' low]

/-- The loop succeeds, and the clone agrees with the image wherever it did before and in
every range. A byte that a later range covers again is written again from the image. -/
theorem restore_spec {image : Bytes} {segs : List SegRange} {memory : Memory}
    (inside : ∀ seg ∈ segs, seg.off.toNat + seg.len.toNat ≤ image.length)
    (addressable : image.length < 2 ^ 32) (large : image.length ≤ memory.size) :
    ∃ after, restore image segs memory = some (.ok after) ∧ after.size = memory.size ∧
      ∀ address,
        memory.byte address = image.getD address 0 ∨ (∃ seg ∈ segs, seg.Covers address) →
        after.byte address = image.getD address 0 := by
  induction segs generalizing memory with
  | nil =>
      refine ⟨memory, rfl, rfl, ?_⟩
      intro address agrees
      simpa using agrees
  | cons seg rest ih =>
      obtain ⟨first, others⟩ := List.forall_mem_cons.mp inside
      obtain ⟨data, taken, length, bytes⟩ := sliceExpr_of_inside first addressable
      obtain ⟨written, stored⟩ :=
        Memory.write_isSome (show seg.off.toNat + data.length ≤ memory.size by omega)
      have size := Memory.size_of_write stored
      obtain ⟨after, restored, same, agree⟩ := ih others (show image.length ≤ written.size by omega)
      refine ⟨after, by simp only [restore, taken, stored, restored], by omega, ?_⟩
      intro address held
      apply agree
      by_cases covered : seg.Covers address
      · left
        rw [Memory.byte_of_write stored, if_pos (by rw [length]; exact covered)]
        exact bytes address covered
      · rw [Memory.byte_of_write stored, if_neg (by rw [length]; exact covered)]
        simpa [covered] using held

/-! ## Clones -/

/-- A memory that is the image, byte for byte. -/
structure StartsFrom (memory : Memory) (image : Bytes) : Prop where
  length : memory.size = image.length
  bytes : memory.read 0 memory.size = some image

theorem startsFrom_of_byte {memory : Memory} {image : Bytes} (length : memory.size = image.length)
    (byte : ∀ address < image.length, memory.byte address = image.getD address 0) :
    StartsFrom memory image where
  length := length
  bytes := by
    rw [Memory.read_eq_some_iff]
    refine ⟨by omega, ?_⟩
    apply List.ext_getElem
    · simpa using length
    · intro address inMemory inImage
      simp [byte address inImage, inImage]

variable {zygote : Zygote wasm} {type : MemoryType} {mappings : Mappings}

theorem freshBuffer_eq :
    freshBuffer zygote type mappings =
      some (.ofBytes (max (pageSize * type.minPages) zygote.image.length) zygote.image) :=
  reallocate_newImageAllocator zygote.image mappings
    (Nat.mul_le_mul_left pageSize type.ordered)

section Filled

variable {instantiation : Instantiation zygote.segs} {mem : Memory}
  (filled : instantiation.fill
    (.ofBytes (max (pageSize * type.minPages) zygote.image.length) zygote.image) = .ok mem)

include filled

theorem size_of_fill : mem.size = max (pageSize * type.minPages) zygote.image.length :=
  instantiation.size filled

/-- A clone that passes the check of its size agrees with the image everywhere. -/
theorem newClone_of_memSize_eq (mappings : Mappings)
    (equal : memSize mem = zygote.image.length) :
    ∃ clone, newClone zygote type mappings instantiation = some (.ok clone) ∧
      clone.size = mem.size ∧ ∀ address, clone.byte address = zygote.image.getD address 0 := by
  have size := size_of_fill filled
  obtain ⟨clone, restored, same, agree⟩ :=
    restore_spec zygote.inside zygote.addressable
      (show zygote.image.length ≤ mem.size by omega)
  refine ⟨clone, ?_, same, ?_⟩
  · simp only [newClone, freshBuffer_eq, filled]
    rw [if_neg (not_not_intro equal), restored]
  · intro address
    apply agree
    by_cases covered : ∃ seg ∈ zygote.segs, seg.Covers address
    · exact .inr covered
    · left
      apply instantiation.byte filled address
      intro seg member here
      exact covered ⟨seg, member, here⟩

theorem newClone_of_memSize_ne (mappings : Mappings)
    (different : memSize mem ≠ zygote.image.length) :
    ∃ err, newClone zygote type mappings instantiation = some (.error err) := by
  simp only [newClone, freshBuffer_eq, filled]
  rw [if_pos different]
  exact ⟨_, rfl⟩

end Filled

/-- `newClone` returns an error or the memory of a clone that passed the check. -/
theorem newClone_cases (type : MemoryType) (mappings : Mappings)
    (instantiation : Instantiation zygote.segs) :
    (∃ err, newClone zygote type mappings instantiation = some (.error err)) ∨
    ∃ clone, newClone zygote type mappings instantiation = some (.ok clone) ∧
      clone.size = max (pageSize * type.minPages) zygote.image.length ∧
      memSize clone = zygote.image.length ∧
      ∀ address, clone.byte address = zygote.image.getD address 0 := by
  cases filled : instantiation.fill
      (.ofBytes (max (pageSize * type.minPages) zygote.image.length) zygote.image) with
  | error err => exact .inl ⟨err, by simp only [newClone, freshBuffer_eq, filled]⟩
  | ok mem =>
      by_cases equal : memSize mem = zygote.image.length
      · obtain ⟨clone, made, size, bytes⟩ := newClone_of_memSize_eq filled mappings equal
        refine .inr ⟨clone, made, size.trans (size_of_fill filled), ?_, bytes⟩
        rw [memSize, size]
        exact equal
      · exact .inl (newClone_of_memSize_ne filled mappings equal)

/-- What is asked of the clones of a template: `newClone` does not panic, it makes a clone
when the image has the minimum of the module and wazero fills the buffer, and every clone
starts from the image. -/
structure ExactClones (zygote : Zygote wasm) (type : MemoryType) : Prop where
  total : ∀ mappings instantiation, newClone zygote type mappings instantiation ≠ none
  made : pageSize * type.minPages ≤ zygote.image.length →
    ∀ mappings instantiation buffer mem, freshBuffer zygote type mappings = some buffer →
      instantiation.fill buffer = .ok mem →
      ∃ clone, newClone zygote type mappings instantiation = some (.ok clone)
  startsFrom : ∀ mappings instantiation clone,
    newClone zygote type mappings instantiation = some (.ok clone) →
    StartsFrom clone zygote.image

theorem newClone_ne_none (mappings : Mappings) (instantiation : Instantiation zygote.segs) :
    newClone zygote type mappings instantiation ≠ none := by
  rcases newClone_cases type mappings instantiation with ⟨err, refused⟩ | ⟨clone, made, -⟩
  · simp [refused]
  · simp [made]

theorem newClone_isOk {mappings : Mappings} {instantiation : Instantiation zygote.segs}
    {buffer mem : Memory} (large : pageSize * type.minPages ≤ zygote.image.length)
    (fresh : freshBuffer zygote type mappings = some buffer)
    (filled : instantiation.fill buffer = .ok mem) :
    ∃ clone, newClone zygote type mappings instantiation = some (.ok clone) := by
  rw [freshBuffer_eq] at fresh
  cases fresh
  have size : memSize mem = zygote.image.length := by
    rw [memSize, size_of_fill filled, max_eq_right large, Nat.mod_eq_of_lt zygote.addressable]
  obtain ⟨clone, made, -⟩ := newClone_of_memSize_eq filled mappings size
  exact ⟨clone, made⟩

/-- An active segment with its data. -/
structure Segment where
  range : SegRange
  data : Bytes
  sized : data.length = range.len.toNat

/-- The copying of the segments, in their order. -/
def applyData : List Segment → Memory → Except Error Memory
  | [], mem => .ok mem
  | segment :: rest, mem =>
      match mem.write segment.range.off.toNat segment.data with
      | none => .error (.foreign "out of bounds memory access")
      | some mem => applyData rest mem

theorem applyData_spec {segments : List Segment} {before after : Memory}
    (applied : applyData segments before = .ok after) :
    after.size = before.size ∧
      ∀ address, (∀ seg ∈ segments.map Segment.range, ¬ seg.Covers address) →
        after.byte address = before.byte address := by
  induction segments generalizing before with
  | nil =>
      cases applied
      exact ⟨rfl, fun _ _ => rfl⟩
  | cons segment rest ih =>
      unfold applyData at applied
      split at applied
      · cases applied
      next between written =>
        obtain ⟨size, byte⟩ := ih applied
        refine ⟨size.trans (Memory.size_of_write written), ?_⟩
        intro address outside
        rw [List.map_cons, List.forall_mem_cons] at outside
        rw [byte address outside.2, Memory.byte_of_write written, if_neg]
        rw [segment.sized]
        exact outside.1

/-- Copying the segments of a module writes nothing outside their ranges. -/
def copying (segments : List Segment) : Instantiation (segments.map Segment.range) where
  fill := applyData segments
  size := fun applied => (applyData_spec applied).1
  byte := fun applied => (applyData_spec applied).2

/-- A module without data leaves the buffer as it is. -/
def untouched (segs : List SegRange) : Instantiation segs where
  fill := .ok
  size := by
    intro before after filled
    cases filled
    rfl
  byte := by
    intro before after filled address outside
    cases filled
    rfl

/-- The check of the size takes a memory of 4 GiB for an empty one. -/
theorem newClone_of_wrapped (whole : type.minPages = 65536) (empty : zygote.image = [])
    (mappings : Mappings) :
    ∃ clone, newClone zygote type mappings (untouched zygote.segs) = some (.ok clone) ∧
      clone.size = 2 ^ 32 ∧ ∀ address, clone.byte address = 0 := by
  have size : max (pageSize * type.minPages) zygote.image.length = 2 ^ 32 := by
    rw [whole, empty]
    rfl
  have filled : (untouched zygote.segs).fill
      (.ofBytes (max (pageSize * type.minPages) zygote.image.length) zygote.image) =
        .ok (.ofBytes (max (pageSize * type.minPages) zygote.image.length) zygote.image) := rfl
  have wrapped : max (pageSize * type.minPages) zygote.image.length % 2 ^ 32 =
      zygote.image.length := by
    rw [size, empty]
    rfl
  obtain ⟨clone, made, same, bytes⟩ := newClone_of_memSize_eq filled mappings wrapped
  refine ⟨clone, made, same.trans size, ?_⟩
  intro address
  rw [bytes address, empty]
  rfl

/-- Otherwise a memory that passes the check is as long as the image. -/
theorem length_of_memSize {memory : Memory}
    (size : memory.size = max (pageSize * type.minPages) zygote.image.length)
    (checked : memSize memory = zygote.image.length)
    (proper : type.minPages < 65536 ∨ zygote.image ≠ []) :
    memory.size = zygote.image.length := by
  have bounded := type.bounded
  have ordered := type.ordered
  have addressable := zygote.addressable
  simp only [memSize, pageSize] at size checked
  rcases proper with less | nonempty
  · omega
  · have := List.length_pos_of_ne_nil nonempty
    omega

/-- Clones are exact unless the module asks for all of the address space and the image is
empty. -/
theorem clones_exact_iff (zygote : Zygote wasm) (type : MemoryType) :
    ExactClones zygote type ↔ type.minPages < 65536 ∨ zygote.image ≠ [] := by
  constructor
  · intro exactly
    by_contra neither
    obtain ⟨whole, empty⟩ := not_or.mp neither
    have empty := not_not.mp empty
    have whole : type.minPages = 65536 :=
      Nat.le_antisymm (type.ordered.trans type.bounded) (Nat.le_of_not_lt whole)
    obtain ⟨clone, made, size, -⟩ := newClone_of_wrapped whole empty ⟨true, false⟩
    have length := (exactly.startsFrom _ _ _ made).length
    simp [size, empty] at length
  · intro proper
    refine ⟨newClone_ne_none, fun large _ _ _ _ => newClone_isOk large, ?_⟩
    intro mappings instantiation clone cloned
    rcases newClone_cases type mappings instantiation with
      ⟨err, refused⟩ | ⟨_, made, size, same, bytes⟩
    · rw [refused] at cloned
      cases cloned
    · rw [made] at cloned
      cases cloned
      exact startsFrom_of_byte (length_of_memSize size same proper) fun address _ => bytes address

/-- Three segments, the second inside the first and the third empty. -/
def overlappingSegments : List Segment :=
  [⟨⟨4, 2⟩, [7, 7], rfl⟩, ⟨⟨5, 1⟩, [9], rfl⟩, ⟨⟨0, 0⟩, [], rfl⟩]

/-- A template of the module that has these segments, after it wrote to its memory. -/
def overlappingZygote :
    Zygote [0, 0x61, 0x73, 0x6d, 1, 0, 0, 0, 11, 19, 3, 0, 0x41, 4, 0x0b, 2, 7, 7, 0, 0x41, 5,
      0x0b, 1, 9, 0, 0x41, 0, 0x0b, 0] where
  image := [1, 2, 3, 4, 5, 6, 7, 8]
  segs := overlappingSegments.map Segment.range
  parsed := by decide
  inside := by decide
  addressable := by decide

def growingType : MemoryType where
  minPages := 0
  maxPages := 16
  ordered := by decide
  bounded := by decide

theorem clones_exact_iff_overlapping :
    ∀ mappings, ∃ clone,
      newClone overlappingZygote growingType mappings (copying overlappingSegments) =
        some (.ok clone) ∧
      StartsFrom clone [1, 2, 3, 4, 5, 6, 7, 8] := by
  intro mappings
  have exactly := (clones_exact_iff overlappingZygote growingType).mpr (.inl (by decide))
  obtain ⟨clone, made⟩ :=
    exactly.made (by decide) mappings (copying overlappingSegments) _ _ freshBuffer_eq rfl
  exact ⟨clone, made, exactly.startsFrom _ _ _ made⟩

/-- A module that declares a memory of 65536 pages, and no data. -/
def wholeModule : Bytes :=
  [0, 0x61, 0x73, 0x6d, 1, 0, 0, 0, 5, 5, 1, 0, 0x80, 0x80, 4]

def wholeType : MemoryType where
  minPages := 65536
  maxPages := 65536
  ordered := Nat.le_refl _
  bounded := Nat.le_refl _

/-- The image of a template of 4 GiB is empty, and a clone of it blank. -/
theorem wholeModule_clone_blank :
    ∃ zygote clone,
      initZygote true wholeModule (.ok { size := 2 ^ 32, byte := fun _ => 1 }) true =
        .ready zygote ∧
      newClone zygote wholeType ⟨true, false⟩ (untouched zygote.segs) = some (.ok clone) ∧
      ¬ StartsFrom clone zygote.image ∧ clone.size = 2 ^ 32 ∧
      ∀ address, clone.byte address = 0 := by
  obtain ⟨zygote, ready, empty⟩ : ∃ zygote : Zygote wholeModule,
      initZygote true wholeModule (.ok { size := 2 ^ 32, byte := fun _ => 1 }) true =
        .ready zygote ∧ zygote.image = [] := ⟨_, rfl, rfl⟩
  obtain ⟨clone, made, size, blank⟩ :=
    newClone_of_wrapped (show wholeType.minPages = 65536 from rfl) empty ⟨true, false⟩
  refine ⟨zygote, clone, ready, made, ?_, size, blank⟩
  intro starts
  have length := starts.length
  simp [size, empty] at length

end UnboundWasm.Host
