import Mathlib.Data.List.Basic
import Mathlib.Tactic.Ring

/-!
# Linear memories

A byte-addressed memory of a fixed size, read and written in ranges that must
lie inside it, together with the little-endian words stored there.  The frame
rule `read_write_of_disjoint` is what lets two components agree through offsets.
-/

namespace UnboundWasm.Lib

/-- A linear memory. Addresses from `size` on are outside. -/
structure Memory where
  size : Nat
  byte : Nat → UInt8

namespace Memory

/-- Read `count` bytes at `ptr`, failing when the range leaves the memory. -/
def read (memory : Memory) (ptr count : Nat) : Option (List UInt8) :=
  if ptr + count ≤ memory.size then
    some ((List.range count).map fun i => memory.byte (ptr + i))
  else
    none

/-- Write a byte string at `ptr`, failing when the range leaves the memory. -/
def write (memory : Memory) (ptr : Nat) (data : List UInt8) : Option Memory :=
  if ptr + data.length ≤ memory.size then
    some { memory with
      byte := fun address =>
        if ptr ≤ address ∧ address < ptr + data.length then
          data.getD (address - ptr) 0
        else
          memory.byte address }
  else
    none

/-- The memory of `size` bytes that starts with `data` and is zero behind it. -/
def ofBytes (size : Nat) (data : List UInt8) : Memory where
  size := size
  byte := fun address => data.getD address 0

/-- A fresh memory of `size` bytes with the first `count` bytes copied into it. -/
def copied (memory : Memory) (count size : Nat) : Memory where
  size := size
  byte := fun address => if address < count then memory.byte address else 0

/-- All the bytes of a memory. -/
def contents (memory : Memory) : List UInt8 :=
  (List.range memory.size).map memory.byte

/-- The memory with one byte replaced. -/
def set (memory : Memory) (address : Nat) (value : UInt8) : Memory :=
  { memory with byte := Function.update memory.byte address value }

/-- Zeros behind a byte string, up to a size. -/
def padded (data : List UInt8) (size : Nat) : List UInt8 :=
  data ++ List.replicate (size - data.length) 0

/-- Two address ranges share no byte. -/
def Apart (left leftCount right rightCount : Nat) : Prop :=
  left + leftCount ≤ right ∨ right + rightCount ≤ left

variable {memory after : Memory} {ptr count other : Nat} {data : List UInt8}

theorem read_eq_some_iff :
    memory.read ptr count = some data ↔
      ptr + count ≤ memory.size ∧
        (List.range count).map (fun i => memory.byte (ptr + i)) = data := by
  unfold read
  split <;> simp_all

theorem size_of_write (written : memory.write ptr data = some after) :
    after.size = memory.size := by
  unfold write at written
  split at written
  · simp only [Option.some.injEq] at written
    subst after
    rfl
  · simp at written

theorem inside_of_write (written : memory.write ptr data = some after) :
    ptr + data.length ≤ memory.size := by
  unfold write at written
  split at written
  · assumption
  · simp at written

theorem write_isSome (inside : ptr + data.length ≤ memory.size) :
    ∃ after, memory.write ptr data = some after := by
  simp [write, inside]

theorem byte_of_write (written : memory.write ptr data = some after)
    (address : Nat) :
    after.byte address =
      if ptr ≤ address ∧ address < ptr + data.length then
        data.getD (address - ptr) 0
      else memory.byte address := by
  unfold write at written
  split at written
  · simp only [Option.some.injEq] at written
    subst after
    rfl
  · simp at written

/-- Writing nothing changes nothing. -/
theorem write_nil (inside : ptr ≤ memory.size) : memory.write ptr [] = some memory := by
  have none : ∀ address, ¬ (ptr ≤ address ∧ address < ptr) := by omega
  simp [write, inside, none]

/-- A write is read back. -/
theorem read_write (written : memory.write ptr data = some after) :
    after.read ptr data.length = some data := by
  rw [read_eq_some_iff, size_of_write written]
  refine ⟨inside_of_write written, ?_⟩
  apply List.ext_getElem
  · simp
  · intro i inRange inData
    simp [byte_of_write written, inData]

/-- A write does not change what lies outside its range. -/
theorem read_write_of_disjoint (written : memory.write ptr data = some after)
    (apart : Apart other count ptr data.length) :
    after.read other count = memory.read other count := by
  unfold read
  rw [size_of_write written]
  congr 2
  apply List.map_congr_left
  intro i inRange
  rw [byte_of_write written, if_neg]
  rw [List.mem_range] at inRange
  rcases apart with before | behind <;> omega

theorem length_of_read (loaded : memory.read ptr count = some data) : data.length = count := by
  rw [read_eq_some_iff] at loaded
  obtain ⟨_, bytes⟩ := loaded
  subst data
  simp

theorem byte_of_read (loaded : memory.read ptr count = some data) {i : Nat}
    (inData : i < data.length) : memory.byte (ptr + i) = data[i] := by
  rw [read_eq_some_iff] at loaded
  obtain ⟨_, bytes⟩ := loaded
  subst data
  simp

theorem copied_ofBytes (old size : Nat) (data : List UInt8) :
    (ofBytes old data).copied data.length size = ofBytes size data := by
  simp only [copied, ofBytes, mk.injEq, true_and]
  funext address
  split
  · rfl
  next outside =>
    rw [List.getD_eq_getElem?_getD, List.getElem?_eq_none (Nat.le_of_not_lt outside)]
    rfl

@[simp] theorem length_contents (memory : Memory) : memory.contents.length = memory.size := by
  simp [contents]

theorem length_padded {data : List UInt8} {size : Nat} (fits : data.length ≤ size) :
    (padded data size).length = size := by
  rw [padded, List.length_append, List.length_replicate]
  omega

theorem getD_padded (data : List UInt8) (size address : Nat) :
    (padded data size).getD address 0 = data.getD address 0 := by
  simp only [padded, List.getD_eq_getElem?_getD, List.getElem?_append, List.getElem?_replicate]
  split
  · rfl
  next behind =>
    rw [List.getElem?_eq_none (Nat.le_of_not_lt behind)]
    split <;> rfl

/-- Zeros behind the bytes of a memory are there already. -/
theorem ofBytes_padded (size length : Nat) (data : List UInt8) :
    ofBytes size (padded data length) = ofBytes size data := by
  simp only [ofBytes, mk.injEq, true_and]
  funext address
  exact getD_padded data length address

theorem contents_ofBytes {data : List UInt8} {size : Nat} (fits : data.length ≤ size) :
    (ofBytes size data).contents = padded data size := by
  apply List.ext_getElem
  · rw [length_contents, length_padded fits, ofBytes]
  · intro address inside inPadded
    have same := getD_padded data size address
    rw [List.getD_eq_getElem?_getD, List.getElem?_eq_getElem inPadded, Option.getD_some] at same
    simp only [contents, ofBytes, List.getElem_map, List.getElem_range, same]

theorem set_ofBytes {data : List UInt8} {address : Nat} (inside : address < data.length)
    (size : Nat) (value : UInt8) :
    (ofBytes size data).set address value = ofBytes size (data.set address value) := by
  simp only [set, ofBytes, mk.injEq, true_and]
  funext other
  simp only [Function.update_apply, List.getD_eq_getElem?_getD, List.getElem?_set]
  grind

end Memory

/-- The four little-endian bytes of a word. -/
def wordBytes (value : Nat) : List UInt8 :=
  (List.range 4).map fun i => UInt8.ofNat (value / 256 ^ i)

/-- The word in the first four bytes of a byte string, little-endian. -/
def bytesWord (data : List UInt8) : Nat :=
  (data.take 4).foldr (fun byte value => byte.toNat + 256 * value) 0

@[simp] theorem length_wordBytes (value : Nat) : (wordBytes value).length = 4 := by
  simp [wordBytes]

/-- A word survives being stored and loaded. -/
theorem bytesWord_wordBytes {value : Nat} (fits : value < 2 ^ 32)
    (rest : List UInt8) : bytesWord (wordBytes value ++ rest) = value := by
  simp [bytesWord, wordBytes, List.range_succ, UInt8.toNat_ofNat']
  omega

/-- A word has 32 bits. -/
theorem bytesWord_lt (data : List UInt8) : bytesWord data < 2 ^ 32 := by
  have bound : ∀ bytes : List UInt8,
      bytes.foldr (fun byte value => byte.toNat + 256 * value) 0 < 256 ^ bytes.length := by
    intro bytes
    induction bytes with
    | nil => simp
    | cons byte rest ih =>
        have small := byte.toNat_lt
        rw [List.foldr_cons, List.length_cons, Nat.pow_succ]
        omega
  calc bytesWord data < 256 ^ (data.take 4).length := bound _
    _ ≤ 256 ^ 4 := Nat.pow_le_pow_right (by decide) (List.length_take_le 4 data)

@[simp] theorem length_flatMap_wordBytes (words : List Nat) :
    (words.flatMap wordBytes).length = 4 * words.length := by
  induction words with
  | nil => rfl
  | cons word rest ih => simp [ih, Nat.mul_add, Nat.add_comm]

/-- A record of words is read back word by word. -/
theorem bytesWord_drop_flatMap {words : List Nat} {index value : Nat}
    (word : words[index]? = some value) (fits : value < 2 ^ 32) :
    bytesWord ((words.flatMap wordBytes).drop (4 * index)) = value := by
  induction words generalizing index with
  | nil => simp at word
  | cons first rest ih =>
      cases index with
      | zero =>
          simp only [List.getElem?_cons_zero, Option.some.injEq] at word
          subst value
          exact bytesWord_wordBytes fits _
      | succ index =>
          have shift : 4 * (index + 1) = (wordBytes first).length + 4 * index := by
            rw [length_wordBytes, Nat.mul_add, Nat.add_comm]
          rw [shift, List.flatMap_cons, List.drop_length_add_append]
          exact ih (by simpa using word)

end UnboundWasm.Lib
