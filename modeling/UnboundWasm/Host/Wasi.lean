import UnboundWasm.Lib.Memory
import UnboundWasm.Host.Answer
import UnboundWasm.Host.Errno

/-!
# Log writes

`wasiFDWrite` of `wasi.go` gathers the ranges of its iovecs into one message.  Each range is
checked against the memory, their sum is not, so that ranges named twice make the message
larger than the memory they are read from.
-/

namespace UnboundWasm.Host

open UnboundWasm.Lib

/-- `ReadUint32Le` of a wasm memory. -/
def readUint32Le (memory : Memory) (offset : UInt32) : Option UInt32 :=
  (memory.read offset.toNat 4).map fun word => .ofNat (bytesWord word)

/-- `WriteUint32Le` of a wasm memory. -/
def writeUint32Le (memory : Memory) (offset value : UInt32) : Option Memory :=
  memory.write offset.toNat (wordBytes value.toNat)

/-- The levels of `log/slog` that guest output is logged at. -/
inductive Level where
  | info
  | error
  deriving DecidableEq, Repr

/-- What `wasiFDWrite` returns, leaves in memory and logs. -/
structure FDWrite where
  errno : Int
  memory : Memory
  logged : Option (Level × Bytes)

/-- The loop of `wasiFDWrite` with `rounds` iovecs left, the next one the `n`th. -/
def gather (memory : Memory) (iovs : UInt32) : Nat → UInt32 → Bytes → Option Bytes
  | 0, _, msg => some msg
  | rounds + 1, n, msg =>
      let base := iovs + n * 8
      match readUint32Le memory base, readUint32Le memory (base + 4) with
      | some ptr, some length =>
          match memory.read ptr.toNat length.toNat with
          | some part => gather memory iovs rounds (n + 1) (msg ++ part)
          | none => none
      | _, _ => none

/-- `wasiFDWrite`. -/
def wasiFDWrite (memory : Memory) (fd iovs count written : UInt32) : FDWrite :=
  if fd ≠ 1 ∧ fd ≠ 2 then ⟨wasiEBADF, memory, none⟩
  else
    match gather memory iovs count.toNat 0 [] with
    | none => ⟨wasiEFAULT, memory, none⟩
    | some msg =>
        match writeUint32Le memory written (.ofNat msg.length) with
        | none => ⟨wasiEFAULT, memory, none⟩
        | some after => ⟨wasiSuccess, after, some (if fd = 2 then .error else .info, msg)⟩

/-! ## What the iovecs name -/

/-- The bytes of a range, wherever it lies. -/
def bytesAt (memory : Memory) (address count : Nat) : Bytes :=
  (List.range count).map fun i => memory.byte (address + i)

/-- The pointer of the iovec at an address. -/
def iovecPtr (memory : Memory) (address : Nat) : Nat := bytesWord (bytesAt memory address 4)

/-- The length of the iovec at an address. -/
def iovecLength (memory : Memory) (address : Nat) : Nat :=
  bytesWord (bytesAt memory (address + 4) 4)

/-- The range the iovec at an address names. -/
def iovecPart (memory : Memory) (address : Nat) : Bytes :=
  bytesAt memory (iovecPtr memory address) (iovecLength memory address)

/-- An iovec that lies in the memory, as does the range it names. -/
def IovecInside (memory : Memory) (address : Nat) : Prop :=
  address + 8 ≤ memory.size ∧
    iovecPtr memory address + iovecLength memory address ≤ memory.size

instance (memory : Memory) (address : Nat) : Decidable (IovecInside memory address) :=
  inferInstanceAs (Decidable (_ ∧ _))

/-- The ranges of `count` iovecs in a row. -/
def iovecParts (memory : Memory) (iovs count : Nat) : List Bytes :=
  (List.range count).map fun n => iovecPart memory (iovs + 8 * n)

/-- How many bytes `count` iovecs in a row name together. -/
def namedLength (memory : Memory) (iovs count : Nat) : Nat :=
  ((List.range count).map fun n => iovecLength memory (iovs + 8 * n)).sum

/-- Arguments that are not refused: an output stream, ranges in the memory, a word for the
length. -/
structure Accepted (memory : Memory) (fd iovs count written : UInt32) : Prop where
  stream : fd = 1 ∨ fd = 2
  inside : ∀ n < count.toNat, IovecInside memory (iovs.toNat + 8 * n)
  length : written.toNat + 4 ≤ memory.size

/-- A message as it should be: the ranges in order, found at addresses that do not wrap, no
larger than the memory, with its length stored. -/
structure LoggedExactly (memory : Memory) (iovs count written : Nat) (after : Memory)
    (msg : Bytes) : Prop where
  message : msg = (iovecParts memory iovs count).flatten
  inside : ∀ n < count, IovecInside memory (iovs + 8 * n)
  noWrap : ∀ n < count, iovs + 8 * n + 8 ≤ 2 ^ 32
  bounded : msg.length ≤ memory.size
  stored : (after.read written 4).map bytesWord = some msg.length

/-- Every write that succeeds is logged as it should be. -/
def BoundedLog (memory : Memory) (fd iovs count written : UInt32) : Prop :=
  (wasiFDWrite memory fd iovs count written).errno = wasiSuccess →
    ∃ level msg, (wasiFDWrite memory fd iovs count written).logged = some (level, msg) ∧
      LoggedExactly memory iovs.toNat count.toNat written.toNat
        (wasiFDWrite memory fd iovs count written).memory msg

theorem iovecParts_succ (memory : Memory) (iovs count : Nat) :
    iovecParts memory iovs (count + 1) =
      iovecPart memory iovs :: iovecParts memory (iovs + 8) count := by
  have shift : ∀ n, iovs + 8 * (n + 1) = iovs + 8 + 8 * n := by omega
  simp [iovecParts, List.range_succ_eq_map, Function.comp_def, shift]

theorem length_iovecParts (memory : Memory) (iovs count : Nat) :
    (iovecParts memory iovs count).flatten.length = namedLength memory iovs count := by
  simp [iovecParts, namedLength, List.length_flatten, Function.comp_def, iovecPart, bytesAt]

/-! ## The loop -/

theorem read_eq (memory : Memory) (ptr count : Nat) :
    memory.read ptr count =
      if ptr + count ≤ memory.size then some (bytesAt memory ptr count) else none := rfl

theorem readUint32Le_inside {memory : Memory} {offset : UInt32}
    (inside : offset.toNat + 4 ≤ memory.size) :
    readUint32Le memory offset = some (.ofNat (bytesWord (bytesAt memory offset.toNat 4))) := by
  rw [readUint32Le, read_eq, if_pos inside]
  rfl

theorem readUint32Le_outside {memory : Memory} {offset : UInt32}
    (outside : ¬ offset.toNat + 4 ≤ memory.size) : readUint32Le memory offset = none := by
  rw [readUint32Le, read_eq, if_neg outside]
  rfl

theorem toNat_bytesWord (data : Bytes) :
    (UInt32.ofNat (bytesWord data)).toNat = bytesWord data := by
  rw [UInt32.toNat_ofNat', Nat.mod_eq_of_lt (bytesWord_lt data)]

/-- One round at an address that does not wrap. -/
theorem gather_succ {memory : Memory} {iovs n : UInt32} {rounds : Nat} {msg : Bytes}
    (small : memory.size < 2 ^ 32) (noWrap : iovs.toNat + 8 * n.toNat < 2 ^ 32) :
    gather memory iovs (rounds + 1) n msg =
      if IovecInside memory (iovs.toNat + 8 * n.toNat) then
        gather memory iovs rounds (n + 1) (msg ++ iovecPart memory (iovs.toNat + 8 * n.toNat))
      else none := by
  have eight : (8 : UInt32).toNat = 8 := rfl
  have four : (4 : UInt32).toNat = 4 := rfl
  have base : (iovs + n * 8).toNat = iovs.toNat + 8 * n.toNat := by
    rw [UInt32.toNat_add, UInt32.toNat_mul, eight]
    omega
  rw [gather]
  by_cases first : iovs.toNat + 8 * n.toNat + 4 ≤ memory.size
  · have next : (iovs + n * 8 + 4).toNat = iovs.toNat + 8 * n.toNat + 4 := by
      rw [UInt32.toNat_add, base, four]
      omega
    rw [readUint32Le_inside (by omega)]
    by_cases second : iovs.toNat + 8 * n.toNat + 8 ≤ memory.size
    · rw [readUint32Le_inside (by omega)]
      dsimp only
      rw [toNat_bytesWord, toNat_bytesWord, read_eq, base, next, ← iovecPtr, ← iovecLength]
      by_cases range : iovecPtr memory (iovs.toNat + 8 * n.toNat) +
          iovecLength memory (iovs.toNat + 8 * n.toNat) ≤ memory.size
      · rw [if_pos range, if_pos ⟨second, range⟩]
        rfl
      · rw [if_neg range, if_neg fun inside => range inside.2]
    · rw [readUint32Le_outside (by omega), if_neg fun inside => second inside.1]
  · rw [readUint32Le_outside (by omega), if_neg fun inside => first (by have := inside.1; omega)]

/-- The loop appends the ranges of the iovecs left, or fails on one that is outside. -/
theorem gather_eq {memory : Memory} {iovs : UInt32} (small : memory.size < 2 ^ 32) {rounds : Nat}
    {n : UInt32} {msg : Bytes} (noWrap : iovs.toNat + 8 * n.toNat < 2 ^ 32) :
    gather memory iovs rounds n msg =
      if ∀ k < rounds, IovecInside memory (iovs.toNat + 8 * n.toNat + 8 * k) then
        some (msg ++ (iovecParts memory (iovs.toNat + 8 * n.toNat) rounds).flatten)
      else none := by
  induction rounds generalizing n msg with
  | zero => simp [gather, iovecParts]
  | succ rounds ih =>
      rw [gather_succ small noWrap]
      by_cases inside : IovecInside memory (iovs.toNat + 8 * n.toNat)
      · have size := inside.1
        have next : (n + 1).toNat = n.toNat + 1 := by
          rw [UInt32.toNat_add, UInt32.toNat_one]
          omega
        have address : iovs.toNat + 8 * (n + 1).toNat = iovs.toNat + 8 * n.toNat + 8 := by omega
        have others : (∀ k < rounds + 1, IovecInside memory (iovs.toNat + 8 * n.toNat + 8 * k)) ↔
            ∀ k < rounds, IovecInside memory (iovs.toNat + 8 * n.toNat + 8 + 8 * k) := by
          have shift : ∀ k, iovs.toNat + 8 * n.toNat + 8 * (k + 1) =
              iovs.toNat + 8 * n.toNat + 8 + 8 * k := by omega
          simp only [Nat.forall_lt_succ_left, Nat.mul_zero, Nat.add_zero, inside, true_and, shift]
        rw [if_pos inside, ih (by omega), address, iovecParts_succ, List.flatten_cons,
          List.append_assoc]
        simp only [others]
      · rw [if_neg inside, if_neg fun all => inside (all 0 (by omega))]

/-- What a write does, by whether its arguments are accepted. -/
theorem wasiFDWrite_accepted {memory : Memory} {fd iovs count written : UInt32}
    (small : memory.size < 2 ^ 32) (accepted : Accepted memory fd iovs count written) :
    ∃ after, memory.write written.toNat
        (wordBytes (namedLength memory iovs.toNat count.toNat % 2 ^ 32)) = some after ∧
      wasiFDWrite memory fd iovs count written =
        ⟨wasiSuccess, after, some (if fd = 2 then .error else .info,
          (iovecParts memory iovs.toNat count.toNat).flatten)⟩ := by
  obtain ⟨stream, inside, length⟩ := accepted
  have base : iovs.toNat + 8 * (0 : UInt32).toNat = iovs.toNat := rfl
  have room : written.toNat +
      (wordBytes (namedLength memory iovs.toNat count.toNat % 2 ^ 32)).length ≤ memory.size := by
    rwa [length_wordBytes]
  obtain ⟨after, stored⟩ := Memory.write_isSome room
  refine ⟨after, stored, ?_⟩
  have lengthStored : writeUint32Le memory written
      (.ofNat (iovecParts memory iovs.toNat count.toNat).flatten.length) = some after := by
    rw [writeUint32Le, UInt32.toNat_ofNat', length_iovecParts, stored]
  rw [wasiFDWrite, if_neg (by tauto), gather_eq small (by rw [base]; exact iovs.toNat_lt), base,
    if_pos inside, List.nil_append]
  dsimp only
  rw [lengthStored]

theorem accepted_of_success {memory : Memory} {fd iovs count written : UInt32}
    (small : memory.size < 2 ^ 32)
    (success : (wasiFDWrite memory fd iovs count written).errno = wasiSuccess) :
    Accepted memory fd iovs count written := by
  have base : iovs.toNat + 8 * (0 : UInt32).toNat = iovs.toNat := rfl
  rw [wasiFDWrite, gather_eq small (by rw [base]; exact iovs.toNat_lt), base] at success
  split at success
  next => simp [wasiEBADF, wasiSuccess] at success
  next stream =>
    split at success
    next => simp [wasiEFAULT, wasiSuccess] at success
    next msg gathered =>
      split at success
      next => simp [wasiEFAULT, wasiSuccess] at success
      next after stored =>
        refine ⟨by tauto, ?_, ?_⟩
        · by_contra outside
          rw [if_neg outside] at gathered
          simp at gathered
        · simpa using Memory.inside_of_write stored

/-- A write that succeeds is logged exactly and within the bounds of the memory, on the
arguments whose ranges have together no more bytes than the memory, and on no others. -/
theorem bounded_log_iff {memory : Memory} (small : memory.size < 2 ^ 32)
    (fd iovs count written : UInt32) :
    BoundedLog memory fd iovs count written ↔
      (Accepted memory fd iovs count written →
        namedLength memory iovs.toNat count.toNat ≤ memory.size) := by
  constructor
  · intro log accepted
    obtain ⟨after, stored, result⟩ := wasiFDWrite_accepted small accepted
    rw [BoundedLog, result] at log
    obtain ⟨level, msg, logged, exactly⟩ := log rfl
    have bounded := exactly.bounded
    rwa [exactly.message, length_iovecParts] at bounded
  · intro fits success
    have accepted := accepted_of_success small success
    obtain ⟨after, stored, result⟩ := wasiFDWrite_accepted small accepted
    have bound := fits accepted
    rw [Nat.mod_eq_of_lt (by omega)] at stored
    have loaded := Memory.read_write stored
    have whole := bytesWord_wordBytes (show namedLength memory iovs.toNat count.toNat < 2 ^ 32 by
      omega) []
    rw [List.append_nil] at whole
    rw [length_wordBytes] at loaded
    rw [result]
    refine ⟨_, _, rfl, rfl, accepted.inside, ?_, ?_, ?_⟩
    · intro n inRange
      have inside := (accepted.inside n inRange).1
      omega
    · rwa [length_iovecParts]
    · rw [loaded, length_iovecParts, Option.map_some, whole]

/-- A write of one range. -/
theorem bounded_log_iff_single :
    (wasiFDWrite (.ofBytes 65536 (wordBytes 16 ++ wordBytes 2 ++ wordBytes 0 ++ wordBytes 0 ++
        [104, 105])) 1 0 1 8).logged = some (.info, [104, 105]) ∧
      BoundedLog (.ofBytes 65536 (wordBytes 16 ++ wordBytes 2 ++ wordBytes 0 ++ wordBytes 0 ++
        [104, 105])) 1 0 1 8 := by
  refine ⟨by decide, ?_⟩
  rw [bounded_log_iff (by decide)]
  intro accepted
  decide

/-- Sixteen pages in which every eight bytes are an iovec that names all of them. -/
def repeating : Memory where
  size := 2 ^ 20
  byte := fun address => if address % 8 = 6 then 16 else 0

theorem iovecPtr_repeating (n : Nat) : iovecPtr repeating (8 * n) = 0 := by
  simp [iovecPtr, bytesAt, repeating, List.range_succ, bytesWord]

theorem iovecLength_repeating (n : Nat) : iovecLength repeating (8 * n) = 2 ^ 20 := by
  have other : ∀ i < 4, i ≠ 2 → ¬ (8 * n + 4 + i) % 8 = 6 := by omega
  have two : (8 * n + 4 + 2) % 8 = 6 := by omega
  simp [iovecLength, bytesAt, repeating, List.range_succ, other, two, bytesWord]

theorem namedLength_repeating (count : Nat) : namedLength repeating 0 count = count * 2 ^ 20 := by
  simp [namedLength, iovecLength_repeating]

/-- A guest of one mebibyte makes the host log four gibibytes, and is told that it wrote none. -/
theorem repeated_ranges_logged :
    (wasiFDWrite repeating 1 0 4096 0).errno = wasiSuccess ∧
      (∃ msg, (wasiFDWrite repeating 1 0 4096 0).logged = some (.info, msg) ∧
        msg.length = 2 ^ 32) ∧
      ((wasiFDWrite repeating 1 0 4096 0).memory.read 0 4).map bytesWord = some 0 ∧
      ¬ BoundedLog repeating 1 0 4096 0 := by
  have zero : (0 : UInt32).toNat = 0 := rfl
  have count : (4096 : UInt32).toNat = 4096 := rfl
  have small : repeating.size < 2 ^ 32 := by decide
  have accepted : Accepted repeating 1 0 4096 0 := by
    refine ⟨.inl rfl, ?_, by decide⟩
    intro n inRange
    rw [count] at inRange
    rw [zero, Nat.zero_add, IovecInside, iovecPtr_repeating, iovecLength_repeating]
    show 8 * n + 8 ≤ 2 ^ 20 ∧ 0 + 2 ^ 20 ≤ 2 ^ 20
    omega
  have total : namedLength repeating (0 : UInt32).toNat (4096 : UInt32).toNat = 2 ^ 32 := by
    rw [zero, count, namedLength_repeating]
    norm_num
  obtain ⟨after, stored, result⟩ := wasiFDWrite_accepted small accepted
  rw [total] at stored
  refine ⟨by rw [result], ⟨_, by rw [result]; rfl, ?_⟩, ?_, ?_⟩
  · rw [length_iovecParts, total]
  · rw [result]
    have loaded := Memory.read_write stored
    rw [length_wordBytes, zero] at loaded
    rw [loaded]
    decide
  · intro log
    obtain ⟨level, msg, logged, exactly⟩ := log (by rw [result])
    have bounded := exactly.bounded
    rw [exactly.message, length_iovecParts, total] at bounded
    exact absurd bounded (by decide)

end UnboundWasm.Host
