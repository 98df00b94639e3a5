import UnboundWasm.Lib.Machine
import UnboundWasm.Host.Crypto

/-!
# Hashing a stream

`secalgo_hash` of `backends/secalgo.c` collects the pieces of a message in a block that grows
by doubling, and asks the host for one digest at the end.  `size_t` has 32 bits.  What
`realloc` answers is arbitrary: no block, or a larger one whose new bytes hold anything.

A block is the list of its bytes, and the null pointer the empty list.  A copy that leaves its
block, and a loop that is not done in time, have no result.
-/

namespace UnboundWasm.Guest

open UnboundWasm.Lib UnboundWasm.Host

/-- `SIZE_MAX` of the guest. -/
def sizeMax : UInt32 := 4294967295

/-- `INT32_MAX`. -/
def int32Max : UInt32 := 2147483647

/-- `struct secalgo_hash`. -/
structure SecalgoHash where
  alg : Nat
  data : Bytes
  len : UInt32
  cap : UInt32
  deriving DecidableEq, Repr

/-- `hash_create`, with whether `calloc` finds memory. -/
def hashCreate (found : Bool) (alg : Nat) : Option SecalgoHash :=
  if found then some ⟨alg, [], 0, 0⟩ else none

/-- `secalgo_hash_create_sha384`. -/
def secalgoHashCreateSha384 (found : Bool) : Option SecalgoHash := hashCreate found 4

/-- `secalgo_hash_create_sha512`. -/
def secalgoHashCreateSha512 (found : Bool) : Option SecalgoHash := hashCreate found 5

/-- A piece of a message, of a length that is a `size_t`. -/
def Piece := { bytes : Bytes // bytes.length < 2 ^ 32 }

def Piece.len (piece : Piece) : UInt32 := .ofNat piece.val.length

/-- What one round of the capacity loop comes to. -/
inductive CapStep where
  | enough
  | tooLarge
  | again (cap : UInt32)
  deriving DecidableEq, Repr

/-- A round of `while (cap < h->len + len)`. -/
def capStep (need cap : UInt32) : CapStep :=
  if cap < need then
    if cap > sizeMax / 2 then .tooLarge else .again (cap * 2)
  else
    .enough

/-- The capacity loop, for a number of rounds: the capacity, or nothing for `return 0`. -/
def capLoop (need : UInt32) : Nat → UInt32 → Option (Option UInt32)
  | 0, _ => none
  | rounds + 1, cap =>
      match capStep need cap with
      | .enough => some (some cap)
      | .tooLarge => some none
      | .again next => capLoop need rounds next

/-- What `realloc` answers: no block, or the bytes at the end of a larger one. -/
def Realloc := Option (Nat → UInt8)

/-- `realloc`. -/
def realloc (answer : Realloc) (block : Bytes) (size : Nat) : Option Bytes :=
  answer.map fun fill => block.take size ++ (List.range (size - block.length)).map fill

/-- `memcpy` to a place in a block. -/
def memcpy (block : Bytes) (start : Nat) (bytes : Bytes) : Option Bytes :=
  if start + bytes.length ≤ block.length then
    some (block.take start ++ bytes ++ block.drop (start + bytes.length))
  else
    none

/-- The end of `secalgo_hash_update`, where the piece is known to fit. -/
def hashAppend (hash : SecalgoHash) (piece : Piece) : Option (Bool × SecalgoHash) :=
  (memcpy hash.data hash.len.toNat piece.val).map fun block =>
    (true, { hash with data := block, len := hash.len + piece.len })

/-- `secalgo_hash_update` of a state that is there.  The loop has as many rounds as a `size_t`
has bits, and one to find that it is done. -/
def hashUpdate (answer : Realloc) (hash : SecalgoHash) (piece : Piece) :
    Option (Bool × SecalgoHash) :=
  if piece.len > sizeMax - hash.len then some (false, hash)
  else if hash.len + piece.len > hash.cap then
    match capLoop (hash.len + piece.len) 33 (if hash.cap ≠ 0 then hash.cap else 256) with
    | none => none
    | some none => some (false, hash)
    | some (some cap) =>
        match realloc answer hash.data cap.toNat with
        | none => some (false, hash)
        | some block => hashAppend { hash with data := block, cap := cap } piece
  else
    hashAppend hash piece

/-- `secalgo_hash_update`: what it returns, and the state. -/
def secalgoHashUpdate (answer : Realloc) (hash : Option SecalgoHash) (piece : Piece) :
    Option (Bool × Option SecalgoHash) :=
  match hash with
  | none => some (false, none)
  | some hash => (hashUpdate answer hash piece).map fun (ok, next) => (ok, some next)

/-- The two hashes that libunbound streams. -/
inductive HashKind where
  | sha384
  | sha512
  deriving DecidableEq, Repr

namespace HashKind

def create : HashKind → Bool → Option SecalgoHash
  | sha384 => secalgoHashCreateSha384
  | sha512 => secalgoHashCreateSha512

/-- The selector of the host's digest. -/
def selector : HashKind → Nat
  | sha384 => 4
  | sha512 => 5

/-- The size of a digest. -/
def size : HashKind → UInt32
  | sha384 => 48
  | sha512 => 64

def digest (sha : Sha) : HashKind → Bytes → Bytes
  | sha384 => sha.sha384
  | sha512 => sha.sha512

end HashKind

/-- What `secalgo_hash_final` returns, stores and asks for. -/
structure Final where
  ok : Bool
  resultlen : Option UInt32
  request : Option (Nat × Bytes)
  result : Option Bytes
  deriving DecidableEq, Repr

/-- `secalgo_hash_final`, with whether `resultlen` points somewhere. -/
def secalgoHashFinal (sha : Sha) (hash : Option SecalgoHash) (maxlen : UInt32)
    (resultlen : Bool) : Final :=
  match hash with
  | none => ⟨false, none, none, none⟩
  | some hash =>
      if resultlen = false ∨ hash.len > int32Max then ⟨false, none, none, none⟩
      else
        let need : UInt32 := if hash.alg = 4 then 48 else 64
        if maxlen < need then ⟨false, some 0, none, none⟩
        else
          let data := hash.data.take hash.len.toNat
          let digest := cryptoDigest sha hash.alg data
          ⟨digest.isSome, some need, some (hash.alg, data), digest⟩

/-- Updates of one state, one after another. -/
def hashMachine (created : Option SecalgoHash) :
    Machine (Option SecalgoHash) (Realloc × Piece) where
  initial := created
  step := fun hash (answer, piece) => (secalgoHashUpdate answer hash piece).map Prod.snd

/-- The piece of an update that returns 1. -/
def taken (hash : Option SecalgoHash) : Realloc × Piece → Option Bytes
  | (answer, piece) =>
      match secalgoHashUpdate answer hash piece with
      | some (true, _) => some piece.val
      | _ => none

/-- The sums and doublings of an update have the value they would have in unbounded
arithmetic. -/
structure NoWrap (hash : SecalgoHash) (piece : Piece) : Prop where
  room : (sizeMax - hash.len).toNat = 2 ^ 32 - 1 - hash.len.toNat
  sum : ¬ piece.len > sizeMax - hash.len →
    (hash.len + piece.len).toNat = hash.len.toNat + piece.val.length
  doubling : ∀ cap next, capStep (hash.len + piece.len) cap = .again next →
    next.toNat = cap.toNat * 2

/-- A state that holds the pieces taken so far. -/
structure HoldsPieces (hash : SecalgoHash) (pieces : List Bytes) : Prop where
  block : hash.data.length = hash.cap.toNat
  fits : hash.len ≤ hash.cap
  content : hash.data.take hash.len.toNat = pieces.flatten

/-! ## The capacity -/

theorem Piece.toNat_len (piece : Piece) : piece.len.toNat = piece.val.length := by
  rw [Piece.len, UInt32.toNat_ofNat', Nat.mod_eq_of_lt piece.property]

theorem toNat_of_capStep {need cap next : UInt32} (again : capStep need cap = .again next) :
    next.toNat = cap.toNat * 2 := by
  unfold capStep at again
  split at again
  · split at again
    · cases again
    next small =>
      cases again
      have half : (sizeMax / 2).toNat = 2147483647 := rfl
      rw [gt_iff_lt, UInt32.lt_iff_toNat_lt, half] at small
      rw [UInt32.toNat_mul, show (2 : UInt32).toNat = 2 from rfl]
      omega
  · cases again

theorem noWrap (hash : SecalgoHash) (piece : Piece) : NoWrap hash piece := by
  have most : sizeMax.toNat = 2 ^ 32 - 1 := rfl
  have small := hash.len.toNat_lt
  have room : (sizeMax - hash.len).toNat = 2 ^ 32 - 1 - hash.len.toNat := by
    rw [UInt32.toNat_sub_of_le _ _ (by rw [UInt32.le_iff_toNat_le]; omega), most]
  refine ⟨room, ?_, fun _ _ => toNat_of_capStep⟩
  intro fits
  rw [gt_iff_lt, UInt32.lt_iff_toNat_lt, room, piece.toNat_len] at fits
  rw [UInt32.toNat_add, piece.toNat_len]
  omega

/-- The loop is done in time, with a capacity that is enough. -/
theorem capLoop_done {need cap : UInt32} {rounds : Nat} (enough : 2 ^ 32 ≤ cap.toNat * 2 ^ rounds) :
    ∃ result, capLoop need (rounds + 1) cap = some result ∧
      ∀ new, result = some new → need ≤ new ∧ cap ≤ new := by
  induction rounds generalizing cap with
  | zero =>
      have small := cap.toNat_lt
      omega
  | succ rounds ih =>
      rw [capLoop]
      cases step : capStep need cap with
      | enough =>
          refine ⟨some cap, rfl, ?_⟩
          rintro new ⟨⟩
          refine ⟨?_, UInt32.le_refl cap⟩
          unfold capStep at step
          split at step
          · split at step <;> cases step
          next covered => exact UInt32.not_lt.mp covered
      | tooLarge => exact ⟨none, rfl, by simp⟩
      | again next =>
          have doubled := toNat_of_capStep step
          have further : 2 ^ 32 ≤ next.toNat * 2 ^ rounds := by
            rwa [doubled, Nat.mul_assoc, ← Nat.pow_succ']
          obtain ⟨result, done, bounds⟩ := ih further
          refine ⟨result, done, ?_⟩
          intro new same
          obtain ⟨covers, larger⟩ := bounds new same
          refine ⟨covers, ?_⟩
          rw [UInt32.le_iff_toNat_le] at larger ⊢
          omega

/-- Where the loop starts. -/
theorem capLoop_start (cap : UInt32) :
    cap ≤ (if cap ≠ 0 then cap else 256) ∧ 0 < (if cap ≠ 0 then cap else 256).toNat := by
  split
  next nonzero =>
    refine ⟨UInt32.le_refl cap, ?_⟩
    rw [Nat.pos_iff_ne_zero]
    intro zero
    exact nonzero (UInt32.toNat_inj.mp zero)
  next zero =>
    rw [not_not] at zero
    subst zero
    decide

/-! ## Updates -/

variable {hash : SecalgoHash} {pieces : List Bytes}

/-- A larger block holds the same pieces. -/
theorem HoldsPieces.grow (holds : HoldsPieces hash pieces) {answer : Realloc} {cap : UInt32}
    {block : Bytes} (larger : hash.cap ≤ cap)
    (moved : realloc answer hash.data cap.toNat = some block) :
    HoldsPieces { hash with data := block, cap := cap } pieces := by
  obtain ⟨length, fits, content⟩ := holds
  obtain ⟨fill, -, rfl⟩ := Option.map_eq_some_iff.mp moved
  rw [UInt32.le_iff_toNat_le] at larger fits
  refine ⟨?_, ?_, ?_⟩
  · simp only [List.length_append, List.length_take, List.length_map, List.length_range]
    omega
  · rw [UInt32.le_iff_toNat_le]
    exact Nat.le_trans fits larger
  · have whole : hash.data.take cap.toNat = hash.data := List.take_of_length_le (by omega)
    dsimp only
    rw [whole, List.take_append_of_le_length (by omega), content]

/-- A piece that fits is put behind the others. -/
theorem HoldsPieces.append (holds : HoldsPieces hash pieces) {piece : Piece}
    (sum : (hash.len + piece.len).toNat = hash.len.toNat + piece.val.length)
    (room : hash.len + piece.len ≤ hash.cap) :
    ∃ next, hashAppend hash piece = some (true, next) ∧ next.alg = hash.alg ∧
      HoldsPieces next (pieces ++ [piece.val]) := by
  obtain ⟨length, fits, content⟩ := holds
  have inside : hash.len.toNat + piece.val.length ≤ hash.data.length := by
    rw [UInt32.le_iff_toNat_le] at room
    omega
  rw [hashAppend, memcpy, if_pos inside]
  refine ⟨_, rfl, rfl, ?_, room, ?_⟩
  · simp only [List.length_append, List.length_take, List.length_drop]
    omega
  · simp only [sum, content, List.flatten_append, List.flatten_singleton]
    apply List.take_left'
    rw [List.length_append, ← content, List.length_take]
    omega

/-- An update has a result.  It takes the piece and returns 1, or it changes nothing. -/
theorem HoldsPieces.update (holds : HoldsPieces hash pieces) (answer : Realloc) (piece : Piece) :
    ∃ ok next, hashUpdate answer hash piece = some (ok, next) ∧ next.alg = hash.alg ∧
      (ok = false → next = hash) ∧
      HoldsPieces next (pieces ++ if ok then [piece.val] else []) := by
  have refused : ∃ ok next, some (false, hash) = some (ok, next) ∧ next.alg = hash.alg ∧
      (ok = false → next = hash) ∧ HoldsPieces next (pieces ++ if ok then [piece.val] else []) :=
    ⟨false, hash, rfl, rfl, fun _ => rfl, by simpa using holds⟩
  unfold hashUpdate
  split
  next => exact refused
  next small =>
    have sum := (noWrap hash piece).sum small
    split
    next =>
      obtain ⟨least, positive⟩ := capLoop_start hash.cap
      obtain ⟨result, done, bounds⟩ :=
        capLoop_done (Nat.le_mul_of_pos_left (2 ^ 32) positive)
      rw [done]
      cases result with
      | none => exact refused
      | some cap =>
          dsimp only
          cases moved : realloc answer hash.data cap.toNat with
          | none => exact refused
          | some block =>
              obtain ⟨covers, larger⟩ := bounds cap rfl
              have grown := holds.grow (UInt32.le_trans least larger) moved
              obtain ⟨next, appended, same, held⟩ := grown.append sum covers
              exact ⟨true, next, appended, same, by simp, held⟩
    next room =>
      obtain ⟨next, appended, same, held⟩ := holds.append sum (UInt32.not_lt.mp room)
      exact ⟨true, next, appended, same, by simp, held⟩

/-! ## A whole stream -/

theorem secalgoHashUpdate_some {answer : Realloc} {next : SecalgoHash} {piece : Piece} {ok : Bool}
    (updated : hashUpdate answer hash piece = some (ok, next)) :
    secalgoHashUpdate answer (some hash) piece = some (ok, some next) := by
  rw [secalgoHashUpdate, updated]
  rfl

/-- The state of a stream and the pieces it has taken. -/
def Streaming (kind : HashKind) (state : Option SecalgoHash) (pieces : List Bytes) : Prop :=
  ∃ hash, state = some hash ∧ hash.alg = kind.selector ∧ HoldsPieces hash pieces

theorem streaming_initial (kind : HashKind) : Streaming kind (kind.create true) [] := by
  cases kind with
  | sha384 => exact ⟨⟨4, [], 0, 0⟩, rfl, rfl, rfl, UInt32.le_refl 0, rfl⟩
  | sha512 => exact ⟨⟨5, [], 0, 0⟩, rfl, rfl, rfl, UInt32.le_refl 0, rfl⟩

theorem streaming_step {kind : HashKind} {before after : Option SecalgoHash}
    (call : Realloc × Piece) (streaming : Streaming kind before pieces)
    (stepped : (hashMachine (kind.create true)).step before call = some after) :
    Streaming kind after (pieces ++ (taken before call).toList) := by
  obtain ⟨answer, piece⟩ := call
  obtain ⟨hash, rfl, selector, holds⟩ := streaming
  obtain ⟨ok, next, updated, same, -, held⟩ := holds.update answer piece
  have result := secalgoHashUpdate_some updated
  simp only [hashMachine, result, Option.map_some, Option.some.injEq] at stepped
  subst stepped
  refine ⟨next, rfl, same.trans selector, ?_⟩
  rw [taken, result]
  cases ok with
  | false => exact held
  | true => exact held

theorem HoldsPieces.length (holds : HoldsPieces hash pieces) :
    hash.len.toNat = pieces.flatten.length := by
  have fits := holds.fits
  rw [UInt32.le_iff_toNat_le, ← holds.block] at fits
  rw [← holds.content, List.length_take, Nat.min_eq_left fits]

theorem HoldsPieces.final {kind : HashKind} (holds : HoldsPieces hash pieces)
    (selector : hash.alg = kind.selector) {maxlen : UInt32} (buffer : kind.size ≤ maxlen)
    (total : pieces.flatten.length ≤ 2 ^ 31 - 1) (sha : Sha) :
    secalgoHashFinal sha (some hash) maxlen true =
      ⟨true, some kind.size, some (kind.selector, pieces.flatten),
        some (kind.digest sha pieces.flatten)⟩ := by
  have small : ¬ hash.len > int32Max := by
    rw [gt_iff_lt, UInt32.lt_iff_toNat_lt, holds.length, show int32Max.toNat = 2147483647 from rfl]
    omega
  have enough : ¬ maxlen < kind.size := UInt32.not_lt.mpr buffer
  have need : (if hash.alg = 4 then (48 : UInt32) else 64) = kind.size := by
    rw [selector]
    cases kind <;> rfl
  have digest : cryptoDigest sha hash.alg pieces.flatten =
      some (kind.digest sha pieces.flatten) := by
    rw [selector]
    cases kind <;> rfl
  simp only [secalgoHashFinal, need, holds.content, digest]
  rw [if_neg (by simpa using small), if_neg enough, selector]
  rfl

/-- The digest of a stream is the digest of the pieces that were taken, one after another.
Every update has a result, changes nothing when it returns 0, and does not wrap. -/
theorem stream_hashed_exactly (kind : HashKind) {state : Option SecalgoHash} {pieces : List Bytes}
    (reaches : ((hashMachine (kind.create true)).logged taken).Reachable (state, pieces)) :
    ∃ hash, state = some hash ∧ hash.len ≤ hash.cap ∧
      (∀ answer piece, NoWrap hash piece ∧
        ∃ ok next, secalgoHashUpdate answer state piece = some (ok, some next) ∧
          (ok = false → next = hash)) ∧
      ∀ sha maxlen, kind.size ≤ maxlen → pieces.flatten.length ≤ 2 ^ 31 - 1 →
        secalgoHashFinal sha state maxlen true =
          ⟨true, some kind.size, some (kind.selector, pieces.flatten),
            some (kind.digest sha pieces.flatten)⟩ := by
  have streaming : Streaming kind state pieces :=
    Machine.Reaches.invariant_logged
      (fun _ _ call _ held _ stepped => streaming_step call held stepped) reaches
      (streaming_initial kind)
  obtain ⟨hash, rfl, selector, holds⟩ := streaming
  refine ⟨hash, rfl, holds.fits, ?_, ?_⟩
  · intro answer piece
    obtain ⟨ok, next, updated, -, unchanged, -⟩ := holds.update answer piece
    exact ⟨noWrap hash piece, ok, next, secalgoHashUpdate_some updated, unchanged⟩
  · intro sha maxlen buffer total
    exact holds.final selector buffer total sha

/-- Two pieces with one between them for which there is no memory. -/
def interrupted : List (Realloc × Piece) :=
  [(some fun _ => 0, ⟨[1, 2, 3], by decide⟩),
    (none, ⟨List.replicate 300 7, by rw [List.length_replicate]; decide⟩),
    (none, ⟨[4], by decide⟩)]

theorem stream_hashed_exactly_interrupted :
    ∃ state, ((hashMachine (secalgoHashCreateSha512 true)).logged taken).run
        (secalgoHashCreateSha512 true, []) interrupted = some (state, [[1, 2, 3], [4]]) ∧
      (secalgoHashFinal ⟨id, id, id, id⟩ state 64 true).result = some [1, 2, 3, 4] := by
  have ran : ((hashMachine (secalgoHashCreateSha512 true)).logged taken).run
      (secalgoHashCreateSha512 true, []) interrupted =
        some (some ⟨5, [1, 2, 3, 4] ++ List.replicate 252 0, 4, 256⟩, [[1, 2, 3], [4]]) := by
    decide +kernel
  obtain ⟨_, _, _, _, final⟩ := stream_hashed_exactly .sha512 (Machine.reaches_of_run ran)
  refine ⟨_, ran, ?_⟩
  rw [final ⟨id, id, id, id⟩ 64 (by decide) (by decide)]
  rfl

end UnboundWasm.Guest
