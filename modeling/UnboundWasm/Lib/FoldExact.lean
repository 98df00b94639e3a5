import UnboundWasm.Lib.CaseFold

/-!
# Where Unicode folding is ASCII folding

Two strings may be equal up to Unicode case folding and still differ in more than the
case of ASCII letters: a rune may have relatives outside ASCII, and every byte that is
not part of a valid sequence reads as the same rune.  A string is compared exactly as its
ASCII letters are folded if and only if each of its runes is steady: it is not the error
rune, and its only relatives are the two cases of an ASCII letter.
-/

namespace UnboundWasm.Lib

/-- Fold the letters A to Z. -/
def asciiLower (byte : UInt8) : UInt8 :=
  if 65 ≤ byte.toNat ∧ byte.toNat ≤ 90 then byte + 32 else byte

/-- A rune that folding relates to itself and its other ASCII case only. -/
def Steady (rune : Nat) : Prop :=
  rune ≠ runeError ∧
    ∀ other, simpleFold other = simpleFold rune → other = rune ∨ rune < 0x80 ∧ other < 0x80

/-! ## Reading UTF-8 -/

/-- The bytes at the front of a string that are read as one rune. -/
inductive Chunk : List UInt8 → List UInt8 → Nat → Prop where
  | ascii {byte : UInt8} {rest : List UInt8} (small : byte.toNat < 0x80) :
      Chunk [byte] rest byte.toNat
  | valid {first : UInt8} {tail rest : List UInt8} {rune : Nat}
      (sequence : Multibyte first tail rune) : Chunk (first :: tail) rest rune
  | broken {first : UInt8} {rest : List UInt8} (large : 0x80 ≤ first.toNat)
      (broken : Broken first rest) : Chunk [first] rest runeError

/-- A string is read chunk by chunk. -/
inductive Reads : List UInt8 → List Nat → Prop where
  | nil : Reads [] []
  | cons {chunk rest : List UInt8} {rune : Nat} {others : List Nat}
      (front : Chunk chunk rest rune) (more : Reads rest others) :
      Reads (chunk ++ rest) (rune :: others)

variable {first other : UInt8} {tail rest chunk text : List UInt8} {rune : Nat}

/-- Fuel beyond the length makes no difference. -/
theorem runesUpTo_congr {fuel more : Nat} (enough : text.length ≤ fuel)
    (also : text.length ≤ more) : runesUpTo fuel text = runesUpTo more text := by
  induction fuel generalizing text more with
  | zero =>
      rw [List.eq_nil_of_length_eq_zero (Nat.le_zero.mp enough)]
      cases more <;> rfl
  | succ fuel ih =>
      cases text with
      | nil => cases more <;> rfl
      | cons first rest =>
          rw [List.length_cons] at enough also
          obtain ⟨more, rfl⟩ : ∃ less, more = less + 1 := ⟨more - 1, by omega⟩
          simp only [runesUpTo]
          split
          · rw [ih (by omega) (by omega : rest.length ≤ more)]
          · have shorter : (rest.drop ((decodeMultibyte first.toNat rest).2 - 1)).length ≤
                rest.length := by
              rw [List.length_drop]
              omega
            rw [ih (by omega) (by omega : _ ≤ more)]

/-- The front chunk of a string is its first rune. -/
theorem runes_chunk (front : Chunk chunk rest rune) :
    runes (chunk ++ rest) = rune :: runes rest := by
  cases front with
  | @ascii byte _ small =>
      simp only [runes, List.cons_append, List.nil_append, List.length_cons, runesUpTo, small,
        if_true]
  | @valid first tail _ _ sequence =>
      have large : ¬ first.toNat < 0x80 := by
        have range := sequence.first_large
        omega
      have decoded : decodeMultibyte first.toNat (tail ++ rest) = (rune, tail.length + 1) := by
        rcases decodeMultibyte_eq first (tail ++ rest) with
          ⟨tail', more, rune', split, found, decoded⟩ | ⟨broken, _⟩
        · obtain ⟨rfl, rfl⟩ := sequence.unique found split
          exact decoded
        · exact absurd sequence (broken tail rest rune rfl)
      rw [List.cons_append, runes, List.length_cons, runesUpTo, if_neg large, decoded]
      simp only [Nat.add_sub_cancel, List.drop_left, List.cons.injEq, true_and]
      exact runesUpTo_congr (by rw [List.length_append]; omega) (Nat.le_refl _)
  | @broken first _ large broken =>
      have decoded : decodeMultibyte first.toNat rest = (runeError, 1) := by
        rcases decodeMultibyte_eq first rest with ⟨tail, more, rune, split, found, _⟩ | ⟨_, decoded⟩
        · exact absurd found (broken tail more rune split)
        · exact decoded
      rw [List.cons_append, List.nil_append, runes, List.length_cons, runesUpTo,
        if_neg (Nat.not_lt.mpr large), decoded]
      rfl

/-- A string that is not empty starts with a chunk. -/
theorem exists_chunk (first : UInt8) (rest : List UInt8) :
    ∃ chunk more rune, first :: rest = chunk ++ more ∧ Chunk chunk more rune := by
  by_cases small : first.toNat < 0x80
  · exact ⟨[first], rest, _, rfl, .ascii small⟩
  · rcases decodeMultibyte_eq first rest with ⟨tail, more, rune, split, found, _⟩ | ⟨broken, _⟩
    · exact ⟨first :: tail, more, rune, by rw [split, List.cons_append], .valid found⟩
    · exact ⟨[first], rest, _, rfl, .broken (Nat.not_lt.mp small) broken⟩

theorem Chunk.ne_nil (front : Chunk chunk rest rune) : chunk ≠ [] := by
  cases front <;> exact List.cons_ne_nil _ _

theorem reads_runes (text : List UInt8) : Reads text (runes text) := by
  induction size : text.length using Nat.strongRecOn generalizing text with
  | ind size ih =>
      cases text with
      | nil => exact .nil
      | cons first rest =>
          obtain ⟨chunk, more, rune, split, front⟩ := exists_chunk first rest
          have positive := List.length_pos_iff.mpr front.ne_nil
          have lengths := congrArg List.length split
          rw [List.length_append] at lengths
          rw [split, runes_chunk front]
          exact .cons front (ih more.length (by omega) more rfl)

theorem runes_of_reads {read : List Nat} (reads : Reads text read) : runes text = read := by
  induction reads with
  | nil => rfl
  | cons front _ ih => rw [runes_chunk front, ih]

/-! ## ASCII letters -/

theorem asciiLower_of_large (large : 0x80 ≤ first.toNat) : asciiLower first = first := by
  rw [asciiLower, if_neg (by omega)]

theorem toNat_asciiLower (first : UInt8) :
    (asciiLower first).toNat =
      if 65 ≤ first.toNat ∧ first.toNat ≤ 90 then first.toNat + 32 else first.toNat := by
  unfold asciiLower
  split
  · rw [UInt8.toNat_add]
    simp only [UInt8.reduceToNat]
    omega
  · rfl

theorem asciiLower_small : (asciiLower first).toNat < 0x80 ↔ first.toNat < 0x80 := by
  rw [toNat_asciiLower]
  split <;> omega

/-- Bytes outside ASCII have no case. -/
theorem eq_of_asciiLower (same : asciiLower first = asciiLower other)
    (large : 0x80 ≤ first.toNat) : first = other := by
  have otherLarge : 0x80 ≤ other.toNat := by
    by_contra small
    have lower := asciiLower_small.mpr (Nat.not_le.mp small)
    rw [← same, asciiLower_of_large large] at lower
    omega
  rwa [asciiLower_of_large large, asciiLower_of_large otherLarge] at same

theorem eq_of_map_asciiLower {left right : List UInt8}
    (same : left.map asciiLower = right.map asciiLower)
    (large : ∀ byte ∈ left, 0x80 ≤ byte.toNat) : left = right := by
  induction left generalizing right with
  | nil => exact (List.map_eq_nil_iff.mp same.symm).symm
  | cons first rest ih =>
      cases right with
      | nil => cases same
      | cons other more =>
          simp only [List.map_cons, List.cons.injEq] at same
          have head := eq_of_asciiLower same.1 (large first List.mem_cons_self)
          rw [head, ih same.2 fun byte member => large byte (List.mem_cons_of_mem _ member)]

theorem simpleFold_ascii :
    ∀ rune < 0x80, simpleFold rune = if 65 ≤ rune ∧ rune ≤ 90 then rune + 32 else rune := by
  decide +kernel

/-- On ASCII, Unicode folding is ASCII folding. -/
theorem simpleFold_of_ascii (small : first.toNat < 0x80) :
    simpleFold first.toNat = (asciiLower first).toNat := by
  rw [simpleFold_ascii _ small, toNat_asciiLower]

theorem Multibyte.bytes_large (sequence : Multibyte first tail rune) :
    ∀ byte ∈ first :: tail, 0x80 ≤ byte.toNat := by
  intro byte member
  rcases List.mem_cons.mp member with rfl | later
  · have range := sequence.first_large
    omega
  · exact (isContinuation_iff.mp (sequence.continues byte later)).1

/-- A sequence is found again where only the case of letters differs. -/
theorem Broken.congr {more : List UInt8} (broken : Broken first rest)
    (same : rest.map asciiLower = more.map asciiLower) : Broken first more := by
  rintro tail others rune rfl sequence
  obtain ⟨front, back, rfl, atFront, _⟩ := List.map_eq_append_iff.mp (same.trans List.map_append)
  have large : ∀ byte ∈ tail, 0x80 ≤ byte.toNat := fun byte member =>
    sequence.bytes_large byte (List.mem_cons_of_mem _ member)
  rw [← eq_of_map_asciiLower atFront.symm large] at broken
  exact broken tail back rune rfl sequence

/-- Strings that differ in the case of ASCII letters only are equal up to case. -/
theorem equalFold_of_asciiLower {left right : List UInt8}
    (same : left.map asciiLower = right.map asciiLower) : equalFold left right = true := by
  have folded : (runes left).map simpleFold = (runes right).map simpleFold := by
    generalize seen : runes left = read
    have reads : Reads left read := seen ▸ reads_runes left
    clear seen
    induction reads generalizing right with
    | nil =>
        rw [List.map_eq_nil_iff.mp same.symm]
        rfl
    | @cons chunk rest rune others front more ih =>
        rw [List.map_append] at same
        obtain ⟨chunk', rest', rfl, atFront, behind⟩ := List.map_eq_append_iff.mp same.symm
        have later := ih behind.symm
        cases front with
        | @ascii byte _ small =>
            obtain ⟨other, rfl, lower⟩ := List.map_eq_singleton_iff.mp atFront
            have otherSmall : other.toNat < 0x80 := by
              rw [← asciiLower_small, lower]
              exact asciiLower_small.mpr small
            rw [runes_chunk (.ascii otherSmall), List.map_cons, List.map_cons, later,
              simpleFold_of_ascii small, simpleFold_of_ascii otherSmall, lower]
        | valid sequence =>
            rw [← eq_of_map_asciiLower atFront.symm sequence.bytes_large,
              runes_chunk (.valid sequence), List.map_cons, List.map_cons, later]
        | @broken first _ large broken =>
            have equal : [first] = chunk' :=
              eq_of_map_asciiLower atFront.symm (by simpa using large)
            rw [← equal, runes_chunk (.broken large (broken.congr behind.symm)), List.map_cons,
              List.map_cons, later]
  rw [equalFold, folded]
  exact decide_eq_true rfl

/-! ## Steady runes -/

/-- A rune of more than one byte is written in one way. -/
theorem Multibyte.injective {tail' : List UInt8} (left : Multibyte first tail rune)
    (right : Multibyte other tail' rune) : first = other ∧ tail = tail' := by
  have length : tail.length = tail'.length := by
    have leftRange := left.rune_range
    have rightRange := right.rune_range
    omega
  generalize seen : rune = also at right
  cases left with
  | two low high accepted =>
      cases right with
      | two low' high' accepted' =>
          have byte := isContinuation_iff.mp (isContinuation_of_accepts accepted)
          have byte' := isContinuation_iff.mp (isContinuation_of_accepts accepted')
          simp only [List.cons.injEq, and_true, ← UInt8.toNat_inj]
          omega
      | three | four => cases length
  | three low high accepted last =>
      cases right with
      | three low' high' accepted' last' =>
          have byte := isContinuation_iff.mp (isContinuation_of_accepts accepted)
          have byte' := isContinuation_iff.mp (isContinuation_of_accepts accepted')
          rw [isContinuation_iff] at last last'
          simp only [List.cons.injEq, and_true, ← UInt8.toNat_inj]
          omega
      | two | four => cases length
  | four low high accepted third last =>
      cases right with
      | four low' high' accepted' third' last' =>
          have byte := isContinuation_iff.mp (isContinuation_of_accepts accepted)
          have byte' := isContinuation_iff.mp (isContinuation_of_accepts accepted')
          rw [isContinuation_iff] at third third' last last'
          simp only [List.cons.injEq, and_true, ← UInt8.toNat_inj]
          omega
      | two | three => cases length

/-- A steady rune stands for the same bytes, up to the case of an ASCII letter. -/
theorem Chunk.sameLetters {chunk' rest' : List UInt8} {rune' : Nat} (left : Chunk chunk rest rune)
    (right : Chunk chunk' rest' rune') (steady : Steady rune)
    (same : simpleFold rune' = simpleFold rune) :
    chunk.map asciiLower = chunk'.map asciiLower := by
  obtain ⟨notError, relatives⟩ := steady
  cases left with
  | @ascii byte _ small =>
      have small' : rune' < 0x80 := by
        rcases relatives rune' same with rfl | ⟨_, small'⟩
        · exact small
        · exact small'
      cases right with
      | @ascii byte' _ _ =>
          rw [simpleFold_of_ascii small, simpleFold_of_ascii small', UInt8.toNat_inj] at same
          rw [List.map_singleton, List.map_singleton, same]
      | valid sequence => exact absurd small' (Nat.not_lt.mpr sequence.rune_large)
      | broken => exact absurd small' (by decide)
  | valid sequence =>
      have large := sequence.rune_large
      have equal : rune' = rune := by
        rcases relatives rune' same with equal | ⟨small, _⟩
        · exact equal
        · omega
      subst equal
      cases right with
      | ascii small => omega
      | valid sequence' =>
          obtain ⟨rfl, rfl⟩ := sequence.injective sequence'
          rfl
      | broken => exact absurd rfl notError
  | broken => exact absurd rfl notError

/-- Strings of steady runes are equal up to case only to strings with the same bytes, up
to the case of ASCII letters. -/
theorem asciiLower_of_equalFold {left right : List UInt8}
    (steady : ∀ rune ∈ runes left, Steady rune) (equal : equalFold left right = true) :
    left.map asciiLower = right.map asciiLower := by
  simp only [equalFold, decide_eq_true_eq] at equal
  generalize seen : runes left = read at steady equal
  have reads : Reads left read := seen ▸ reads_runes left
  clear seen
  induction reads generalizing right with
  | nil =>
      cases right with
      | nil => rfl
      | cons first rest =>
          obtain ⟨chunk, more, rune, split, front⟩ := exists_chunk first rest
          rw [split, runes_chunk front] at equal
          cases equal
  | @cons chunk rest rune others front more ih =>
      cases right with
      | nil => cases equal
      | cons first' rest' =>
          obtain ⟨chunk', more', rune', split, front'⟩ := exists_chunk first' rest'
          rw [split, runes_chunk front', List.map_cons, List.map_cons, List.cons.injEq] at equal
          rw [split, List.map_append, List.map_append,
            front.sameLetters front' (steady rune List.mem_cons_self) equal.1.symm,
            ih (fun other member => steady other (List.mem_cons_of_mem _ member)) equal.2]

/-! ## Strings that are not steady -/

/-- The runes UTF-8 can write. -/
def Scalar (rune : Nat) : Prop := rune < 0xD800 ∨ 0xE000 ≤ rune ∧ rune < 0x110000

theorem exists_multibyte (large : 0x80 ≤ rune) (scalar : Scalar rune) :
    ∃ first tail, Multibyte first tail rune := by
  unfold Scalar at scalar
  have byte : ∀ value : Nat, value < 256 → (UInt8.ofNat value).toNat = value := by
    intro value small
    rw [UInt8.toNat_ofNat']
    exact Nat.mod_eq_of_lt small
  by_cases two : rune < 0x800
  · have first := byte (0xC0 + rune / 64) (by omega)
    have second := byte (0x80 + rune % 64) (by omega)
    refine ⟨UInt8.ofNat (0xC0 + rune / 64), [UInt8.ofNat (0x80 + rune % 64)], ?_⟩
    have sequence : Multibyte (UInt8.ofNat (0xC0 + rune / 64)) [UInt8.ofNat (0x80 + rune % 64)] _ :=
      .two (by omega) (by omega) (accepts_iff.mpr (by omega))
    rw [first, second] at sequence
    rwa [show (0xC0 + rune / 64) % 32 * 64 + (0x80 + rune % 64) % 64 = rune by omega] at sequence
  · by_cases three : rune < 0x10000
    · have first := byte (0xE0 + rune / 4096) (by omega)
      have second := byte (0x80 + rune / 64 % 64) (by omega)
      have third := byte (0x80 + rune % 64) (by omega)
      refine ⟨UInt8.ofNat (0xE0 + rune / 4096),
        [UInt8.ofNat (0x80 + rune / 64 % 64), UInt8.ofNat (0x80 + rune % 64)], ?_⟩
      have sequence : Multibyte (UInt8.ofNat (0xE0 + rune / 4096))
          [UInt8.ofNat (0x80 + rune / 64 % 64), UInt8.ofNat (0x80 + rune % 64)] _ :=
        .three (by omega) (by omega) (accepts_iff.mpr (by omega))
          (isContinuation_iff.mpr (by omega))
      rw [first, second, third] at sequence
      rwa [show (0xE0 + rune / 4096) % 16 * 4096 + (0x80 + rune / 64 % 64) % 64 * 64 +
        (0x80 + rune % 64) % 64 = rune by omega] at sequence
    · have first := byte (0xF0 + rune / 262144) (by omega)
      have second := byte (0x80 + rune / 4096 % 64) (by omega)
      have third := byte (0x80 + rune / 64 % 64) (by omega)
      have fourth := byte (0x80 + rune % 64) (by omega)
      refine ⟨UInt8.ofNat (0xF0 + rune / 262144), [UInt8.ofNat (0x80 + rune / 4096 % 64),
        UInt8.ofNat (0x80 + rune / 64 % 64), UInt8.ofNat (0x80 + rune % 64)], ?_⟩
      have sequence : Multibyte (UInt8.ofNat (0xF0 + rune / 262144))
          [UInt8.ofNat (0x80 + rune / 4096 % 64), UInt8.ofNat (0x80 + rune / 64 % 64),
            UInt8.ofNat (0x80 + rune % 64)] _ :=
        .four (by omega) (by omega) (accepts_iff.mpr (by omega)) (isContinuation_iff.mpr (by omega))
          (isContinuation_iff.mpr (by omega))
      rw [first, second, third, fourth] at sequence
      rwa [show (0xF0 + rune / 262144) % 8 * 262144 + (0x80 + rune / 4096 % 64) % 64 * 4096 +
        (0x80 + rune / 64 % 64) % 64 * 64 + (0x80 + rune % 64) % 64 = rune by omega] at sequence

/-- A rune folds to itself, or by an entry of the table. -/
theorem simpleFold_cases (rune : Nat) :
    simpleFold rune = rune ∨ ∃ range ∈ foldRanges, range.first ≤ rune ∧ rune ≤ range.last ∧
      simpleFold rune = (rune + range.delta).toNat := by
  unfold simpleFold
  split
  next => exact .inl rfl
  next range found =>
    have inside := List.find?_some found
    simp only [Bool.and_eq_true, decide_eq_true_eq] at inside
    exact .inr ⟨range, List.mem_of_find?_eq_some found, inside.1.1, inside.1.2, rfl⟩

/-- What folding relates to another rune can be written. -/
theorem scalar_of_relative {other : Nat} (same : simpleFold other = simpleFold rune)
    (different : other ≠ rune) : Scalar other := by
  have sources : ∀ range ∈ foldRanges,
      range.last < 0xD800 ∨ 0xE000 ≤ range.first ∧ range.last < 0x110000 := by decide +kernel
  have targets : ∀ range ∈ foldRanges, range.last + range.delta < 0xD800 ∨
      0xE000 ≤ range.first + range.delta ∧ range.last + range.delta < 0x110000 := by
    decide +kernel
  unfold Scalar
  rcases simpleFold_cases other with fixed | ⟨range, member, low, high, _⟩
  · rcases simpleFold_cases rune with alsoFixed | ⟨range, member, low, high, folded⟩
    · rw [fixed, alsoFixed] at same
      exact absurd same different
    · have target := targets range member
      omega
  · have source := sources range member
    omega

/-- The string does not start with a continuation byte. -/
def Separate (text : List UInt8) : Prop :=
  ∀ byte rest, text = byte :: rest → isContinuation byte.toNat = false

/-- Bytes that no sequence starts with stand alone before anything. -/
theorem chunk_of_stray (rest : List UInt8) (stray : 0xF5 ≤ first.toNat) :
    Chunk [first] rest runeError := by
  refine .broken (by omega) ?_
  intro tail more rune _ sequence
  have range := sequence.first_large
  omega

/-- A chunk whose rune is not steady can be replaced by other bytes. -/
theorem exists_other_chunk (front : Chunk chunk rest rune) (unsteady : ¬ Steady rune) :
    ∃ chunk' rune', Chunk chunk' rest rune' ∧ simpleFold rune' = simpleFold rune ∧
      Separate (chunk' ++ rest) ∧ chunk'.map asciiLower ≠ chunk.map asciiLower := by
  by_cases error : rune = runeError
  · subst error
    have replaced : ∀ byte : UInt8, 0xF5 ≤ byte.toNat → [byte] ≠ chunk → ∃ chunk' rune',
        Chunk chunk' rest rune' ∧ simpleFold rune' = simpleFold runeError ∧
          Separate (chunk' ++ rest) ∧ chunk'.map asciiLower ≠ chunk.map asciiLower := by
      intro byte stray different
      refine ⟨[byte], _, chunk_of_stray rest stray, rfl, ?_, ?_⟩
      · rintro other more same
        cases same
        rw [← Bool.not_eq_true, isContinuation_iff]
        omega
      · intro same
        exact different (eq_of_map_asciiLower same (by simp; omega))
    by_cases last : [0xFF] = chunk
    · exact replaced 0xFE (by decide) (by rw [← last]; decide)
    · exact replaced 0xFF (by decide) last
  · have relative : ∃ other, simpleFold other = simpleFold rune ∧ other ≠ rune ∧
        ¬ (rune < 0x80 ∧ other < 0x80) := by
      by_contra none
      apply unsteady
      refine ⟨error, ?_⟩
      intro other same
      by_contra both
      rw [not_or] at both
      exact none ⟨other, same, both.1, both.2⟩
    obtain ⟨other, same, different, notBoth⟩ := relative
    by_cases small : other < 0x80
    · -- The rune is a sequence of several bytes, its relative an ASCII letter.
      have byte : (UInt8.ofNat other).toNat = other := by
        rw [UInt8.toNat_ofNat']
        exact Nat.mod_eq_of_lt (by omega)
      refine ⟨[UInt8.ofNat other], other, ?_, same, ?_, ?_⟩
      · have single : Chunk [UInt8.ofNat other] rest _ := .ascii (by omega)
        rwa [byte] at single
      · rintro head more split
        cases split
        rw [← Bool.not_eq_true, isContinuation_iff]
        omega
      · intro letters
        cases front with
        | ascii below => exact notBoth ⟨below, small⟩
        | valid sequence =>
            have equal := eq_of_map_asciiLower letters.symm sequence.bytes_large
            exact sequence.tail_ne_nil (List.cons.inj equal).2
        | broken => exact error rfl
    · obtain ⟨lead, more, sequence⟩ :=
        exists_multibyte (Nat.not_lt.mp small) (scalar_of_relative same different)
      refine ⟨lead :: more, other, .valid sequence, same, ?_, ?_⟩
      · rintro head others split
        cases split
        have range := sequence.first_large
        rw [← Bool.not_eq_true, isContinuation_iff]
        omega
      · intro letters
        have equal := eq_of_map_asciiLower letters sequence.bytes_large
        cases front with
        | ascii below => exact sequence.tail_ne_nil (List.cons.inj equal).2
        | valid old =>
            obtain ⟨rfl, rfl⟩ := List.cons.inj equal
            have aligned : more ++ rest = more ++ rest := rfl
            exact different (sequence.unique old aligned).2
        | broken => exact error rfl

/-- A broken byte stays broken when what follows is cut off before a byte that does not
continue a sequence. -/
theorem Broken.cut {kept behind instead : List UInt8} (broken : Broken first (kept ++ behind))
    (separate : Separate instead) : Broken first (kept ++ instead) := by
  intro tail more rune split sequence
  rcases List.append_eq_append_iff.mp split with ⟨extra, rfl, same⟩ | ⟨left, rfl, same⟩
  · cases extra with
    | nil => exact broken kept behind rune rfl (by simpa using sequence)
    | cons head extra =>
        have continues := sequence.continues head (by simp)
        rw [separate head (extra ++ more) same] at continues
        cases continues
  · exact broken tail (left ++ behind) rune (by simp) sequence

theorem Chunk.cut {kept behind instead : List UInt8} (front : Chunk chunk (kept ++ behind) rune)
    (separate : Separate instead) : Chunk chunk (kept ++ instead) rune := by
  cases front with
  | ascii small => exact .ascii small
  | valid sequence => exact .valid sequence
  | broken large broken => exact .broken large (broken.cut separate)

/-- A string with a rune that is not steady is equal up to case to a string with other
bytes. -/
theorem exists_variant (unsteady : ∃ rune ∈ runes text, ¬ Steady rune) :
    ∃ kept behind instead, text = kept ++ behind ∧ Separate instead ∧
      (runes (kept ++ instead)).map simpleFold = (runes text).map simpleFold ∧
      (kept ++ instead).map asciiLower ≠ text.map asciiLower := by
  generalize seen : runes text = read at unsteady ⊢
  have reads : Reads text read := seen ▸ reads_runes text
  clear seen
  induction reads with
  | nil =>
      obtain ⟨rune, member, _⟩ := unsteady
      cases member
  | @cons chunk rest rune others front more ih =>
      by_cases steady : Steady rune
      · have later : ∃ rune ∈ others, ¬ Steady rune := by
          obtain ⟨other, member, unsteady⟩ := unsteady
          rcases List.mem_cons.mp member with rfl | later
          · exact absurd steady unsteady
          · exact ⟨other, later, unsteady⟩
        obtain ⟨kept, behind, instead, rfl, separate, folded, different⟩ := ih later
        refine ⟨chunk ++ kept, behind, instead, by simp, separate, ?_, ?_⟩
        · rw [List.append_assoc, runes_chunk (front.cut separate), List.map_cons, List.map_cons,
            folded]
        · intro same
          have split : chunk.map asciiLower ++ (kept ++ instead).map asciiLower =
              chunk.map asciiLower ++ (kept ++ behind).map asciiLower := by
            rw [← List.map_append, ← List.map_append, ← same, List.append_assoc]
          exact different (List.append_cancel_left split)
      · obtain ⟨chunk', rune', front', same, separate, different⟩ := exists_other_chunk front steady
        refine ⟨[], chunk ++ rest, chunk' ++ rest, rfl, separate, ?_, ?_⟩
        · rw [List.nil_append, runes_chunk front', List.map_cons, List.map_cons, same,
            runes_of_reads more]
        · rw [List.nil_append, List.map_append, List.map_append]
          intro equal
          exact different (List.append_cancel_right equal)

/-- Comparing a string up to Unicode case is comparing it up to ASCII case, whatever it
is compared with, exactly when all its runes are steady. -/
theorem equalFold_exact_iff (text : List UInt8) :
    (∀ other, equalFold text other = true ↔ text.map asciiLower = other.map asciiLower) ↔
      ∀ rune ∈ runes text, Steady rune := by
  constructor
  · intro exactly
    by_contra unsteady
    simp only [not_forall] at unsteady
    obtain ⟨rune, member, unsteady⟩ := unsteady
    obtain ⟨kept, _, instead, _, _, folded, different⟩ := exists_variant ⟨rune, member, unsteady⟩
    have equal : equalFold text (kept ++ instead) = true := by
      rw [equalFold, folded]
      exact decide_eq_true rfl
    exact different ((exactly _).mp equal).symm
  · intro steady other
    exact ⟨asciiLower_of_equalFold steady, equalFold_of_asciiLower⟩

end UnboundWasm.Lib
