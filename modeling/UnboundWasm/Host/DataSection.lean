import UnboundWasm.Lib.Leb128
import UnboundWasm.Host.DataSegments

/-!
# The binaries that `parseDataSegments` reads

The part of the binary format of wasm that the parser looks at: sections with their sizes, and in
the data section the segments with their flags, offset expressions and bytes.  The parser reads
every binary of that format as the format says, and refuses the segments it does not take.
-/

namespace UnboundWasm.Host

open UnboundWasm.Lib

/-- What a data segment is, as far as the parser cares. -/
inductive SegmentKind where
  /-- in memory 0, with the offset of a single `i32.const` and the number of bytes -/
  | active (offset : Int) (length : Nat)
  | passive
  /-- with an explicit memory index -/
  | indexed
  /-- with an offset expression that is not a single `i32.const` -/
  | computed
  deriving DecidableEq, Repr

/-- The encodings of a segment.  What the parser does not get to is left open. -/
inductive EncodedSegment : Bytes → SegmentKind → Prop where
  | active {flags const size data : Bytes} {offset : Int} (flag : UnsignedLeb 32 flags 0)
      (value : SignedLeb 32 const offset) (sized : UnsignedLeb 32 size data.length) :
      EncodedSegment (flags ++ (0x41 :: (const ++ (0x0b :: (size ++ data)))))
        (.active offset data.length)
  | passive {flags rest : Bytes} (flag : UnsignedLeb 32 flags 1) :
      EncodedSegment (flags ++ rest) .passive
  | indexed {flags rest : Bytes} (flag : UnsignedLeb 32 flags 2) :
      EncodedSegment (flags ++ rest) .indexed
  /-- The expression starts with something else, or ends at once. -/
  | other {flags rest : Bytes} {opcode : UInt8} (flag : UnsignedLeb 32 flags 0)
      (differs : opcode ≠ 0x41) : EncodedSegment (flags ++ (opcode :: rest)) .computed
  /-- The expression goes on behind the constant. -/
  | longer {flags const rest : Bytes} {opcode : UInt8} {value : Int}
      (flag : UnsignedLeb 32 flags 0) (first : SignedLeb 32 const value) (differs : opcode ≠ 0x0b) :
      EncodedSegment (flags ++ (0x41 :: (const ++ (opcode :: rest)))) .computed

/-- The encodings of a section, with the segments in it. -/
inductive EncodedSection : Bytes → List SegmentKind → Prop where
  | other {id : UInt8} {size contents : Bytes} (differs : id ≠ 11)
      (sized : UnsignedLeb 32 size contents.length) :
      EncodedSection (id :: (size ++ contents)) []
  | data {size count : Bytes} {encodings : List Bytes} {segments : List SegmentKind}
      (counted : UnsignedLeb 32 count encodings.length)
      (each : List.Forall₂ EncodedSegment encodings segments)
      (sized : UnsignedLeb 32 size (count ++ encodings.flatten).length) :
      EncodedSection (11 :: (size ++ (count ++ encodings.flatten))) segments

/-- The magic number and version 1. -/
def wasmHeader : Bytes := [0, 0x61, 0x73, 0x6d, 1, 0, 0, 0]

/-- The range of a segment that the parser takes. -/
def SegmentKind.range : SegmentKind → Option SegRange
  | .active offset length =>
      if 0 ≤ offset then some ⟨UInt32.ofNat offset.toNat, UInt32.ofNat length⟩ else none
  | .passive => none
  | .indexed => none
  | .computed => none

/-! ## Reading at a position -/

/-- Some bytes stand at a position of the binary. -/
def At (wasm : Bytes) (p : Nat) (bytes : Bytes) : Prop := bytes <+: wasm.drop p

section At

variable {wasm bytes more : Bytes} {p : Nat} {byte : UInt8}

theorem At.head (there : At wasm p (byte :: bytes)) : wasm[p]? = some byte := by
  obtain ⟨rest, split⟩ := there
  rw [← List.head?_drop, ← split]
  rfl

theorem At.tail (there : At wasm p (byte :: bytes)) : At wasm (p + 1) bytes := by
  obtain ⟨rest, split⟩ := there
  refine ⟨rest, ?_⟩
  rw [← List.tail_drop, ← split]
  rfl

theorem At.left (there : At wasm p (bytes ++ more)) : At wasm p bytes :=
  (List.prefix_append bytes more).trans there

theorem At.right (there : At wasm p (bytes ++ more)) : At wasm (p + bytes.length) more := by
  obtain ⟨rest, split⟩ := there
  refine ⟨rest, ?_⟩
  rw [← List.drop_drop, ← split, List.append_assoc, List.drop_left]

theorem At.length_le (there : At wasm p bytes) : bytes.length ≤ wasm.length - p := by
  have short := List.IsPrefix.length_le there
  rwa [List.length_drop] at short

end At

theorem toNat_low_bits (byte : UInt8) :
    ((byte &&& 0x7f).toBitVec.setWidth 64).toNat = byte.toNat % 2 ^ 7 := by
  have small : byte.toNat % 2 ^ 7 < 2 ^ 64 := by omega
  rw [BitVec.toNat_setWidth, UInt8.toNat_toBitVec, UInt8.toNat_and]
  exact (congrArg (· % 2 ^ 64) (Nat.and_two_pow_sub_one_eq_mod byte.toNat 7)).trans
    (Nat.mod_eq_of_lt small)

theorem ends_iff (byte : UInt8) : byte &&& 0x80 = 0 ↔ byte.toNat < 2 ^ 7 := by
  have all : ∀ n < 256, UInt8.ofNat n &&& 0x80 = 0 ↔ (UInt8.ofNat n).toNat < 2 ^ 7 := by
    decide +kernel
  simpa using all byte.toNat byte.toNat_lt

theorem negative_iff {byte : UInt8} (ends : byte.toNat < 2 ^ 7) :
    byte &&& 0x40 ≠ 0 ↔ 2 ^ 6 ≤ byte.toNat := by
  have all : ∀ n < 128, UInt8.ofNat n &&& 0x40 ≠ 0 ↔ 2 ^ 6 ≤ (UInt8.ofNat n).toNat := by
    decide +kernel
  simpa using all byte.toNat ends

/-- The bits of one byte go above those that are there. -/
theorem collected {shift : Nat} {v : BitVec 64} (byte : UInt8) (below : v.toNat < 2 ^ shift)
    (fits : shift + 7 ≤ 64) :
    (v ||| ((byte &&& 0x7f).toBitVec.setWidth 64 <<< shift)).toNat =
        v.toNat + 2 ^ shift * (byte.toNat % 2 ^ 7) ∧
      (v ||| ((byte &&& 0x7f).toBitVec.setWidth 64 <<< shift)).toNat < 2 ^ (shift + 7) := by
  have small : byte.toNat % 2 ^ 7 < 2 ^ 7 := Nat.mod_lt _ (by decide)
  rw [← toNat_low_bits] at small ⊢
  have sum := toNat_or_shiftLeft below small fits
  exact ⟨sum, sum.trans_lt (add_shifted_lt below small)⟩

/-- The loop adds the number that stands at its position, above the bits it has. -/
theorem ulebLoop_eq {wasm bytes : Bytes} {width value rounds p shift : Nat} {v : BitVec 64}
    (encoded : UnsignedLeb width bytes value) (there : At wasm p bytes) (wide : 0 < width)
    (enough : width ≤ 7 * rounds) (fits : shift + width ≤ 57) (below : v.toNat < 2 ^ shift) :
    ulebLoop wasm rounds p shift v = .ok (v.toNat + 2 ^ shift * value, p + bytes.length) := by
  obtain ⟨rounds, rfl⟩ : ∃ less, rounds = less + 1 := ⟨rounds - 1, by omega⟩
  induction encoded generalizing rounds p shift v with
  | @last width byte ends small =>
      obtain ⟨sum, -⟩ := collected byte below (by omega)
      rw [ulebLoop, there.head]
      simp only [(ends_iff byte).mpr ends, if_true, sum, Nat.mod_eq_of_lt ends]
      rfl
  | @more width value byte rest continues long later ih =>
      have same : byte.toNat % 2 ^ 7 = byte.toNat - 2 ^ 7 := by
        have bound := byte.toNat_lt
        omega
      obtain ⟨less, rfl⟩ : ∃ less, rounds = less + 1 := ⟨rounds - 1, by omega⟩
      obtain ⟨sum, further⟩ := collected byte below (by omega)
      rw [ulebLoop, there.head]
      simp only [mt (ends_iff byte).mp (Nat.not_lt.mpr continues), if_false]
      rw [ih there.tail (by omega) (by omega) further less (by omega), sum, same]
      simp only [Except.ok.injEq, Prod.mk.injEq, List.length_cons]
      constructor <;> ring

theorem uleb_eq {wasm bytes : Bytes} {value p : Nat} (encoded : UnsignedLeb 32 bytes value)
    (there : At wasm p bytes) : uleb wasm p = .ok (value, p + bytes.length) := by
  rw [uleb, ulebLoop_eq encoded there (by decide) (by decide) (by decide) (by decide)]
  simp

/-- The same for a signed number. -/
theorem slebLoop_eq {wasm bytes : Bytes} {width rounds p shift : Nat} {value : Int}
    {off : BitVec 64} (encoded : SignedLeb width bytes value) (there : At wasm p bytes)
    (wide : 0 < width) (enough : width ≤ 7 * rounds) (fits : shift + width ≤ 57)
    (below : off.toNat < 2 ^ shift) :
    slebLoop wasm rounds p shift off =
      .ok ((off.toNat : Int) + 2 ^ shift * value, p + bytes.length) := by
  obtain ⟨rounds, rfl⟩ : ∃ less, rounds = less + 1 := ⟨rounds - 1, by omega⟩
  induction encoded generalizing rounds p shift off with
  | @positive width byte small inside =>
      have ends : byte.toNat < 2 ^ 7 := by omega
      have plain : ¬ (byte &&& 0x40 ≠ 0) := mt (negative_iff ends).mp (by omega)
      have room : 2 ^ (shift + 7) ≤ 2 ^ 63 := Nat.pow_le_pow_right (by decide) (by omega)
      obtain ⟨sum, further⟩ := collected byte below (by omega)
      rw [slebLoop, there.head]
      simp only [(ends_iff byte).mpr ends, if_true, plain, false_and, if_false]
      rw [BitVec.toInt_eq_toNat_of_lt (by omega), sum, Nat.mod_eq_of_lt ends]
      push_cast
      rfl
  | @negative width byte large ends inside =>
      have signed : byte &&& 0x40 ≠ 0 ∧ shift + 7 < 64 :=
        ⟨(negative_iff ends).mpr large, by omega⟩
      obtain ⟨sum, further⟩ := collected byte below (by omega)
      rw [slebLoop, there.head]
      simp only [(ends_iff byte).mpr ends, if_true]
      rw [if_pos signed, toInt_or_signs further signed.2, sum, Nat.mod_eq_of_lt ends]
      simp only [Except.ok.injEq, Prod.mk.injEq, List.length_singleton, and_true]
      push_cast
      ring
  | @more width value byte rest continues long later ih =>
      have same : (byte.toNat % 2 ^ 7 : Nat) = (byte.toNat : Int) - 2 ^ 7 := by
        have bound := byte.toNat_lt
        omega
      obtain ⟨less, rfl⟩ : ∃ less, rounds = less + 1 := ⟨rounds - 1, by omega⟩
      obtain ⟨sum, further⟩ := collected byte below (by omega)
      rw [slebLoop, there.head]
      simp only [mt (ends_iff byte).mp (Nat.not_lt.mpr continues), if_false]
      rw [ih there.tail (by omega) (by omega) further less (by omega), sum]
      simp only [Except.ok.injEq, Prod.mk.injEq, List.length_cons, Nat.cast_add, Nat.cast_mul, same]
      push_cast
      constructor <;> ring

theorem sleb_eq {wasm bytes : Bytes} {value : Int} {p : Nat} (encoded : SignedLeb 32 bytes value)
    (there : At wasm p bytes) : slebLoop wasm 10 p 0 0 = .ok (value, p + bytes.length) := by
  rw [slebLoop_eq encoded there (by decide) (by decide) (by decide) (by decide)]
  simp

/-! ## The format -/

section Format

variable {wasm bytes : Bytes} {stop p : Nat}

theorem expect_eq {byte : UInt8} (there : At wasm p (byte :: bytes)) (message : String) :
    expect wasm p byte message = .ok (p + 1) :=
  if_pos there.head

theorem expect_other {byte other : UInt8} (there : At wasm p (other :: bytes))
    (differs : other ≠ byte) (message : String) :
    expect wasm p byte message = .error (.new message) := by
  refine if_neg ?_
  rw [there.head, Option.some.injEq]
  exact differs

/-- One round reads one segment, or fails where the segment has no range. -/
theorem toOption_dataSegment {kind : SegmentKind} (encoded : EncodedSegment bytes kind)
    (there : At wasm p bytes) (inside : p + bytes.length ≤ stop) :
    (dataSegment wasm stop p).toOption = kind.range.map fun seg => (seg, p + bytes.length) := by
  cases encoded with
  | @active flags const size data offset flag value sized =>
      have first := there.right
      have second := first.tail.right
      have third := second.tail.right
      have ranged := value.lt
      have short := sized.lt
      simp only [dataSegment, uleb_eq flag there.left, bind, Except.bind, ne_eq, not_true_eq_false,
        if_false, expect_eq first, sleb_eq value first.tail.left, expect_eq second,
        uleb_eq sized second.tail.left]
      have length : p + (flags ++ (0x41 :: (const ++ (0x0b :: (size ++ data))))).length =
          p + flags.length + 1 + const.length + 1 + size.length + data.length := by
        simp only [List.length_append, List.length_cons]
        omega
      rw [length] at inside ⊢
      by_cases positive : 0 ≤ offset
      · rw [if_neg (by omega), if_neg (by omega), SegmentKind.range, if_pos positive]
        rfl
      · rw [if_pos (by omega), SegmentKind.range, if_neg positive]
        rfl
  | passive flag =>
      simp only [dataSegment, uleb_eq flag there.left]
      rfl
  | indexed flag =>
      simp only [dataSegment, uleb_eq flag there.left]
      rfl
  | other flag differs =>
      simp only [dataSegment, uleb_eq flag there.left, bind, Except.bind, ne_eq, not_true_eq_false,
        if_false, expect_other there.right differs]
      rfl
  | longer flag first differs =>
      have second := there.right.tail
      simp only [dataSegment, uleb_eq flag there.left, bind, Except.bind, ne_eq, not_true_eq_false,
        if_false, expect_eq there.right, sleb_eq first second.left,
        expect_other second.right differs]
      rfl

theorem toOption_bind {α β : Type} (first : Except Error α) (next : α → Except Error β) :
    (first >>= next).toOption = first.toOption >>= fun value => (next value).toOption := by
  cases first <;> rfl

theorem toOption_dataSegments {encodings : List Bytes} {kinds : List SegmentKind}
    (each : List.Forall₂ EncodedSegment encodings kinds) (there : At wasm p encodings.flatten)
    (inside : p + encodings.flatten.length ≤ stop) :
    (dataSegments wasm stop encodings.length p).toOption = kinds.mapM SegmentKind.range := by
  induction each generalizing p with
  | nil => rfl
  | @cons encoding kind encodings kinds encoded each ih =>
      rw [List.flatten_cons] at there inside
      rw [List.length_append] at inside
      rw [List.length_cons, dataSegments, toOption_bind,
        toOption_dataSegment encoded there.left (by omega), List.mapM_cons]
      cases kind.range with
      | none => rfl
      | some range =>
          rw [← ih there.right (by omega)]
          exact toOption_bind _ _

/-- A section is read to its end, with the ranges of its segments. -/
theorem toOption_sectionSegments {id : UInt8} {contents : Bytes} {kinds : List SegmentKind}
    (encoded : EncodedSection (id :: contents) kinds) (there : At wasm p contents) :
    (sectionSegments wasm id p).toOption =
      (kinds.mapM SegmentKind.range).map fun segs => (segs, p + contents.length) := by
  cases encoded with
  | @other _ size contents differs sized =>
      have room := there.right.length_le
      rw [sectionSegments, uleb_eq sized there.left]
      simp only [Nat.not_lt.mpr room, if_false, differs, ne_eq, not_false_eq_true, if_true]
      rw [List.length_append, ← Nat.add_assoc]
      rfl
  | @data size count encodings _ counted each sized =>
      have room := there.right.length_le
      rw [sectionSegments, uleb_eq sized there.left]
      simp only [Nat.not_lt.mpr room, if_false, ne_eq, not_true_eq_false]
      have inside : p + size.length + count.length + encodings.flatten.length ≤
          p + size.length + (count ++ encodings.flatten).length := by
        rw [List.length_append]
        omega
      have length : p + (size ++ (count ++ encodings.flatten)).length =
          p + size.length + (count ++ encodings.flatten).length := by
        rw [List.length_append, Nat.add_assoc]
      rw [uleb_eq counted there.right.left, ← toOption_dataSegments each there.right.right inside,
        Option.map_eq_bind, length]
      exact toOption_bind (dataSegments wasm _ encodings.length _) _

theorem toOption_sections {encodings : List Bytes} {kinds : List (List SegmentKind)} {rounds : Nat}
    (each : List.Forall₂ EncodedSection encodings kinds) (rest : wasm.drop p = encodings.flatten)
    (enough : encodings.flatten.length ≤ rounds) :
    (sections wasm rounds p).toOption = kinds.flatten.mapM SegmentKind.range := by
  induction each generalizing p rounds with
  | nil =>
      have ended : wasm[p]? = none := by
        rw [← List.head?_drop, rest]
        rfl
      cases rounds with
      | zero => rfl
      | succ rounds =>
          rw [sections, ended]
          rfl
  | @cons encoding segments encodings kinds encoded each ih =>
      obtain ⟨id, contents, rfl⟩ : ∃ id contents, encoding = id :: contents := by
        cases encoded <;> exact ⟨_, _, rfl⟩
      rw [List.flatten_cons] at rest
      rw [List.flatten_cons, List.length_append, List.length_cons] at enough
      have there : At wasm p (id :: contents) := ⟨encodings.flatten, rest.symm⟩
      have behind : wasm.drop (p + 1 + contents.length) = encodings.flatten := by
        rw [Nat.add_assoc, ← List.drop_drop, rest, Nat.add_comm 1]
        exact List.drop_left
      obtain ⟨less, rfl⟩ : ∃ less, rounds = less + 1 := ⟨rounds - 1, by omega⟩
      have fewer : encodings.flatten.length ≤ less := by omega
      rw [sections, there.head, toOption_bind, toOption_sectionSegments encoded there.tail,
        List.flatten_cons, List.mapM_append]
      cases segments.mapM SegmentKind.range with
      | none => rfl
      | some segs =>
          rw [← ih behind fewer]
          exact toOption_bind _ _

end Format

/-- A binary of the format is read as the format says. -/
theorem toOption_parseDataSegments {encodings : List Bytes} {kinds : List (List SegmentKind)}
    (each : List.Forall₂ EncodedSection encodings kinds) :
    (parseDataSegments (wasmHeader ++ encodings.flatten)).toOption =
      kinds.flatten.mapM SegmentKind.range := by
  have accepted : ¬ ((wasmHeader ++ encodings.flatten).length < 8 ∨
      (wasmHeader ++ encodings.flatten).take 4 ≠ [0, 0x61, 0x73, 0x6d] ∨
      bytesWord (((wasmHeader ++ encodings.flatten).drop 4).take 4) ≠ 1) := by
    rintro (short | magic | version)
    · rw [List.length_append] at short
      exact absurd short (Nat.not_lt.mpr (Nat.le_add_right 8 _))
    · exact magic rfl
    · exact version rfl
  rw [parseDataSegments, if_neg accepted]
  refine toOption_sections each rfl ?_
  rw [List.length_append]
  omega

theorem range_active {offset length : Nat} (near : offset < 2 ^ 32) (short : length < 2 ^ 32) :
    ∃ seg, (SegmentKind.active offset length).range = some seg ∧ seg.off.toNat = offset ∧
      seg.len.toNat = length := by
  rw [SegmentKind.range, if_pos (Int.natCast_nonneg offset)]
  refine ⟨_, rfl, ?_, ?_⟩
  · rw [Int.toNat_natCast, UInt32.toNat_ofNat', Nat.mod_eq_of_lt near]
  · rw [UInt32.toNat_ofNat', Nat.mod_eq_of_lt short]

theorem mapM_range_active {ranges : List (Nat × Nat)}
    (small : ∀ range ∈ ranges, range.1 < 2 ^ 32 ∧ range.2 < 2 ^ 32) :
    ∃ segs, (ranges.map fun range => SegmentKind.active range.1 range.2).mapM SegmentKind.range =
        some segs ∧
      segs.map (fun seg => (seg.off.toNat, seg.len.toNat)) = ranges := by
  induction ranges with
  | nil => exact ⟨[], rfl, rfl⟩
  | cons range ranges ih =>
      obtain ⟨near, short⟩ := small range List.mem_cons_self
      obtain ⟨seg, first, off, len⟩ := range_active near short
      obtain ⟨segs, later, same⟩ :=
        ih fun other member => small other (List.mem_cons_of_mem _ member)
      refine ⟨seg :: segs, ?_, ?_⟩
      · rw [List.map_cons, List.mapM_cons, first, later]
        rfl
      · rw [List.map_cons, same, off, len]

theorem mapM_range_eq_none {kinds : List SegmentKind} {kind : SegmentKind} (member : kind ∈ kinds)
    (refused : kind.range = none) : kinds.mapM SegmentKind.range = none := by
  induction kinds with
  | nil => cases member
  | cons first kinds ih =>
      rw [List.mapM_cons]
      rcases List.mem_cons.mp member with rfl | later
      · rw [refused]
        rfl
      · rw [ih later]
        cases first.range <;> rfl

theorem exists_of_forall₂ {α β : Type} {relation : α → β → Prop} {lefts : List α} {rights : List β}
    (each : List.Forall₂ relation lefts rights) {right : β} (member : right ∈ rights) :
    ∃ left, relation left right := by
  induction each with
  | nil => cases member
  | cons related each ih =>
      rcases List.mem_cons.mp member with rfl | later
      · exact ⟨_, related⟩
      · exact ih later

/-- The format bounds what it can say of an active segment. -/
theorem small_of_encoded {encodings : List Bytes} {kinds : List (List SegmentKind)}
    (each : List.Forall₂ EncodedSection encodings kinds) {offset : Int} {length : Nat}
    (member : .active offset length ∈ kinds.flatten) : offset < 2 ^ 31 ∧ length < 2 ^ 32 := by
  obtain ⟨segments, inModule, inSection⟩ := List.mem_flatten.mp member
  obtain ⟨encoding, encodedSection⟩ := exists_of_forall₂ each inModule
  cases encodedSection with
  | other differs sized => cases inSection
  | data counted each sized =>
      obtain ⟨bytes, encoded⟩ := exists_of_forall₂ each inSection
      cases encoded with
      | active flag value sized => exact ⟨value.lt, sized.lt⟩

theorem eq_of_toOption {α : Type} {result : Except Error α} {value : α}
    (read : result.toOption = some value) : result = .ok value := by
  cases result with
  | error error => cases read
  | ok found =>
      cases read
      rfl

/-- The parser reads back every binary of the format: the offsets and lengths of its segments, in
order, when they are active with an `i32.const` that is not negative.  With a passive segment, an
explicit memory index or another offset expression among them it fails. -/
theorem data_segments_read {encodings : List Bytes} {kinds : List (List SegmentKind)}
    (each : List.Forall₂ EncodedSection encodings kinds) :
    (∀ ranges : List (Nat × Nat),
      kinds.flatten = (ranges.map fun range => SegmentKind.active range.1 range.2) →
      ∃ segs, parseDataSegments (wasmHeader ++ encodings.flatten) = .ok segs ∧
        segs.map (fun seg => (seg.off.toNat, seg.len.toNat)) = ranges) ∧
    ((∃ kind ∈ kinds.flatten, kind = .passive ∨ kind = .indexed ∨ kind = .computed) →
      ∃ error, parseDataSegments (wasmHeader ++ encodings.flatten) = .error error) := by
  have parsed := toOption_parseDataSegments each
  refine ⟨?_, ?_⟩
  · intro ranges active
    have small : ∀ range ∈ ranges, range.1 < 2 ^ 32 ∧ range.2 < 2 ^ 32 := by
      intro range member
      have listed : SegmentKind.active range.1 range.2 ∈ kinds.flatten := by
        rw [active]
        exact List.mem_map_of_mem member
      have bounds := small_of_encoded each listed
      omega
    obtain ⟨segs, read, same⟩ := mapM_range_active small
    rw [active, read] at parsed
    exact ⟨segs, eq_of_toOption parsed, same⟩
  · rintro ⟨kind, member, refused⟩
    have none : kind.range = none := by
      rcases refused with rfl | rfl | rfl <;> rfl
    rw [mapM_range_eq_none member none] at parsed
    cases result : parseDataSegments (wasmHeader ++ encodings.flatten) with
    | error error => exact ⟨error, rfl⟩
    | ok segs =>
        rw [result] at parsed
        cases parsed

/-- A padded size, padded flags and a padded offset, behind a section of another kind; and a passive
segment in the place of the active one. -/
theorem data_segments_read_padded :
    (∃ segs, parseDataSegments (wasmHeader ++ [[5, 3, 1, 0, 2],
        [11, 0x8a, 0, 1, 0x80, 0, 0x41, 0x84, 0, 0x0b, 2, 7, 7]].flatten) = .ok segs ∧
      segs.map (fun seg => (seg.off.toNat, seg.len.toNat)) = [(4, 2)]) ∧
    ∃ error, parseDataSegments (wasmHeader ++ [[11, 4, 1, 1, 1, 7]].flatten) = .error error := by
  have other : EncodedSection [5, 3, 1, 0, 2] [] :=
    @EncodedSection.other 5 [3] [1, 0, 2] (by decide) (.last (by decide) (by decide))
  have active : EncodedSegment [0x80, 0, 0x41, 0x84, 0, 0x0b, 2, 7, 7] (.active 4 2) :=
    @EncodedSegment.active [0x80, 0] [0x84, 0] [2] [7, 7] 4
      (.more (by decide) (by decide) (.last (by decide) (by decide)))
      (.more (by decide) (by decide) (.positive (by decide) (by decide)))
      (.last (by decide) (by decide))
  have passive : EncodedSegment [1, 1, 7] .passive :=
    @EncodedSegment.passive [1] [1, 7] (.last (by decide) (by decide))
  have first : EncodedSection [11, 0x8a, 0, 1, 0x80, 0, 0x41, 0x84, 0, 0x0b, 2, 7, 7]
      [.active 4 2] :=
    @EncodedSection.data [0x8a, 0] [1] [_] _ (.last (by decide) (by decide)) (.cons active .nil)
      (.more (by decide) (by decide) (.last (by decide) (by decide)))
  have second : EncodedSection [11, 4, 1, 1, 1, 7] [.passive] :=
    @EncodedSection.data [4] [1] [_] _ (.last (by decide) (by decide)) (.cons passive .nil)
      (.last (by decide) (by decide))
  exact ⟨(data_segments_read (.cons other (.cons first .nil))).1 [(4, 2)] rfl,
    (data_segments_read (.cons second .nil)).2 ⟨.passive, List.mem_singleton_self _, .inl rfl⟩⟩

end UnboundWasm.Host
