import UnboundWasm.Host.SegmentRest

/-!
# `parseDataSegments` is safe on arbitrary bytes

What every statement of the parser keeps: where the position may be, that the start of the
section being read never moves back, a rank that goes down, and what the rest of the call
returns.
-/

namespace UnboundWasm.Host.Segments

open UnboundWasm.Lib

/-! ## Sections of a binary -/

/-- A section with its id at `start`, and its contents from `contents` up to `stop`. -/
structure SectionAt (wasm : Bytes) (id : UInt8) (start contents stop : Nat) : Prop where
  id_at : wasm[start]? = some id
  size_at : uleb wasm (start + 1) = .ok (stop - contents, contents)
  behind : start + 2 ≤ contents
  ordered : contents ≤ stop
  in_file : stop ≤ wasm.length

/-- The places where the sections of a binary begin, and the one behind the last of them. -/
inductive Begins (wasm : Bytes) : Nat → Prop where
  | first : Begins wasm 8
  | next {id : UInt8} {start contents stop : Nat} :
      Begins wasm start → SectionAt wasm id start contents stop → Begins wasm stop

/-- The section being read is a data section of the binary. -/
structure Extent.Declared (wasm : Bytes) (extent : Extent) : Prop where
  above : 8 ≤ extent.start
  behind : extent.start + 2 ≤ extent.contents
  ordered : extent.contents ≤ extent.stop
  in_file : extent.stop ≤ wasm.length
  begins : Begins wasm extent.start.toNat
  data : SectionAt wasm 11 extent.start.toNat extent.contents.toNat extent.stop.toNat

/-- What is asked of a segment: its numbers survive the conversion to 32 bits, and its bytes
lie in the section that declares it. -/
structure Placed.Inside (wasm : Bytes) (placed : Placed) : Prop where
  declared : placed.extent.Declared wasm
  off_nonneg : 0 ≤ placed.off
  off_lt : placed.off < 2 ^ 32
  off_eq : placed.range.off.toNat = placed.off
  len_eq : placed.range.len.toNat = placed.n
  first : placed.extent.contents ≤ placed.data
  last : placed.data + placed.n ≤ placed.extent.stop

/-! ## The invariant -/

/-- The position inside of a section that is being read. -/
structure Reading (wasm : Bytes) (p : Int) (extent : Extent) : Prop where
  declared : extent.Declared wasm
  after : extent.contents ≤ p
  before : p ≤ wasm.length

/-- The id of a section has been read, and `p` is behind it. -/
structure Entered (wasm : Bytes) (p : Int) (id : UInt8) (start : Int) : Prop where
  above : 8 ≤ start
  begins : Begins wasm start.toNat
  id_at : wasm[start.toNat]? = some id
  after : start < p
  before : p ≤ wasm.length

/-- `uleb` may leave the section, by the ten bytes of a number at most. -/
def Call.Valid (wasm : Bytes) (p : Int) (shift : Nat) (v : BitVec 64) : Call → Prop
  | .size id start =>
      Entered wasm p id start ∧
        ulebLoop wasm (10 - shift / 7) p.toNat shift v = uleb wasm (start.toNat + 1)
  | .count extent => Reading wasm p extent ∧ p = extent.contents + shift / 7
  | .flags extent _ | .length extent _ _ => Reading wasm p extent

def Control.Valid (wasm : Bytes) (p : Int) : Control → Prop
  | .header => p = 8
  | .sections => 8 ≤ p ∧ p ≤ wasm.length ∧ Begins wasm p.toNat
  | .uleb call shift v => 7 ∣ shift ∧ call.Valid wasm p shift v
  | .size id start amount =>
      Entered wasm p id start ∧ start + 2 ≤ p ∧
        Host.uleb wasm (start.toNat + 1) = .ok (amount, p.toNat)
  | .segments extent _ => Reading wasm p extent ∧ p ≤ extent.stop + 10
  | .sleb extent _ shift _ => Reading wasm p extent ∧ 7 ∣ shift
  | .opcode extent _ _ | .ending extent _ _ | .place extent _ _ _ => Reading wasm p extent
  | .returned | .failed _ => True
  | .panicked => False

structure State.Valid (wasm : Bytes) (s : State) : Prop where
  control : s.control.Valid wasm s.p
  segs : ∀ placed ∈ s.segs, placed.Inside wasm

def Call.start : Call → Int
  | .size _ start => start
  | .count extent | .flags extent _ | .length extent _ _ => extent.start

/-- Where the section being read starts, the position itself between two sections. -/
def Control.floor (p : Int) : Control → Int
  | .uleb call _ _ => call.start
  | .size _ start _ => start
  | .segments extent _ | .opcode extent _ _ | .sleb extent _ _ _ | .ending extent _ _
  | .place extent _ _ _ => extent.start
  | .header | .sections | .returned | .failed _ | .panicked => p

def State.floor (s : State) : Int := s.control.floor s.p

/-- The statements up to the next one that reads a byte. -/
def Control.stage : Control → Nat
  | .header | .place _ _ _ _ => 2
  | .sections | .size _ _ _ | .segments _ _ => 1
  | _ => 0

/-- The statements still to come at most. A section pays for the bytes of the segment count
that are read once more behind its end. -/
def rank (wasm : Bytes) (s : State) : Nat :=
  16 * (wasm.length - s.floor).toNat + 3 * (wasm.length - s.p).toNat + s.control.stage

/-- What a statement keeps. -/
structure Follows (wasm : Bytes) (s next : State) : Prop where
  valid : next.Valid wasm
  floor : s.floor ≤ next.floor
  rank : rank wasm next < rank wasm s
  remaining : remaining wasm next = remaining wasm s

/-! ## Positions -/

section Positions

variable {wasm : Bytes} {p : Int} {segs : List Placed} {extent : Extent}

theorem exists_byte (nonneg : 0 ≤ p) (before : p < wasm.length) :
    ∃ b, wasm[p.toNat]? = some b := by
  have inside : p.toNat < wasm.length := by omega
  exact ⟨_, List.getElem?_eq_getElem inside⟩

theorem byte_eq {b : UInt8} (nonneg : 0 ≤ p) (there : wasm[p.toNat]? = some b) (control : Control)
    (next : UInt8 → State) : State.byte ⟨p, segs, control⟩ wasm next = next b := by
  simp only [State.byte, index, if_pos nonneg, there]

theorem move_eq {amount : Int} (nonneg : 0 ≤ p + amount) (small : p + amount < 2 ^ 63)
    (control next : Control) :
    State.move ⟨p, segs, control⟩ amount next = ⟨p + amount, segs, next⟩ := by
  rw [State.move, toInt64_of_lt (by omega) small]

/-- A byte of a number is read inside of the file, or the call fails. -/
theorem digit_cases (nonneg : 0 ≤ p) (small : p + 1 < 2 ^ 63) (control : Control) (shift : Nat)
    (message : String) (next : UInt8 → Control) :
    ((wasm.length ≤ p.toNat ∨ 63 < shift) ∧
        State.digit ⟨p, segs, control⟩ wasm shift message next =
          ⟨p, segs, .failed (.new message)⟩) ∨
      (shift ≤ 63 ∧ ∃ b, wasm[p.toNat]? = some b ∧
        State.digit ⟨p, segs, control⟩ wasm shift message next = ⟨p + 1, segs, next b⟩) := by
  simp only [State.digit]
  split
  next refused => exact .inl ⟨by omega, rfl⟩
  next goes =>
    obtain ⟨b, there⟩ : ∃ b, wasm[p.toNat]? = some b := exists_byte nonneg (by omega)
    refine .inr ⟨by omega, b, there, ?_⟩
    rw [byte_eq nonneg there, move_eq (by omega) small]

/-- The byte that the format prescribes is read, or the call fails. -/
theorem expect_cases (nonneg : 0 ≤ p) (small : p + 1 < 2 ^ 63) (control : Control)
    (expected : UInt8) (message : String) (next : Control) :
    (Host.expect wasm p.toNat expected message = .error (.new message) ∧
        State.expect ⟨p, segs, control⟩ wasm expected message next =
          ⟨p, segs, .failed (.new message)⟩) ∨
      (wasm[p.toNat]? = some expected ∧
        Host.expect wasm p.toNat expected message = .ok (p + 1).toNat ∧
        State.expect ⟨p, segs, control⟩ wasm expected message next = ⟨p + 1, segs, next⟩) := by
  by_cases past : wasm.length ≤ p
  · have none : wasm[p.toNat]? = none := List.getElem?_eq_none (by omega)
    refine .inl ⟨?_, if_pos past⟩
    rw [Host.expect, none]
    rfl
  · obtain ⟨b, there⟩ : ∃ b, wasm[p.toNat]? = some b := exists_byte nonneg (by omega)
    rw [State.expect, if_neg past, byte_eq nonneg there, Host.expect, there]
    by_cases same : b = expected
    · subst same
      have next : (p + 1).toNat = p.toNat + 1 := by omega
      refine .inr ⟨rfl, ?_, ?_⟩
      · rw [if_pos rfl, next]
      · rw [if_neg (not_not_intro rfl), move_eq (by omega) small]
    · refine .inl ⟨if_neg ?_, if_pos same⟩
      exact fun equal => same (Option.some.inj equal)

theorem toUInt64_eq {value : Int} (nonneg : 0 ≤ value) (small : value < 2 ^ 64) :
    toUInt64 value = value.toNat := by
  rw [toUInt64, Int.emod_eq_of_lt nonneg small]

theorem Reading.nonneg (reading : Reading wasm p extent) : 0 ≤ p := by
  have above := reading.declared.above
  have behind := reading.declared.behind
  have after := reading.after
  omega

theorem Reading.start_lt (reading : Reading wasm p extent) : extent.start < p := by
  have behind := reading.declared.behind
  have after := reading.after
  omega

theorem Reading.below (reading : Reading wasm p extent) :
    extent.start < p ∧ extent.start < wasm.length := by
  have start := reading.start_lt
  have before := reading.before
  exact ⟨start, by omega⟩

theorem Reading.step {b : UInt8} (reading : Reading wasm p extent)
    (there : wasm[p.toNat]? = some b) : Reading wasm (p + 1) extent := by
  have room : p.toNat < wasm.length := (List.getElem?_eq_some_iff.mp there).1
  exact ⟨reading.declared, Int.le_add_one reading.after, by omega⟩

/-- The checks of a segment put it inside of the section. -/
theorem Reading.inside {off : Int} {n : Nat} (reading : Reading wasm p extent)
    (ranged : ¬(off < 0 ∨ off > 2 ^ 32 - 1 ∨ n > 2 ^ 32 - 1)) (room : p + n ≤ extent.stop) :
    Placed.Inside wasm ⟨off, n, p, extent⟩ := by
  have nonneg : 0 ≤ off := by omega
  have small : off < 2 ^ 32 := by omega
  have kept : (UInt32.ofNat off.toNat).toNat = off.toNat :=
    UInt32.toNat_ofNat_of_lt (by simp only [UInt32.size]; omega)
  have length : (UInt32.ofNat n).toNat = n :=
    UInt32.toNat_ofNat_of_lt (by simp only [UInt32.size]; omega)
  refine ⟨reading.declared, nonneg, small, ?_, length, reading.after, room⟩
  simp only [Placed.range, kept]
  omega

end Positions

/-! ## Calls of `uleb` -/

section Calls

variable {wasm : Bytes} {p : Int} {shift : Nat} {v : BitVec 64} {call : Call}

theorem Call.Valid.bounds (valid : call.Valid wasm p shift v) :
    8 ≤ call.start ∧ call.start < p ∧ p ≤ wasm.length := by
  cases call with
  | size id start => exact ⟨valid.1.above, valid.1.after, valid.1.before⟩
  | count extent => exact ⟨valid.1.declared.above, valid.1.start_lt, valid.1.before⟩
  | flags extent left => exact ⟨valid.declared.above, valid.start_lt, valid.before⟩
  | length extent left off => exact ⟨valid.declared.above, valid.start_lt, valid.before⟩

theorem floor_resume (value : Nat) (q : Int) : (call.resume value).floor q = call.start := by
  cases call <;> rfl

theorem stage_resume_le (call : Call) (value : Nat) : (call.resume value).stage ≤ 2 := by
  cases call <;> simp [Call.resume, Control.stage]

section Byte

variable {b : UInt8} (valid : call.Valid wasm p shift v) (whole : 7 ∣ shift) (short : shift ≤ 63)
  (there : wasm[p.toNat]? = some b)

include valid whole short there

/-- A byte that another one follows. -/
theorem Call.Valid.more (goes : b &&& 0x80 ≠ 0) :
    call.Valid wasm (p + 1) (shift + 7) (v ||| ((b &&& 0x7f).toBitVec.setWidth 64 <<< shift)) := by
  obtain ⟨above, start, before⟩ := valid.bounds
  have room : p.toNat < wasm.length := (List.getElem?_eq_some_iff.mp there).1
  have next : (p + 1).toNat = p.toNat + 1 := by omega
  cases call with
  | size id start =>
      obtain ⟨entered, same⟩ := valid
      have after := entered.after
      rw [ulebLoop_some v whole short there] at same
      simp only [goes, if_false] at same
      exact ⟨⟨entered.above, entered.begins, entered.id_at, by omega, by omega⟩, next ▸ same⟩
  | count extent => exact ⟨valid.1.step there, by have place := valid.2; omega⟩
  | flags extent left => exact valid.step there
  | length extent left off => exact valid.step there

/-- The last byte of a number. -/
theorem Call.Valid.last (ends : b &&& 0x80 = 0) :
    (call.resume (v ||| ((b &&& 0x7f).toBitVec.setWidth 64 <<< shift)).toNat).Valid wasm
      (p + 1) := by
  obtain ⟨above, start, before⟩ := valid.bounds
  have room : p.toNat < wasm.length := (List.getElem?_eq_some_iff.mp there).1
  have next : (p + 1).toNat = p.toNat + 1 := by omega
  cases call with
  | size id start =>
      obtain ⟨entered, same⟩ := valid
      have after := entered.after
      rw [ulebLoop_some v whole short there] at same
      simp only [ends, if_true] at same
      exact ⟨⟨entered.above, entered.begins, entered.id_at, by omega, by omega⟩, by omega,
        next ▸ same.symm⟩
  | count extent =>
      have place := valid.2
      have ordered := valid.1.declared.ordered
      exact ⟨valid.1.step there, by omega⟩
  | flags extent left => exact valid.step there
  | length extent left off => exact valid.step there

end Byte

end Calls

/-! ## One statement -/

theorem State.Valid.floor_le {wasm : Bytes} {s : State} (valid : s.Valid wasm) : s.floor ≤ s.p := by
  obtain ⟨p, segs, control⟩ := s
  cases control with
  | uleb call shift v => exact Int.le_of_lt valid.control.2.bounds.2.1
  | size id start size => exact Int.le_of_lt valid.control.1.after
  | segments extent left => exact Int.le_of_lt valid.control.1.start_lt
  | sleb extent left shift off => exact Int.le_of_lt valid.control.1.start_lt
  | opcode extent left flags => exact Int.le_of_lt valid.control.start_lt
  | ending extent left off => exact Int.le_of_lt valid.control.start_lt
  | place extent left off n => exact Int.le_of_lt valid.control.start_lt
  | header | sections | returned | failed | panicked => exact Int.le_refl p

section Statements

variable {wasm : Bytes} {p : Int} {segs : List Placed} {control : Control}

/-- Nothing is left to do in a call that has failed. -/
theorem follows_fail {moved : Int} {message : String}
    (valid : State.Valid wasm ⟨p, segs, control⟩) (ahead : p ≤ moved)
    (lower : control.floor p < p ∧ control.floor p < wasm.length ∨ 0 < control.stage)
    (refused : remaining wasm ⟨p, segs, control⟩ = .error (.new message)) :
    Follows wasm ⟨p, segs, control⟩ ⟨moved, segs, .failed (.new message)⟩ where
  valid := ⟨trivial, valid.segs⟩
  floor := Int.le_trans valid.floor_le ahead
  rank := by
    have below : control.floor p ≤ p := valid.floor_le
    change 16 * (wasm.length - moved).toNat + 3 * (wasm.length - moved).toNat + 0 <
      16 * (wasm.length - control.floor p).toNat + 3 * (wasm.length - p).toNat + control.stage
    omega
  remaining := refused.symm

/-- A byte is read, in the section that is being read. -/
theorem follows_read {b : UInt8} {next : Control} (valid : State.Valid wasm ⟨p, segs, control⟩)
    (there : wasm[p.toNat]? = some b) (read : next.Valid wasm (p + 1))
    (floor : next.floor (p + 1) = control.floor p) (stage : next.stage ≤ 2)
    (same : remaining wasm ⟨p + 1, segs, next⟩ = remaining wasm ⟨p, segs, control⟩) :
    Follows wasm ⟨p, segs, control⟩ ⟨p + 1, segs, next⟩ where
  valid := ⟨read, valid.segs⟩
  floor := Int.le_of_eq floor.symm
  rank := by
    have room : p.toNat < wasm.length := (List.getElem?_eq_some_iff.mp there).1
    change 16 * (wasm.length - next.floor (p + 1)).toNat + 3 * (wasm.length - (p + 1)).toNat +
        next.stage <
      16 * (wasm.length - control.floor p).toNat + 3 * (wasm.length - p).toNat + control.stage
    rw [floor]
    omega
  remaining := same

theorem follows_header (valid : State.Valid wasm ⟨p, segs, .header⟩) :
    Follows wasm ⟨p, segs, .header⟩ (header wasm ⟨p, segs, .header⟩) := by
  have first : p = 8 := valid.control
  subst first
  have refuse (why : wasm.length < 8 ∨ wasm.take 4 ≠ [0, 0x61, 0x73, 0x6d] ∨
      bytesWord ((wasm.drop 4).take 4) ≠ 1) : Follows wasm ⟨8, segs, .header⟩
        ⟨8, segs, .failed (.new "not a wasm v1 binary")⟩ := by
    apply follows_fail valid (Int.le_refl 8) (.inr Nat.two_pos)
    simp only [remaining, Control.returns, parseDataSegments]
    rw [if_pos why]
    rfl
  simp only [header]
  split
  next short => exact refuse (.inl short)
  next long =>
    have magic : sliceExpr wasm 0 4 = some (wasm.take 4) := by
      simp only [sliceExpr]
      rw [if_pos ⟨Nat.zero_le 4, by omega⟩]
      rfl
    have version : sliceExpr wasm 4 8 = some ((wasm.drop 4).take 4) := by
      simp only [sliceExpr]
      rw [if_pos ⟨by omega, by omega⟩]
    simp only [magic, version]
    split
    next other => exact refuse (.inr other)
    next same =>
      have moved : Control.Valid wasm 8 .sections :=
        ⟨Int.le_refl 8, by omega, .first⟩
      refine ⟨⟨moved, valid.segs⟩, Int.le_refl 8, ?_, ?_⟩
      · simp only [rank, State.goto, State.floor, Control.floor, Control.stage]
        omega
      · simp only [remaining, State.goto, Control.returns, parseDataSegments, sectionsFrom]
        rw [if_neg (by tauto), sections_eq (Nat.le_refl _) (Nat.sub_le _ _)]
        rfl

variable (fits : wasm.length + 2 ^ 32 ≤ 2 ^ 63)

include fits

theorem follows_sections (valid : State.Valid wasm ⟨p, segs, .sections⟩) :
    Follows wasm ⟨p, segs, .sections⟩ (nextSection wasm ⟨p, segs, .sections⟩) := by
  obtain ⟨above, before, begins⟩ : 8 ≤ p ∧ p ≤ wasm.length ∧ Begins wasm p.toNat := valid.control
  simp only [nextSection]
  split
  next room =>
    obtain ⟨id, there⟩ := exists_byte (by omega) room
    have next : (p + 1).toNat = p.toNat + 1 := by omega
    rw [byte_eq (by omega) there, move_eq (by omega) (by omega)]
    have called : Call.Valid wasm (p + 1) 0 0 (.size id p) := by
      refine ⟨⟨above, begins, there, Int.lt_succ p, room⟩, ?_⟩
      rw [next]
      rfl
    refine follows_read valid there ⟨Nat.dvd_zero 7, called⟩ rfl (Nat.zero_le 2) ?_
    simp only [remaining, Control.returns, next]
    exact (sectionsFrom_some _ _ there).symm
  next past =>
    refine ⟨⟨trivial, valid.segs⟩, Int.le_refl p, ?_, ?_⟩
    · simp only [rank, State.goto, State.floor, Control.floor, Control.stage]
      omega
    · simp only [remaining, State.goto, Control.returns]
      exact (sectionsFrom_end _ (by omega)).symm

theorem follows_uleb {call : Call} {shift : Nat} {v : BitVec 64}
    (valid : State.Valid wasm ⟨p, segs, .uleb call shift v⟩) :
    Follows wasm ⟨p, segs, .uleb call shift v⟩
      (ulebRound wasm ⟨p, segs, .uleb call shift v⟩ call shift v) := by
  obtain ⟨whole, called⟩ : 7 ∣ shift ∧ call.Valid wasm p shift v := valid.control
  obtain ⟨above, start, before⟩ := called.bounds
  have nonneg : 0 ≤ p := by omega
  rw [ulebRound]
  rcases digit_cases nonneg (by omega) _ shift call.message _ with
    ⟨refused, stepped⟩ | ⟨short, b, there, stepped⟩
  · rw [stepped]
    apply follows_fail valid (Int.le_refl p) (.inl ⟨start, Int.lt_of_lt_of_le start before⟩)
    simp only [remaining, Control.returns]
    rw [ulebLoop_refused whole refused, returns_refused]
  · rw [stepped]
    have next : (p + 1).toNat = p.toNat + 1 := by omega
    have looped := ulebLoop_some v whole short there
    by_cases ends : b &&& 0x80 = 0
    · simp only [ends, if_true] at looped ⊢
      apply follows_read valid there (called.last whole short there ends) (floor_resume _ _)
        (stage_resume_le _ _)
      simp only [remaining, next]
      rw [returns_resume, Control.returns, looped]
    · simp only [ends, if_false] at looped ⊢
      have more : 7 ∣ shift + 7 := by omega
      refine follows_read valid there ⟨more, called.more whole short there ends⟩ rfl
        (Nat.zero_le 2) ?_
      simp only [remaining, Control.returns, looped, next]

/-- The size of a section, which leaves it inside of the file. -/
theorem follows_size {id : UInt8} {start : Int} {size : Nat}
    (valid : State.Valid wasm ⟨p, segs, .size id start size⟩) :
    Follows wasm ⟨p, segs, .size id start size⟩
      (sectionSize wasm ⟨p, segs, .size id start size⟩ id start size) := by
  obtain ⟨entered, behind, sized⟩ : Entered wasm p id start ∧ start + 2 ≤ p ∧
      uleb wasm (start.toNat + 1) = .ok (size, p.toNat) := valid.control
  obtain ⟨above, begins, id_at, after, before⟩ := entered
  simp only [sectionSize]
  rw [toUInt64_eq (by omega) (by omega)]
  split
  next large =>
    apply follows_fail valid (Int.le_refl p) (.inr Nat.one_pos)
    simp only [remaining, Control.returns, sizeFrom]
    rw [if_pos (by omega)]
  next inside =>
    have room : p + size ≤ wasm.length := by omega
    have grows : p ≤ p + size := by omega
    have stop : (p + size).toNat = p.toNat + size := by omega
    have amount : toInt64 size = size := toInt64_of_lt (by omega) (by omega)
    rw [amount, toInt64_of_lt (by omega) (by omega)]
    have there : SectionAt wasm id start.toNat p.toNat (p + size).toNat := by
      refine ⟨id_at, ?_, by omega, by omega, by omega⟩
      rw [sized, stop, Nat.add_sub_cancel_left]
    have same : remaining wasm ⟨p, segs, .size id start size⟩ =
        if id ≠ 11 then sectionsFrom wasm (segs.map Placed.range) (p + size).toNat
        else (Call.count ⟨start, p, p + size⟩).returns wasm (segs.map Placed.range)
          (uleb wasm p.toNat) := by
      simp only [remaining, Control.returns, sizeFrom]
      rw [if_neg (by omega), stop]
      simp only [Call.returns, stop]
    split
    next other =>
      have moved : Control.Valid wasm (p + size) .sections :=
        ⟨by omega, room, begins.next there⟩
      refine ⟨⟨moved, valid.segs⟩, ?_, ?_, ?_⟩
      · simp only [State.floor, Control.floor]
        omega
      · simp only [rank, State.floor, Control.floor, Control.stage]
        omega
      · rw [same, if_pos other]
        rfl
    next data =>
      obtain rfl : id = 11 := Decidable.not_not.mp data
      have reading : Reading wasm p ⟨start, p, p + size⟩ :=
        ⟨⟨above, behind, grows, room, begins, there⟩, Int.le_refl p, before⟩
      refine ⟨⟨⟨Nat.dvd_zero 7, reading, (Int.add_zero p).symm⟩, valid.segs⟩, Int.le_refl start,
        ?_, ?_⟩
      · simp only [rank, State.goto, State.floor, Control.floor, Control.stage, Call.start]
        omega
      · rw [same, if_neg data]
        rfl

omit fits in
/-- The segment loop, at the end of which the position may go back, by ten bytes at most. -/
theorem follows_segments {extent : Extent} {left : Nat}
    (valid : State.Valid wasm ⟨p, segs, .segments extent left⟩) :
    Follows wasm ⟨p, segs, .segments extent left⟩
      (nextSegment ⟨p, segs, .segments extent left⟩ extent left) := by
  obtain ⟨reading, near⟩ : Reading wasm p extent ∧ p ≤ extent.stop + 10 := valid.control
  have after := reading.after
  obtain ⟨above, behind, ordered, in_file, begins, data⟩ := reading.declared
  cases left with
  | zero =>
      -- The section starts far enough before its end to pay for what is read once more.
      have moved : Control.Valid wasm extent.stop .sections :=
        ⟨by omega, in_file, begins.next data⟩
      refine ⟨⟨moved, valid.segs⟩, ?_, ?_, ?_⟩
      · simp only [nextSegment, State.floor, Control.floor]
        omega
      · simp only [nextSegment, rank, State.floor, Control.floor, Control.stage]
        omega
      · simp only [nextSegment, remaining, Control.returns, segmentsFrom_zero]
  | succ left =>
      refine ⟨⟨⟨Nat.dvd_zero 7, reading⟩, valid.segs⟩, Int.le_refl _, ?_, ?_⟩
      · simp only [nextSegment, State.goto, rank, State.floor, Control.floor, Control.stage,
          Call.start]
        omega
      · simp only [nextSegment, State.goto, remaining, Control.returns, segmentsFrom_succ]
        rfl

theorem follows_opcode {extent : Extent} {left flags : Nat}
    (valid : State.Valid wasm ⟨p, segs, .opcode extent left flags⟩) :
    Follows wasm ⟨p, segs, .opcode extent left flags⟩
      (offsetOpcode wasm ⟨p, segs, .opcode extent left flags⟩ extent left flags) := by
  have reading : Reading wasm p extent := valid.control
  have nonneg := reading.nonneg
  have before := reading.before
  rw [offsetOpcode]
  split
  next other =>
    apply follows_fail valid (Int.le_refl p) (.inl reading.below)
    simp only [remaining, Control.returns, opcodeFrom]
    rw [if_pos other]
  next zero =>
    rcases expect_cases nonneg (by omega) _ _ _ _ with
      ⟨refused, stepped⟩ | ⟨there, expected, stepped⟩
    · rw [stepped]
      apply follows_fail valid (Int.le_refl p) (.inl reading.below)
      simp only [remaining, Control.returns, opcodeFrom]
      rw [if_neg zero, refused]
      rfl
    · rw [stepped]
      refine follows_read valid there ⟨reading.step there, Nat.dvd_zero 7⟩ rfl (Nat.zero_le 2) ?_
      simp only [remaining, Control.returns, opcodeFrom]
      rw [if_neg zero, expected]
      rfl

theorem follows_sleb {extent : Extent} {left shift : Nat} {off : BitVec 64}
    (valid : State.Valid wasm ⟨p, segs, .sleb extent left shift off⟩) :
    Follows wasm ⟨p, segs, .sleb extent left shift off⟩
      (slebRound wasm ⟨p, segs, .sleb extent left shift off⟩ extent left shift off) := by
  obtain ⟨reading, whole⟩ : Reading wasm p extent ∧ 7 ∣ shift := valid.control
  have nonneg := reading.nonneg
  have before := reading.before
  rw [slebRound]
  rcases digit_cases nonneg (by omega) _ shift "bad sleb128" _ with
    ⟨refused, stepped⟩ | ⟨short, b, there, stepped⟩
  · rw [stepped]
    apply follows_fail valid (Int.le_refl p) (.inl reading.below)
    simp only [remaining, Control.returns]
    rw [slebLoop_refused whole refused]
    rfl
  · rw [stepped]
    have next : (p + 1).toNat = p.toNat + 1 := by omega
    have looped := slebLoop_some off whole short there
    by_cases ends : b &&& 0x80 = 0
    · simp only [ends, if_true] at looped ⊢
      refine follows_read valid there (reading.step there) rfl (Nat.zero_le 2) ?_
      simp only [remaining, Control.returns, looped, next]
      rfl
    · simp only [ends, if_false] at looped ⊢
      have more : 7 ∣ shift + 7 := by omega
      refine follows_read valid there ⟨reading.step there, more⟩ rfl (Nat.zero_le 2) ?_
      simp only [remaining, Control.returns, looped, next]

theorem follows_ending {extent : Extent} {left : Nat} {off : Int}
    (valid : State.Valid wasm ⟨p, segs, .ending extent left off⟩) :
    Follows wasm ⟨p, segs, .ending extent left off⟩
      (offsetEnding wasm ⟨p, segs, .ending extent left off⟩ extent left off) := by
  have reading : Reading wasm p extent := valid.control
  have nonneg := reading.nonneg
  have before := reading.before
  rw [offsetEnding]
  rcases expect_cases nonneg (by omega) _ _ _ _ with ⟨refused, stepped⟩ | ⟨there, expected, stepped⟩
  · rw [stepped]
    apply follows_fail valid (Int.le_refl p) (.inl reading.below)
    simp only [remaining, Control.returns, endingFrom]
    rw [refused]
    rfl
  · rw [stepped]
    refine follows_read valid there ⟨Nat.dvd_zero 7, reading.step there⟩ rfl (Nat.zero_le 2) ?_
    simp only [remaining, Control.returns, endingFrom]
    rw [expected]
    rfl

theorem follows_place {extent : Extent} {left n : Nat} {off : Int}
    (valid : State.Valid wasm ⟨p, segs, .place extent left off n⟩) :
    Follows wasm ⟨p, segs, .place extent left off n⟩
      (placeSegment ⟨p, segs, .place extent left off n⟩ extent left off n) := by
  have reading : Reading wasm p extent := valid.control
  have nonneg := reading.nonneg
  have after := reading.after
  have before := reading.before
  obtain ⟨above, behind, ordered, in_file, -, -⟩ := reading.declared
  simp only [placeSegment]
  split
  next wrong =>
    apply follows_fail valid (Int.le_refl p) (.inl reading.below)
    simp only [remaining, Control.returns, placeFrom]
    rw [if_pos wrong]
  next right =>
    have amount : toInt64 n = n := toInt64_of_lt (by omega) (by omega)
    rw [amount, move_eq (by omega) (by omega)]
    split
    next past =>
      simp only at past
      apply follows_fail valid (show p ≤ p + n by omega) (.inl reading.below)
      simp only [remaining, Control.returns, placeFrom]
      rw [if_neg right, if_pos (by omega)]
    next inside =>
      simp only at inside
      have moved : Reading wasm (p + n) extent := ⟨reading.declared, by omega, by omega⟩
      have near : p + n ≤ extent.stop + 10 := by omega
      refine ⟨⟨⟨moved, near⟩, ?_⟩, Int.le_refl _, ?_, ?_⟩
      · intro other member
        rcases List.mem_append.mp member with earlier | last
        · exact valid.segs other earlier
        · rw [List.mem_singleton.mp last]
          exact reading.inside right (Int.not_lt.mp inside)
      · simp only [rank, State.floor, Control.floor, Control.stage]
        omega
      · have next : (p + n).toNat = p.toNat + n := by omega
        simp only [remaining, Control.returns, placeFrom, next, List.map_append]
        rw [if_neg right, if_neg (by omega)]
        rfl

end Statements

/-! ## Whole calls -/

section Runs

variable {wasm : Bytes} {s next : State}

/-- Where nothing is left to do, the result is what the functions return. -/
theorem State.Valid.result_eq (valid : s.Valid wasm) (ended : step wasm s = none) :
    s.result = some (remaining wasm s) := by
  obtain ⟨p, segs, control⟩ := s
  cases control with
  | returned => rfl
  | failed error => rfl
  | panicked => exact valid.control.elim
  | _ => cases ended

theorem valid_initial (wasm : Bytes) : (machine wasm).initial.Valid wasm :=
  ⟨rfl, List.forall_mem_nil _⟩

theorem remaining_initial (wasm : Bytes) :
    remaining wasm (machine wasm).initial = parseDataSegments wasm := by
  change (parseDataSegments wasm >>= fun more => pure ([] ++ more)) = parseDataSegments wasm
  simp only [List.nil_append, bind_pure]

variable (fits : wasm.length + 2 ^ 32 ≤ 2 ^ 63)

include fits

theorem follows_step (valid : s.Valid wasm) (stepped : step wasm s = some next) :
    Follows wasm s next := by
  obtain ⟨p, segs, control⟩ := s
  cases control with
  | header => exact Option.some.inj stepped ▸ follows_header valid
  | sections => exact Option.some.inj stepped ▸ follows_sections fits valid
  | uleb call shift v => exact Option.some.inj stepped ▸ follows_uleb fits valid
  | size id start size => exact Option.some.inj stepped ▸ follows_size fits valid
  | segments extent left => exact Option.some.inj stepped ▸ follows_segments valid
  | opcode extent left flags => exact Option.some.inj stepped ▸ follows_opcode fits valid
  | sleb extent left shift off => exact Option.some.inj stepped ▸ follows_sleb fits valid
  | ending extent left off => exact Option.some.inj stepped ▸ follows_ending fits valid
  | place extent left off n => exact Option.some.inj stepped ▸ follows_place fits valid
  | returned | failed | panicked => cases stepped

theorem valid_of_reaches (reached : (machine wasm).Reaches Machine.always s next)
    (valid : s.Valid wasm) : next.Valid wasm ∧ s.floor ≤ next.floor := by
  have kept : ∀ before action after, (before.Valid wasm ∧ s.floor ≤ before.floor) →
      Machine.always before action → (machine wasm).step before action = some after →
      after.Valid wasm ∧ s.floor ≤ after.floor := by
    intro before _ after held _ stepped
    have follows := follows_step fits held.1 stepped
    exact ⟨follows.valid, Int.le_trans held.2 follows.floor⟩
  have carried := reached.invariant kept ⟨valid, Int.le_refl _⟩
  exact carried

theorem valid_of_reachable (reached : (machine wasm).Reachable s) : s.Valid wasm :=
  (valid_of_reaches fits reached (valid_initial wasm)).1

/-- A call ends, within a number of statements that does not depend on the segment counts. -/
theorem exists_final : ∃ statements final,
    (machine wasm).run (machine wasm).initial statements = some final ∧
      statements.length ≤ 19 * wasm.length + 2 ∧
      final.result = some (parseDataSegments wasm) := by
  have lower : ∀ before action after,
      (before.Valid wasm ∧ remaining wasm before = parseDataSegments wasm) →
      (machine wasm).step before action = some after →
      (after.Valid wasm ∧ remaining wasm after = parseDataSegments wasm) ∧
        rank wasm after < rank wasm before := by
    intro before _ after held stepped
    have follows := follows_step fits held.1 stepped
    exact ⟨⟨follows.valid, follows.remaining.trans held.2⟩, follows.rank⟩
  obtain ⟨statements, final, ran, short, ⟨valid, same⟩, ended⟩ :=
    Machine.exists_run_to_end (rank wasm) lower ⟨valid_initial wasm, remaining_initial wasm⟩
  have start : rank wasm (machine wasm).initial ≤ 19 * wasm.length + 2 := by
    simp only [rank, machine, State.floor, Control.floor, Control.stage]
    omega
  refine ⟨statements, final, ran, Nat.le_trans short start, ?_⟩
  rw [valid.result_eq (ended ()), same]

end Runs

/-- What is asked of a call of `parseDataSegments`. -/
structure Safe (wasm : Bytes) : Prop where
  /-- It ends with a result, the one of the functions. -/
  terminates : ∃ statements final,
    (machine wasm).run (machine wasm).initial statements = some final ∧
      statements.length ≤ 19 * wasm.length + 2 ∧
      final.result = some (parseDataSegments wasm)
  /-- No index is out of range. -/
  in_range : ∀ s, (machine wasm).Reachable s → s.control ≠ .panicked
  /-- From the condition of the section loop on, where a section starts and the one before it
  is passed, the position does not go back behind that place. -/
  forward : ∀ s, (machine wasm).Reachable s → s.control = .sections →
    Begins wasm s.p.toNat ∧
      ∀ later, (machine wasm).Reaches Machine.always s later → s.p ≤ later.p
  /-- The segments of a successful call lie in the file and in their sections. -/
  inside : ∀ s, (machine wasm).Reachable s → ∀ segs, s.result = some (.ok segs) →
    segs = s.segs.map Placed.range ∧ ∀ placed ∈ s.segs, placed.Inside wasm

/-- Every byte string is parsed safely. The longest one is `maxAlloc` of the Go runtime, 2^48
bytes where an `int` has 64 bits; what the code needs is that the length of a segment can be
added to a position. -/
theorem parse_data_segments_safe {maxAlloc : Nat} (headroom : maxAlloc + 2 ^ 32 ≤ 2 ^ 63)
    {wasm : Bytes} (allocated : wasm.length ≤ maxAlloc) : Safe wasm := by
  have fits : wasm.length + 2 ^ 32 ≤ 2 ^ 63 := by omega
  constructor
  case terminates => exact exists_final fits
  case in_range =>
    intro s reached panicked
    have control := (valid_of_reachable fits reached).control
    rw [panicked] at control
    exact control
  case forward =>
    intro s reached between
    have valid := valid_of_reachable fits reached
    have control := valid.control
    rw [between] at control
    refine ⟨control.2.2, ?_⟩
    intro later reaches
    obtain ⟨kept, floor⟩ := valid_of_reaches fits reaches valid
    have same : s.floor = s.p := by
      rw [State.floor, between]
      rfl
    exact same ▸ Int.le_trans floor kept.floor_le
  case inside =>
    intro s reached segs result
    refine ⟨?_, (valid_of_reachable fits reached).segs⟩
    rw [State.result] at result
    split at result
    · cases result
      rfl
    · cases result
    · cases result

/-- An empty data section, whose segment count is read from the section behind it. -/
def overrun : Bytes :=
  [0, 0x61, 0x73, 0x6d, 1, 0, 0, 0, 11, 0, 0, 0, 11, 7, 1, 0, 0x41, 5, 0x0b, 1, 9]

theorem parse_data_segments_safe_overrun :
    Safe overrun ∧ parseDataSegments overrun = .ok [⟨5, 1⟩] ∧
      ((machine overrun).run (machine overrun).initial (List.replicate 5 ())).map State.p =
        some 11 ∧
      ((machine overrun).run (machine overrun).initial (List.replicate 6 ())).map State.p =
        some 10 := by
  have runtime : 2 ^ 48 + 2 ^ 32 ≤ 2 ^ 63 := by decide
  exact ⟨parse_data_segments_safe runtime (by decide), by decide, by decide, by decide⟩

end UnboundWasm.Host.Segments
