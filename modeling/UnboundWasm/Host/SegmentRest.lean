import UnboundWasm.Host.SegmentParser

/-!
# The rest of a call of `parseDataSegments`

What the functions of `DataSegments` return from a state of the machine on, and what one
statement of it is in them.
-/

namespace UnboundWasm.Host.Segments

open UnboundWasm.Lib

/-! ## What the rest of the call returns -/

section Remaining

variable (wasm : Bytes) (segs : List SegRange)

def sectionsFrom (p : Nat) : Except Error (List SegRange) := do
  let more ← sections wasm (wasm.length - p) p
  return segs ++ more

def segmentsFrom (stop left p : Nat) : Except Error (List SegRange) := do
  let more ← dataSegments wasm stop left p
  sectionsFrom wasm (segs ++ more) stop

def sizeFrom (id : UInt8) (size p : Nat) : Except Error (List SegRange) :=
  if wasm.length - p < size then .error (.new "bad section size")
  else if id ≠ 11 then sectionsFrom wasm segs (p + size)
  else do
    let (count, first) ← uleb wasm p
    segmentsFrom wasm segs (p + size) count first

def placeFrom (stop left : Nat) (off : Int) (n p : Nat) : Except Error (List SegRange) :=
  if off < 0 ∨ off > 2 ^ 32 - 1 ∨ n > 2 ^ 32 - 1 then .error (.new "data segment out of range")
  else if p + n > stop then .error (.new "data segment overflows section")
  else segmentsFrom wasm (segs ++ [⟨UInt32.ofNat off.toNat, UInt32.ofNat n⟩]) stop left (p + n)

def endingFrom (stop left : Nat) (off : Int) (p : Nat) : Except Error (List SegRange) := do
  let p ← expect wasm p 0x0b "data segment offset expression too long"
  let (n, p) ← uleb wasm p
  placeFrom wasm segs stop left off n p

def opcodeFrom (stop left flags p : Nat) : Except Error (List SegRange) :=
  if flags ≠ 0 then .error (.new s!"data segment flags {flags}")
  else do
    let p ← expect wasm p 0x41 "data segment offset is not i32.const"
    let (off, p) ← slebLoop wasm 10 p 0 0
    endingFrom wasm segs stop left off p

/-- A call of `uleb` with what it returns. -/
def Call.returns (call : Call) (read : Except Error (Nat × Nat)) : Except Error (List SegRange) :=
  match call with
  | .size id _ =>
      match read with
      | .error _ => .error (.new "bad section size")
      | .ok (amount, p) => sizeFrom wasm segs id amount p
  | .count extent => do
      let (rounds, p) ← read
      segmentsFrom wasm segs extent.stop.toNat rounds p
  | .flags extent left => do
      let (bits, p) ← read
      opcodeFrom wasm segs extent.stop.toNat left bits p
  | .length extent left off => do
      let (n, p) ← read
      placeFrom wasm segs extent.stop.toNat left off n p

def Control.returns (p : Nat) : Control → Except Error (List SegRange)
  | .header => do
      let more ← parseDataSegments wasm
      return segs ++ more
  | .sections => sectionsFrom wasm segs p
  | .uleb call shift v => call.returns wasm segs (ulebLoop wasm (10 - shift / 7) p shift v)
  | .size id _ amount => sizeFrom wasm segs id amount p
  | .segments extent left => segmentsFrom wasm segs extent.stop.toNat left p
  | .opcode extent left flags => opcodeFrom wasm segs extent.stop.toNat left flags p
  | .sleb extent left shift off => do
      let (off, p) ← slebLoop wasm (10 - shift / 7) p shift off
      endingFrom wasm segs extent.stop.toNat left off p
  | .ending extent left off => endingFrom wasm segs extent.stop.toNat left off p
  | .place extent left off n => placeFrom wasm segs extent.stop.toNat left off n p
  | .returned => .ok segs
  | .failed error => .error error
  | .panicked => .ok []

end Remaining

/-- What is returned from a state on, as the functions read it. -/
def remaining (wasm : Bytes) (s : State) : Except Error (List SegRange) :=
  s.control.returns wasm (s.segs.map Placed.range) s.p.toNat

theorem returns_resume (wasm : Bytes) (segs : List SegRange) (call : Call) (value p : Nat) :
    (call.resume value).returns wasm segs p = call.returns wasm segs (.ok (value, p)) := by
  cases call <;> rfl

theorem returns_refused (wasm : Bytes) (segs : List SegRange) (call : Call) :
    call.returns wasm segs (.error (.new "bad leb128")) = .error (.new call.message) := by
  cases call <;> rfl

/-! ## The functions, statement by statement -/

section Functions

variable {wasm : Bytes} {p shift : Nat} {b : UInt8}

/-- A number takes at least one byte, all of them in the file. -/
theorem ulebLoop_lt {rounds value behind : Nat} {v : BitVec 64}
    (read : ulebLoop wasm rounds p shift v = .ok (value, behind)) : p < behind := by
  induction rounds generalizing p shift v with
  | zero => cases read
  | succ rounds ih =>
      rw [ulebLoop] at read
      split at read
      · cases read
      · simp only at read
        split at read
        · cases read
          exact Nat.lt_succ_self p
        · exact Nat.lt_of_succ_lt (ih read)

theorem rounds_eq (whole : 7 ∣ shift) (short : shift ≤ 63) :
    10 - shift / 7 = 10 - (shift + 7) / 7 + 1 := by
  omega

/-- The byte at `p` is the next one of a number. -/
theorem ulebLoop_some (v : BitVec 64) (whole : 7 ∣ shift) (short : shift ≤ 63)
    (there : wasm[p]? = some b) :
    ulebLoop wasm (10 - shift / 7) p shift v =
      let v := v ||| ((b &&& 0x7f).toBitVec.setWidth 64 <<< shift)
      if b &&& 0x80 = 0 then .ok (v.toNat, p + 1)
      else ulebLoop wasm (10 - (shift + 7) / 7) (p + 1) (shift + 7) v := by
  rw [rounds_eq whole short, ulebLoop, there]

theorem ulebLoop_refused {v : BitVec 64} (whole : 7 ∣ shift)
    (refused : wasm.length ≤ p ∨ 63 < shift) :
    ulebLoop wasm (10 - shift / 7) p shift v = .error (.new "bad leb128") := by
  by_cases short : shift ≤ 63
  · have past : wasm[p]? = none := List.getElem?_eq_none (by omega)
    rw [rounds_eq whole short, ulebLoop, past]
  · have none : 10 - shift / 7 = 0 := by omega
    rw [none, ulebLoop]

theorem slebLoop_some (off : BitVec 64) (whole : 7 ∣ shift) (short : shift ≤ 63)
    (there : wasm[p]? = some b) :
    slebLoop wasm (10 - shift / 7) p shift off =
      let off := off ||| ((b &&& 0x7f).toBitVec.setWidth 64 <<< shift)
      if b &&& 0x80 = 0 then
        let off := if b &&& 0x40 ≠ 0 ∧ shift + 7 < 64 then off ||| (-1#64 <<< (shift + 7)) else off
        .ok (off.toInt, p + 1)
      else slebLoop wasm (10 - (shift + 7) / 7) (p + 1) (shift + 7) off := by
  rw [rounds_eq whole short, slebLoop, there]

theorem slebLoop_refused {off : BitVec 64} (whole : 7 ∣ shift)
    (refused : wasm.length ≤ p ∨ 63 < shift) :
    slebLoop wasm (10 - shift / 7) p shift off = .error (.new "bad sleb128") := by
  by_cases short : shift ≤ 63
  · have past : wasm[p]? = none := List.getElem?_eq_none (by omega)
    rw [rounds_eq whole short, slebLoop, past]
  · have none : 10 - shift / 7 = 0 := by omega
    rw [none, slebLoop]

theorem sectionSegments_lt {id : UInt8} {segs : List SegRange} {stop : Nat}
    (read : sectionSegments wasm id p = .ok (segs, stop)) : p < stop := by
  rw [sectionSegments] at read
  split at read
  · cases read
  next size contents sized =>
    have behind : p < contents := ulebLoop_lt sized
    split at read
    · cases read
    · split at read
      · cases read
        omega
      · simp only [bind, Except.bind] at read
        split at read
        · cases read
        · split at read
          · cases read
          · cases read
            omega

theorem ok_bind {α β : Type} (value : α) (next : α → Except Error β) :
    ((.ok value : Except Error α) >>= next) = next value := rfl

/-- As many rounds as there are bytes read the sections to the end, and more make no
difference. -/
theorem sections_eq {rounds others : Nat} (enough : wasm.length - p ≤ rounds)
    (suffice : wasm.length - p ≤ others) : sections wasm rounds p = sections wasm others p := by
  induction rounds generalizing p others with
  | zero =>
      have past : wasm[p]? = none := List.getElem?_eq_none (by omega)
      cases others <;> simp [sections, past]
  | succ rounds ih =>
      cases others with
      | zero =>
          have past : wasm[p]? = none := List.getElem?_eq_none (by omega)
          simp [sections, past]
      | succ others =>
          simp only [sections]
          cases wasm[p]? with
          | none => rfl
          | some id =>
              cases read : sectionSegments wasm id (p + 1) with
              | error error => simp [read, bind, Except.bind]
              | ok found =>
                  have behind := sectionSegments_lt read
                  have same : sections wasm rounds found.2 = sections wasm others found.2 :=
                    ih (by omega) (by omega)
                  simp [read, same, bind, Except.bind]

theorem sectionsFrom_end (segs : List SegRange) (past : wasm.length ≤ p) :
    sectionsFrom wasm segs p = .ok segs := by
  simp [sectionsFrom, Nat.sub_eq_zero_of_le past, sections, bind, Except.bind, pure, Except.pure]

theorem sectionsFrom_some (segs : List SegRange) (start : Int) {id : UInt8}
    (there : wasm[p]? = some id) :
    sectionsFrom wasm segs p = (Call.size id start).returns wasm segs (uleb wasm (p + 1)) := by
  have inside : p < wasm.length := (List.getElem?_eq_some_iff.mp there).1
  obtain ⟨rounds, count⟩ : ∃ rounds, wasm.length - p = rounds + 1 :=
    ⟨_, (Nat.succ_pred (by omega)).symm⟩
  rw [sectionsFrom, count, sections, there]
  simp only [sectionSegments]
  cases read : uleb wasm (p + 1) with
  | error error => rfl
  | ok found =>
      have behind : p + 1 < found.2 := ulebLoop_lt read
      have more (stop : Nat) (after : found.2 ≤ stop) :
          sections wasm rounds stop = sections wasm (wasm.length - stop) stop :=
        sections_eq (by omega) (Nat.le_refl _)
      simp only [Call.returns, sizeFrom]
      split
      · rfl
      · split
        · rw [sectionsFrom, ← more _ (Nat.le_add_right _ _)]
          simp only [ok_bind, List.nil_append, bind_pure]
        · simp only [segmentsFrom, sectionsFrom, ← more _ (Nat.le_add_right _ _), bind_assoc,
            pure_bind, List.append_assoc]

theorem segmentsFrom_zero (segs : List SegRange) (stop : Nat) :
    segmentsFrom wasm segs stop 0 p = sectionsFrom wasm segs stop := by
  simp [segmentsFrom, dataSegments, bind, Except.bind]

theorem segmentsFrom_succ (segs : List SegRange) (extent : Extent) (left : Nat) :
    segmentsFrom wasm segs extent.stop.toNat (left + 1) p =
      (Call.flags extent left).returns wasm segs (uleb wasm p) := by
  simp only [segmentsFrom, dataSegments, dataSegment]
  cases uleb wasm p with
  | error error => rfl
  | ok found =>
      simp only [Call.returns, opcodeFrom, endingFrom, placeFrom, segmentsFrom, ok_bind,
        bind_assoc, pure_bind]
      split
      · rfl
      · simp only [bind_assoc]
        apply bind_congr
        intro first
        apply bind_congr
        intro number
        apply bind_congr
        intro second
        apply bind_congr
        intro size
        split
        · rfl
        · split
          · rfl
          · simp only [pure_bind, List.append_assoc, List.cons_append, List.nil_append]

end Functions

end UnboundWasm.Host.Segments
