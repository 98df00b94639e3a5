import UnboundWasm.Lib.Machine
import UnboundWasm.Host.DataSegments
import UnboundWasm.Host.MemoryLimit

/-!
# `parseDataSegments` step by step

The same function as a machine that does one statement at a time on the variables of the
source.  The position `p` is an `int` of 64 bits that wraps, and an index expression outside
of the slice panics, so that both can be seen not to happen.
-/

namespace UnboundWasm.Host.Segments

open UnboundWasm.Lib

/-- `wasm[p]`, which panics outside of the slice. -/
def index (wasm : Bytes) (p : Int) : Option UInt8 :=
  if 0 ≤ p then wasm[p.toNat]? else none

/-- `uint64(value)`. -/
def toUInt64 (value : Int) : Nat := (value % 2 ^ 64).toNat

/-- A data section that is being read. The source has only its `end`, which is `stop`; the
others are where its id stands and where its contents begin. -/
structure Extent where
  start : Int
  contents : Int
  stop : Int
  deriving DecidableEq, Repr

/-- An entry of `segs`, as the numbers that it is made from, together with the place of its
first data byte and the section that it was read in. -/
structure Placed where
  off : Int
  n : Nat
  data : Int
  extent : Extent
  deriving DecidableEq, Repr

/-- `segRange{off: uint32(off), len: uint32(n)}`. -/
def Placed.range (placed : Placed) : SegRange :=
  ⟨UInt32.ofNat placed.off.toNat, UInt32.ofNat placed.n⟩

/-- The calls of `uleb`, with the variables that are in use behind them. `left` counts the
rounds of the segment loop that are still to come. -/
inductive Call where
  | size (id : UInt8) (start : Int)
  | count (extent : Extent)
  | flags (extent : Extent) (left : Nat)
  | length (extent : Extent) (left : Nat) (off : Int)
  deriving DecidableEq, Repr

/-- What is to be done next. -/
inductive Control where
  /-- The check of the first eight bytes. -/
  | header
  /-- The condition of the loop over the sections. -/
  | sections
  /-- A round of the loop of `uleb`. -/
  | uleb (call : Call) (shift : Nat) (v : BitVec 64)
  /-- The check of a section size, and what follows it. -/
  | size (id : UInt8) (start : Int) (size : Nat)
  /-- The loop over the segments. -/
  | segments (extent : Extent) (left : Nat)
  /-- The check of the flags, and of the opcode behind them. -/
  | opcode (extent : Extent) (left flags : Nat)
  /-- A round of the loop over the signed number. -/
  | sleb (extent : Extent) (left shift : Nat) (off : BitVec 64)
  /-- The check of the end of the offset expression. -/
  | ending (extent : Extent) (left : Nat) (off : Int)
  /-- The check of the numbers of a segment, and the segment itself. -/
  | place (extent : Extent) (left : Nat) (off : Int) (n : Nat)
  | returned
  | failed (error : Error)
  | panicked
  deriving DecidableEq, Repr

structure State where
  p : Int
  segs : List Placed
  control : Control
  deriving DecidableEq, Repr

namespace State

def goto (s : State) (control : Control) : State :=
  { s with control }

def fail (s : State) (message : String) : State :=
  s.goto (.failed (.new message))

/-- `p += amount`. -/
def move (s : State) (amount : Int) (control : Control) : State :=
  { s with p := toInt64 (s.p + amount), control }

/-- Go on with the byte at `p`. -/
def byte (s : State) (wasm : Bytes) (next : UInt8 → State) : State :=
  match index wasm s.p with
  | none => s.goto .panicked
  | some b => next b

/-- A byte of a number, which has ten at most. -/
def digit (s : State) (wasm : Bytes) (shift : Nat) (message : String) (next : UInt8 → Control) :
    State :=
  if s.p ≥ wasm.length ∨ shift > 63 then s.fail message
  else s.byte wasm fun b => s.move 1 (next b)

/-- A byte that the format prescribes. -/
def expect (s : State) (wasm : Bytes) (expected : UInt8) (message : String) (next : Control) :
    State :=
  if s.p ≥ wasm.length then s.fail message
  else s.byte wasm fun b => if b ≠ expected then s.fail message else s.move 1 next

/-- What the function has returned. -/
def result (s : State) : Option (Except Error (List SegRange)) :=
  match s.control with
  | .returned => some (.ok (s.segs.map Placed.range))
  | .failed error => some (.error error)
  | _ => none

end State

/-- What a call does with an error of `uleb`. -/
def Call.message : Call → String
  | .size _ _ => "bad section size"
  | _ => "bad leb128"

/-- Where a call goes on with the number that `uleb` returned. -/
def Call.resume (v : Nat) : Call → Control
  | .size id start => .size id start v
  | .count extent => .segments extent v
  | .flags extent left => .opcode extent left v
  | .length extent left off => .place extent left off v

section Steps

variable (wasm : Bytes) (s : State)

def header : State :=
  let refused := s.fail "not a wasm v1 binary"
  if wasm.length < 8 then refused
  else
    match sliceExpr wasm 0 4, sliceExpr wasm 4 8 with
    | some magic, some version =>
        if magic ≠ [0, 0x61, 0x73, 0x6d] ∨ bytesWord version ≠ 1 then refused
        else s.goto .sections
    | _, _ => s.goto .panicked

def nextSection : State :=
  if s.p < wasm.length then
    s.byte wasm fun id => s.move 1 (.uleb (.size id s.p) 0 0)
  else s.goto .returned

def ulebRound (call : Call) (shift : Nat) (v : BitVec 64) : State :=
  s.digit wasm shift call.message fun b =>
    let v := v ||| ((b &&& 0x7f).toBitVec.setWidth 64 <<< shift)
    if b &&& 0x80 = 0 then call.resume v.toNat else .uleb call (shift + 7) v

def sectionSize (id : UInt8) (start : Int) (size : Nat) : State :=
  if toUInt64 (wasm.length - s.p) < size then s.fail "bad section size"
  else
    let stop := toInt64 (s.p + toInt64 size)
    if id ≠ 11 then { s with p := stop, control := .sections }
    else s.goto (.uleb (.count ⟨start, s.p, stop⟩) 0 0)

def nextSegment (extent : Extent) : Nat → State
  | 0 => { s with p := extent.stop, control := .sections }
  | left + 1 => s.goto (.uleb (.flags extent left) 0 0)

def offsetOpcode (extent : Extent) (left flags : Nat) : State :=
  if flags ≠ 0 then s.fail s!"data segment flags {flags}"
  else s.expect wasm 0x41 "data segment offset is not i32.const" (.sleb extent left 0 0)

def slebRound (extent : Extent) (left shift : Nat) (off : BitVec 64) : State :=
  s.digit wasm shift "bad sleb128" fun b =>
    let off := off ||| ((b &&& 0x7f).toBitVec.setWidth 64 <<< shift)
    let shift := shift + 7
    if b &&& 0x80 = 0 then
      let off := if b &&& 0x40 ≠ 0 ∧ shift < 64 then off ||| (-1#64 <<< shift) else off
      .ending extent left off.toInt
    else .sleb extent left shift off

def offsetEnding (extent : Extent) (left : Nat) (off : Int) : State :=
  s.expect wasm 0x0b "data segment offset expression too long" (.uleb (.length extent left off) 0 0)

def placeSegment (extent : Extent) (left : Nat) (off : Int) (n : Nat) : State :=
  if off < 0 ∨ off > 2 ^ 32 - 1 ∨ n > 2 ^ 32 - 1 then s.fail "data segment out of range"
  else
    let moved := s.move (toInt64 n) (.segments extent left)
    if moved.p > extent.stop then moved.fail "data segment overflows section"
    else { moved with segs := s.segs ++ [⟨off, n, s.p, extent⟩] }

/-- One statement, none once the function has returned or panicked. -/
def step : Option State :=
  match s.control with
  | .header => some (header wasm s)
  | .sections => some (nextSection wasm s)
  | .uleb call shift v => some (ulebRound wasm s call shift v)
  | .size id start size => some (sectionSize wasm s id start size)
  | .segments extent left => some (nextSegment s extent left)
  | .opcode extent left flags => some (offsetOpcode wasm s extent left flags)
  | .sleb extent left shift off => some (slebRound wasm s extent left shift off)
  | .ending extent left off => some (offsetEnding wasm s extent left off)
  | .place extent left off n => some (placeSegment s extent left off n)
  | .returned | .failed _ | .panicked => none

end Steps

/-- A call of `parseDataSegments`. There is nothing to choose between its statements. -/
def machine (wasm : Bytes) : Machine State Unit where
  initial := ⟨8, [], .header⟩
  step s _ := step wasm s

end UnboundWasm.Host.Segments
