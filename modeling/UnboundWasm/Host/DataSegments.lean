import UnboundWasm.Lib.Memory
import UnboundWasm.Host.Answer

/-!
# Data segments of a wasm binary

`parseDataSegments`: the ranges that the active data segments of the module cover.  The
functions carry the read position `p` of the source, an index into the whole binary, and
return it moved on.
-/

namespace UnboundWasm.Host

/-- `segRange`. -/
structure SegRange where
  off : UInt32
  len : UInt32
  deriving DecidableEq, Repr

/-- The loop of `uleb`. The tenth byte stands at shift 63, an eleventh is refused. -/
def ulebLoop (wasm : Bytes) : Nat → Nat → Nat → BitVec 64 → Except Error (Nat × Nat)
  | 0, _, _, _ => .error (.new "bad leb128")
  | rounds + 1, p, shift, v =>
      match wasm[p]? with
      | none => .error (.new "bad leb128")
      | some b =>
          let v := v ||| ((b &&& 0x7f).toBitVec.setWidth 64 <<< shift)
          if b &&& 0x80 = 0 then .ok (v.toNat, p + 1)
          else ulebLoop wasm rounds (p + 1) (shift + 7) v

/-- `uleb`: an unsigned number and the position behind it. -/
def uleb (wasm : Bytes) (p : Nat) : Except Error (Nat × Nat) :=
  ulebLoop wasm 10 p 0 0

/-- The loop over the signed number of an offset expression. -/
def slebLoop (wasm : Bytes) : Nat → Nat → Nat → BitVec 64 → Except Error (Int × Nat)
  | 0, _, _, _ => .error (.new "bad sleb128")
  | rounds + 1, p, shift, off =>
      match wasm[p]? with
      | none => .error (.new "bad sleb128")
      | some b =>
          let off := off ||| ((b &&& 0x7f).toBitVec.setWidth 64 <<< shift)
          let shift := shift + 7
          if b &&& 0x80 = 0 then
            -- a last byte at shift 63 leaves no bit to extend the sign into
            let off := if b &&& 0x40 ≠ 0 ∧ shift < 64 then off ||| (-1#64 <<< shift) else off
            .ok (off.toInt, p + 1)
          else slebLoop wasm rounds (p + 1) shift off

/-- One byte that the format prescribes. -/
def expect (wasm : Bytes) (p : Nat) (byte : UInt8) (message : String) : Except Error Nat :=
  if wasm[p]? = some byte then .ok (p + 1) else .error (.new message)

/-- One round of the loop over the segments of a section that ends at `stop`. -/
def dataSegment (wasm : Bytes) (stop p : Nat) : Except Error (SegRange × Nat) := do
  let (flags, p) ← uleb wasm p
  if flags ≠ 0 then
    throw (.new s!"data segment flags {flags}")
  let p ← expect wasm p 0x41 "data segment offset is not i32.const"
  let (off, p) ← slebLoop wasm 10 p 0 0
  let p ← expect wasm p 0x0b "data segment offset expression too long"
  let (n, p) ← uleb wasm p
  if off < 0 ∨ off > 2 ^ 32 - 1 ∨ n > 2 ^ 32 - 1 then
    throw (.new "data segment out of range")
  let p := p + n
  if p > stop then
    throw (.new "data segment overflows section")
  return (⟨UInt32.ofNat off.toNat, UInt32.ofNat n⟩, p)

/-- The loop over the `count` segments of a section. -/
def dataSegments (wasm : Bytes) (stop : Nat) : Nat → Nat → Except Error (List SegRange)
  | 0, _ => .ok []
  | count + 1, p => do
      let (seg, p) ← dataSegment wasm stop p
      let segs ← dataSegments wasm stop count p
      return seg :: segs

/-- The segments of the section at `p`, none unless it is the data section, and where the
section ends. -/
def sectionSegments (wasm : Bytes) (id : UInt8) (p : Nat) :
    Except Error (List SegRange × Nat) :=
  match uleb wasm p with
  | .error _ => .error (.new "bad section size")
  | .ok (size, p) =>
      if wasm.length - p < size then .error (.new "bad section size")
      else if id ≠ 11 then .ok ([], p + size)
      else do
        let (count, first) ← uleb wasm p
        let segs ← dataSegments wasm (p + size) count first
        return (segs, p + size)

/-- The loop over the sections. Every round reads at least its id, so there are no more
rounds than bytes. -/
def sections (wasm : Bytes) : Nat → Nat → Except Error (List SegRange)
  | 0, _ => .ok []
  | rounds + 1, p =>
      match wasm[p]? with
      | none => .ok []
      | some id => do
          let (segs, p) ← sectionSegments wasm id (p + 1)
          let rest ← sections wasm rounds p
          return segs ++ rest

/-- `parseDataSegments`. -/
def parseDataSegments (wasm : Bytes) : Except Error (List SegRange) :=
  if wasm.length < 8 ∨ wasm.take 4 ≠ [0, 0x61, 0x73, 0x6d] ∨
      Lib.bytesWord ((wasm.drop 4).take 4) ≠ 1 then
    .error (.new "not a wasm v1 binary")
  else sections wasm wasm.length 8

/-- Two overlapping segments and an empty one, behind a section of another kind. -/
example :
    parseDataSegments
      [0, 0x61, 0x73, 0x6d, 1, 0, 0, 0, 5, 3, 1, 0, 2, 11, 20, 3, 0, 0x41, 0x84, 0x00, 0x0b, 2, 7,
        7, 0, 0x41, 5, 0x0b, 1, 9, 0, 0x41, 0, 0x0b, 0] =
      .ok [⟨4, 2⟩, ⟨5, 1⟩, ⟨0, 0⟩] := by
  decide

end UnboundWasm.Host
