import Mathlib.Data.List.Basic
import Mathlib.Tactic.Ring

/-!
# LEB128

The integers of the binary format of wasm: seven bits a byte, the least significant first, and the
eighth bit set in every byte but the last.  A width bounds the value and with it the number of
bytes, within which an encoding may be padded.  A reader that collects the bits in a word of more
bits than that adds up the same number.
-/

namespace UnboundWasm.Lib

/-- `uN`: the encodings of an unsigned integer of some width. -/
inductive UnsignedLeb : Nat → List UInt8 → Nat → Prop where
  | last {width : Nat} {byte : UInt8} (ends : byte.toNat < 2 ^ 7) (fits : byte.toNat < 2 ^ width) :
      UnsignedLeb width [byte] byte.toNat
  | more {width value : Nat} {byte : UInt8} {rest : List UInt8} (continues : 2 ^ 7 ≤ byte.toNat)
      (wide : 7 < width) (later : UnsignedLeb (width - 7) rest value) :
      UnsignedLeb width (byte :: rest) (2 ^ 7 * value + (byte.toNat - 2 ^ 7))

/-- `sN`: the encodings of a signed integer of some width. -/
inductive SignedLeb : Nat → List UInt8 → Int → Prop where
  | positive {width : Nat} {byte : UInt8} (small : byte.toNat < 2 ^ 6)
      (fits : byte.toNat < 2 ^ (width - 1)) :
      SignedLeb width [byte] byte.toNat
  | negative {width : Nat} {byte : UInt8} (large : 2 ^ 6 ≤ byte.toNat) (ends : byte.toNat < 2 ^ 7)
      (fits : 2 ^ 7 ≤ byte.toNat + 2 ^ (width - 1)) :
      SignedLeb width [byte] ((byte.toNat : Int) - 2 ^ 7)
  | more {width : Nat} {value : Int} {byte : UInt8} {rest : List UInt8}
      (continues : 2 ^ 7 ≤ byte.toNat) (wide : 7 < width)
      (later : SignedLeb (width - 7) rest value) :
      SignedLeb width (byte :: rest) (2 ^ 7 * value + ((byte.toNat : Int) - 2 ^ 7))

theorem two_pow_split {width shift : Nat} (inside : shift ≤ width) :
    2 ^ width = 2 ^ shift * 2 ^ (width - shift) := by
  rw [← Nat.pow_add, Nat.add_sub_cancel' inside]

theorem UnsignedLeb.lt {width value : Nat} {bytes : List UInt8}
    (encoded : UnsignedLeb width bytes value) : value < 2 ^ width := by
  induction encoded with
  | last ends fits => exact fits
  | @more width value byte rest continues wide later ih =>
      have split : 2 ^ width = 2 ^ 7 * 2 ^ (width - 7) := two_pow_split wide.le
      have bound := byte.toNat_lt
      omega

theorem SignedLeb.lt {width : Nat} {value : Int} {bytes : List UInt8}
    (encoded : SignedLeb width bytes value) : value < 2 ^ (width - 1) := by
  induction encoded with
  | positive small fits => exact_mod_cast fits
  | @negative width byte large ends fits =>
      have positive : (0 : Int) < 2 ^ (width - 1) := Int.pow_pos (by decide)
      omega
  | @more width value byte rest continues wide later ih =>
      have split : (2 : Int) ^ (width - 1) = 2 ^ 7 * 2 ^ (width - 7 - 1) := by
        rw [← pow_add]
        congr 1
        omega
      have bound := byte.toNat_lt
      omega

theorem add_shifted_lt {low high shift bits : Nat} (below : low < 2 ^ shift)
    (small : high < 2 ^ bits) : low + 2 ^ shift * high < 2 ^ (shift + bits) := by
  have room : 2 ^ shift * (high + 1) ≤ 2 ^ shift * 2 ^ bits := Nat.mul_le_mul_left _ small
  rw [Nat.pow_add]
  rw [Nat.mul_succ] at room
  omega

/-- Some more bits above those that are there. -/
theorem toNat_or_shiftLeft {width shift bits : Nat} {low high : BitVec width}
    (below : low.toNat < 2 ^ shift) (small : high.toNat < 2 ^ bits) (fits : shift + bits ≤ width) :
    (low ||| high <<< shift).toNat = low.toNat + 2 ^ shift * high.toNat := by
  have sum := add_shifted_lt below small
  have room : 2 ^ (shift + bits) ≤ 2 ^ width := Nat.pow_le_pow_right (by decide) fits
  have inside : 2 ^ shift * high.toNat < 2 ^ width := by omega
  rw [BitVec.toNat_or, BitVec.toNat_shiftLeft, Nat.shiftLeft_eq, Nat.mul_comm,
    Nat.mod_eq_of_lt inside, Nat.or_comm, ← Nat.two_pow_add_eq_or_of_lt below, Nat.add_comm]

theorem toNat_signs {width shift : Nat} (inside : shift < width) :
    (-(BitVec.ofNat width 1 <<< shift)).toNat = 2 ^ shift * (2 ^ (width - shift) - 1) := by
  have positive : 0 < 2 ^ shift := Nat.two_pow_pos shift
  have smaller : 2 ^ shift < 2 ^ width := Nat.pow_lt_pow_right (by decide) inside
  have one : (BitVec.ofNat width 1 <<< shift).toNat = 2 ^ shift := by
    have single : 1 % 2 ^ width = 1 := Nat.mod_eq_of_lt (by omega)
    rw [BitVec.toNat_shiftLeft, BitVec.toNat_ofNat, single, Nat.shiftLeft_eq, Nat.one_mul,
      Nat.mod_eq_of_lt smaller]
  rw [BitVec.toNat_neg, one, Nat.mod_eq_of_lt (by omega), Nat.mul_sub, Nat.mul_one,
    ← two_pow_split inside.le]

/-- The sign bits above those that are there. -/
theorem toInt_or_signs {width shift : Nat} {low : BitVec width} (below : low.toNat < 2 ^ shift)
    (inside : shift < width) :
    (low ||| -(BitVec.ofNat width 1 <<< shift)).toInt = (low.toNat : Int) - 2 ^ shift := by
  have half : 2 ^ shift * 2 ≤ 2 ^ width := by
    rw [← Nat.pow_succ]
    exact Nat.pow_le_pow_right (by decide) inside
  have sum : (low ||| -(BitVec.ofNat width 1 <<< shift)).toNat =
      low.toNat + (2 ^ width - 2 ^ shift) := by
    rw [BitVec.toNat_or, toNat_signs inside, Nat.or_comm, ← Nat.two_pow_add_eq_or_of_lt below,
      Nat.mul_sub, Nat.mul_one, ← two_pow_split inside.le, Nat.add_comm]
  rw [BitVec.toInt_eq_toNat_cond, sum, if_neg (by omega)]
  push_cast [Nat.cast_sub (show 2 ^ shift ≤ 2 ^ width by omega)]
  ring

end UnboundWasm.Lib
