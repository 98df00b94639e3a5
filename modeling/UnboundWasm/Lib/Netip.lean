import Mathlib.Data.BitVec
import UnboundWasm.Lib.BigEndian

/-!
# Internet addresses and prefixes

Addresses as Go's `net/netip` has them: the zero `Addr` is invalid, an IPv6
address may carry a zone, and an IPv4-mapped IPv6 address is a different value
from the IPv4 address it holds until it is unmapped.
-/

namespace UnboundWasm.Lib

/-- `netip.Addr`. -/
inductive Addr where
  | invalid
  | v4 (bits : BitVec 32)
  | v6 (bits : BitVec 128) (zone : String)
  deriving DecidableEq, Repr

namespace Addr

/-- `netip.AddrFrom4`. -/
def from4 (bytes : List UInt8) : Addr :=
  .v4 (BitVec.ofNat 32 (bytes.foldl (fun value byte => value * 256 + byte.toNat) 0))

/-- `netip.AddrFrom16`: an IPv6 address without a zone, mapped or not. -/
def from16 (bytes : List UInt8) : Addr :=
  .v6 (BitVec.ofNat 128 (bytes.foldl (fun value byte => value * 256 + byte.toNat) 0)) ""

/-- `Addr.IsValid`. -/
def isValid : Addr → Bool
  | .invalid => false
  | .v4 _ | .v6 _ _ => true

/-- `Addr.Is4`. -/
def is4 : Addr → Bool
  | .v4 _ => true
  | .invalid | .v6 _ _ => false

/-- `Addr.Is6`: every IPv6 address, IPv4-mapped ones included. -/
def is6 : Addr → Bool
  | .v6 _ _ => true
  | .invalid | .v4 _ => false

/-- `Addr.Is4In6`: the address lies in `::ffff:0:0/96`. -/
def is4In6 : Addr → Bool
  | .v6 bits _ => bits.toNat / 2 ^ 32 == 0xffff
  | .invalid | .v4 _ => false

/-- `Addr.Unmap`: strip the `::ffff:0:0/96` prefix, and the zone with it. -/
def unmap (addr : Addr) : Addr :=
  match addr with
  | .v6 bits _ => if addr.is4In6 then .v4 (bits.setWidth 32) else addr
  | .invalid | .v4 _ => addr

/-- `Addr.As16`: the address in sixteen network-order bytes, an IPv4 address in
its mapped form. The zero `Addr` is all zeroes. -/
def as16 : Addr → List UInt8
  | .invalid => List.replicate 16 0
  | .v4 bits => List.replicate 10 0 ++ [0xff, 0xff] ++
      (List.range 4).map fun i => UInt8.ofNat (bits.toNat / 256 ^ (3 - i))
  | .v6 bits _ =>
      (List.range 16).map fun i => UInt8.ofNat (bits.toNat / 256 ^ (15 - i))

/-- `Addr.As4` of an IPv4 address. -/
def as4 (addr : Addr) : List UInt8 := addr.as16.drop 12

end Addr

/-- `netip.AddrPort`. Its zero value, the remote of an unconnected socket, has
the invalid address. -/
structure AddrPort where
  addr : Addr
  port : Nat
  deriving DecidableEq, Repr

namespace AddrPort

/-- The zero `netip.AddrPort`. -/
def zero : AddrPort := ⟨.invalid, 0⟩

/-- `AddrPort.IsValid`. -/
def isValid (remote : AddrPort) : Bool := remote.addr.isValid

end AddrPort

/-- `netip.Prefix`: network bits and how many of the leading ones count. -/
inductive Prefix where
  | v4 (network : BitVec 32) (length : Nat)
  | v6 (network : BitVec 128) (length : Nat)
  deriving DecidableEq, Repr

namespace Prefix

/-- `Prefix.Contains`: the leading bits agree. Families never mix, and an
address with a zone is in no prefix. -/
def contains (p : Prefix) (addr : Addr) : Bool :=
  match p, addr with
  | .v4 network length, .v4 bits => (bits ^^^ network) >>> (32 - length) == 0
  | .v6 network length, .v6 bits zone =>
      zone == "" && (bits ^^^ network) >>> (128 - length) == 0
  | _, _ => false

@[simp] theorem contains_invalid (p : Prefix) : p.contains .invalid = false := by
  cases p <;> rfl

/-- How many leading bits count. -/
def length : Prefix → Nat
  | .v4 _ length | .v6 _ length => length

/-- A prefix of IPv6 addresses. -/
def is6 : Prefix → Bool
  | .v4 _ _ => false
  | .v6 _ _ => true

/-- The networks agree on the bits that count for both, so that one prefix lies
inside the other. -/
def meets : Prefix → Prefix → Bool
  | .v4 network length, .v4 other count => (network ^^^ other) >>> (32 - min length count) == 0
  | .v6 network length, .v6 other count => (network ^^^ other) >>> (128 - min length count) == 0
  | _, _ => false

/-- Every address of the second prefix belongs to the first. -/
def covers (outer inner : Prefix) : Bool := outer.length ≤ inner.length && outer.meets inner

section Agreement

variable {width : Nat} {x y z : BitVec width} {fewer more : Nat}

/-- Bits that agree down to some position agree down to every higher one. -/
theorem shiftRight_eq_zero_of_le (agree : x >>> fewer = 0) (le : fewer ≤ more) :
    x >>> more = 0 := by
  obtain ⟨rest, rfl⟩ := Nat.exists_eq_add_of_le le
  rw [BitVec.shiftRight_add, agree]
  exact BitVec.zero_ushiftRight

/-- Agreement is transitive at the coarser of two positions. -/
theorem xor_shiftRight_trans (first : (x ^^^ y) >>> fewer = 0) (second : (y ^^^ z) >>> more = 0)
    (le : fewer ≤ more) : (x ^^^ z) >>> more = 0 := by
  have split : x ^^^ z = (x ^^^ y) ^^^ (y ^^^ z) := by
    rw [BitVec.xor_assoc, ← BitVec.xor_assoc y y z, BitVec.xor_self, BitVec.zero_xor]
  rw [split, BitVec.ushiftRight_xor_distrib, shiftRight_eq_zero_of_le first le, second]
  exact BitVec.xor_self

variable {bits network other : BitVec width} {length count : Nat}

theorem networks_agree (left : (bits ^^^ network) >>> (width - length) = 0)
    (right : (bits ^^^ other) >>> (width - count) = 0) :
    (network ^^^ other) >>> (width - min length count) = 0 := by
  have back : (network ^^^ bits) >>> (width - length) = 0 := by
    rw [BitVec.xor_comm]
    exact left
  have wider : (bits ^^^ other) >>> (width - min length count) = 0 :=
    shiftRight_eq_zero_of_le right (by omega)
  exact xor_shiftRight_trans back wider (by omega)

theorem address_agrees (le : length ≤ count) (inside : (bits ^^^ other) >>> (width - count) = 0)
    (agree : (network ^^^ other) >>> (width - min length count) = 0) :
    (bits ^^^ network) >>> (width - length) = 0 := by
  have back : (other ^^^ network) >>> (width - length) = 0 := by
    rw [BitVec.xor_comm, ← Nat.min_eq_left le]
    exact agree
  exact xor_shiftRight_trans inside back (by omega)

end Agreement

variable {p q outer inner : Prefix} {addr : Addr}

theorem is6_of_contains (inside : p.contains addr = true) : p.is6 = addr.is6 := by
  cases p <;> cases addr <;> simp [contains] at inside <;> rfl

/-- Prefixes with a common address meet. -/
theorem meets_of_contains (left : p.contains addr = true) (right : q.contains addr = true) :
    p.meets q = true := by
  cases p <;> cases q <;> cases addr <;>
    simp only [contains, meets, Bool.false_eq_true, Bool.and_eq_true, beq_iff_eq] at left right ⊢
  case v4.v4.v4 => exact networks_agree left right
  case v6.v6.v6 => exact networks_agree left.2 right.2

theorem contains_of_covers (covered : outer.covers inner = true)
    (inside : inner.contains addr = true) : outer.contains addr = true := by
  obtain ⟨shorter, meets⟩ := Bool.and_eq_true_iff.mp covered
  have le := of_decide_eq_true shorter
  cases outer <;> cases inner <;> cases addr <;>
    simp only [contains, Prefix.meets, Bool.false_eq_true, Bool.and_eq_true, beq_iff_eq]
      at inside meets ⊢
  case v4.v4.v4 => exact address_agrees le inside meets
  case v6.v6.v6 => exact ⟨inside.1, address_agrees le inside.2 meets⟩

end Prefix

/-- Dotted-quad network bits. -/
def ip4 (a b c d : Nat) : BitVec 32 :=
  BitVec.ofNat 32 (((a * 256 + b) * 256 + c) * 256 + d)

/-- Network bits of the leading hextets, the others being zero. -/
def ip6 (hextets : List Nat) : BitVec 128 :=
  BitVec.ofNat 128
    (hextets.foldl (fun value hextet => value * 65536 + hextet) 0 *
      65536 ^ (8 - hextets.length))

/-- The range `::ffff:0:0/96` of the mapped addresses. -/
def mapped : Prefix := .v6 (ip6 [0, 0, 0, 0, 0, 0xffff]) 96

theorem mapped_contains {bits : BitVec 128} {zone : String}
    (is4In6 : (Addr.v6 bits zone).is4In6 = true) : mapped.contains (.v6 bits "") = true := by
  have quotient : bits.toNat / 2 ^ 32 = 0xffff := by simpa [Addr.is4In6] using is4In6
  have high : bits >>> 32 = 0xffff#128 := by
    apply BitVec.eq_of_toNat_eq
    rw [BitVec.toNat_ushiftRight, Nat.shiftRight_eq_div_pow, quotient]
    rfl
  have agree : (bits ^^^ ip6 [0, 0, 0, 0, 0, 0xffff]) >>> 32 = 0 := by
    rw [BitVec.ushiftRight_xor_distrib, high]
    decide
  simpa [mapped, Prefix.contains] using agree

end UnboundWasm.Lib
