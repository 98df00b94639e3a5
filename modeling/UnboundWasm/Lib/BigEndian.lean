import Mathlib.Data.Nat.Digits.Defs

/-!
# Big-endian numbers

A byte string as a number, most significant byte first, and the shortest string of a number.
Leading zeros do not count.
-/

namespace UnboundWasm.Lib

/-- The number that a byte string stands for. -/
def bigEndian (bytes : List UInt8) : Nat :=
  bytes.foldl (fun value byte => value * 256 + byte.toNat) 0

/-- The shortest byte string of a number, empty for zero. -/
def bigEndianBytes (value : Nat) : List UInt8 :=
  (Nat.digits 256 value).reverse.map UInt8.ofNat

theorem bigEndian_concat (bytes : List UInt8) (byte : UInt8) :
    bigEndian (bytes ++ [byte]) = bigEndian bytes * 256 + byte.toNat := by
  simp [bigEndian]

/-- Leading zeros do not count. -/
theorem bigEndian_padded (zeros : Nat) (bytes : List UInt8) :
    bigEndian (List.replicate zeros 0 ++ bytes) = bigEndian bytes := by
  induction zeros with
  | zero => rfl
  | succ zeros ih =>
      rw [← ih]
      simp [bigEndian, List.replicate_succ]

theorem bigEndian_bigEndianBytes (value : Nat) : bigEndian (bigEndianBytes value) = value := by
  have digits : ∀ list : List Nat, (∀ digit ∈ list, digit < 256) →
      bigEndian (list.reverse.map UInt8.ofNat) = Nat.ofDigits 256 list := by
    intro list small
    induction list with
    | nil => rfl
    | cons digit rest ih =>
        obtain ⟨first, others⟩ := List.forall_mem_cons.mp small
        rw [List.reverse_cons, List.map_append, List.map_singleton, bigEndian_concat, ih others,
          UInt8.toNat_ofNat', Nat.mod_eq_of_lt first, Nat.ofDigits_cons]
        omega
  rw [bigEndianBytes, digits _ fun digit member => Nat.digits_lt_base (by decide) member,
    Nat.ofDigits_digits]

/-- A positive number has bytes. -/
theorem ne_nil_of_bigEndian {bytes : List UInt8} (positive : bigEndian bytes ≠ 0) : bytes ≠ [] := by
  rintro rfl
  exact positive rfl

end UnboundWasm.Lib
