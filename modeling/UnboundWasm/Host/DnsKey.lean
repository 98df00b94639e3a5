import UnboundWasm.Lib.BigEndian
import UnboundWasm.Host.Answer

/-!
# RSA keys of DNSKEY records

`parseDNSKEYRSA`, the wire format of RFC 3110: the length of the exponent in one byte, or in
two behind a zero, then the exponent and the modulus.  Every index is checked against the
string, as Go does, so that a panic would be seen.
-/

namespace UnboundWasm.Host

open UnboundWasm.Lib

/-- `rsa.PublicKey`. -/
structure PublicKey where
  n : Nat
  e : Nat
  deriving DecidableEq, Repr

/-- `binary.BigEndian.Uint16`. -/
def uint16 (data : Bytes) : Option Nat :=
  match data[1]?, data[0]? with
  | some low, some high => some (high.toNat * 256 + low.toNat)
  | _, _ => none

/-- The length of the exponent and where it starts. -/
def exponentField (key : Bytes) : Option (Nat × Nat) :=
  match key[0]? with
  | none => none
  | some first =>
      if first ≠ 0 then some (first.toNat, 1)
      else (sliceExpr key 1 3).bind fun field => (uint16 field).map fun elen => (elen, 3)

/-- `parseDNSKEYRSA`: a key or a refusal, and no result when it panics. -/
def parseDNSKEYRSA (key : Bytes) : Option (Option PublicKey) :=
  if key.length < 3 then some none
  else
    match exponentField key with
    | none => none
    | some (elen, off) =>
        if elen = 0 ∨ off + elen ≥ key.length then some none
        else
          match sliceExpr key off (off + elen), sliceExpr key (off + elen) key.length with
          | some exponent, some modulus =>
              let e := bigEndian exponent
              if ¬ e < 2 ^ 63 ∨ e < 3 ∨ e > 2 ^ 31 - 1 then some none
              else
                let n := bigEndian modulus
                if n = 0 then some none else some (some ⟨n, e⟩)
          | _, _ => none

/-- The two forms of a length that is not zero. -/
inductive LengthField : Nat → Bytes → Prop where
  | short {length : Nat} (positive : 0 < length) (small : length < 2 ^ 8) :
      LengthField length [.ofNat length]
  | long {length : Nat} (positive : 0 < length) (small : length < 2 ^ 16) :
      LengthField length [0, .ofNat (length / 256), .ofNat (length % 256)]

/-- A byte string in the format of RFC 3110, with an exponent that is accepted. -/
structure Encodes (key : Bytes) (value : PublicKey) : Prop where
  parts : ∃ field exponent modulus, key = field ++ exponent ++ modulus ∧
    LengthField exponent.length field ∧ bigEndian exponent = value.e ∧ modulus ≠ [] ∧
    bigEndian modulus = value.n
  exponent : 3 ≤ value.e ∧ value.e ≤ 2 ^ 31 - 1
  modulus : value.n ≠ 0

/-! ## The length field -/

theorem exponentField_short {first : UInt8} (nonzero : first ≠ 0) (rest : Bytes) :
    exponentField (first :: rest) = some (first.toNat, 1) := by
  simp [exponentField, nonzero]

theorem exponentField_long (high low : UInt8) (rest : Bytes) :
    exponentField (0 :: high :: low :: rest) = some (high.toNat * 256 + low.toNat, 3) := by
  simp [exponentField, sliceExpr, uint16]

/-- A length field is read back, whatever follows it. -/
theorem exponentField_append {length : Nat} {field : Bytes} (form : LengthField length field)
    (rest : Bytes) : exponentField (field ++ rest) = some (length, field.length) := by
  cases form with
  | short positive small =>
      have byte : (UInt8.ofNat length).toNat = length := by
        rw [UInt8.toNat_ofNat', Nat.mod_eq_of_lt small]
      have nonzero : UInt8.ofNat length ≠ 0 := by
        intro zero
        rw [zero, UInt8.toNat_zero] at byte
        omega
      rw [List.singleton_append, exponentField_short nonzero, byte]
      rfl
  | long positive small =>
      have high : (UInt8.ofNat (length / 256)).toNat = length / 256 := by
        rw [UInt8.toNat_ofNat', Nat.mod_eq_of_lt (by omega)]
      have low : (UInt8.ofNat (length % 256)).toNat = length % 256 := by
        rw [UInt8.toNat_ofNat', Nat.mod_eq_of_lt (by omega)]
      rw [List.cons_append, List.cons_append, List.cons_append, exponentField_long, high, low,
        Nat.div_add_mod']
      rfl

/-- What is read as a length field is one, unless the length is zero. -/
theorem lengthField_of_length {key : Bytes} (enough : 3 ≤ key.length) :
    ∃ field rest elen, key = field ++ rest ∧ exponentField key = some (elen, field.length) ∧
      (elen ≠ 0 → LengthField elen field) := by
  obtain ⟨first, tail, rfl⟩ := List.exists_cons_of_length_pos (show 0 < key.length by omega)
  by_cases zero : first = 0
  · subst zero
    rw [List.length_cons] at enough
    obtain ⟨high, tail, rfl⟩ := List.exists_cons_of_length_pos (show 0 < tail.length by omega)
    rw [List.length_cons] at enough
    obtain ⟨low, rest, rfl⟩ := List.exists_cons_of_length_pos (show 0 < tail.length by omega)
    refine ⟨[0, high, low], rest, _, rfl, exponentField_long high low rest, ?_⟩
    intro nonzero
    have highSmall := high.toNat_lt
    have lowSmall := low.toNat_lt
    have form := LengthField.long (Nat.pos_of_ne_zero nonzero)
      (show high.toNat * 256 + low.toNat < 2 ^ 16 by omega)
    rwa [show (high.toNat * 256 + low.toNat) / 256 = high.toNat by omega,
      show (high.toNat * 256 + low.toNat) % 256 = low.toNat by omega, UInt8.ofNat_toNat,
      UInt8.ofNat_toNat] at form
  · refine ⟨[first], tail, _, rfl, exponentField_short zero tail, ?_⟩
    intro nonzero
    have form := LengthField.short (Nat.pos_of_ne_zero nonzero) first.toNat_lt
    rwa [UInt8.ofNat_toNat] at form

/-! ## Decoding -/

theorem sliceExpr_append (before middle behind : Bytes) :
    sliceExpr (before ++ middle ++ behind) before.length (before.length + middle.length) =
      some middle := by
  rw [sliceExpr, if_pos (by simp), List.append_assoc, List.drop_left,
    Nat.add_sub_cancel_left, List.take_left]

theorem sliceExpr_end (before behind : Bytes) :
    sliceExpr (before ++ behind) before.length (before ++ behind).length = some behind := by
  rw [sliceExpr, if_pos (by simp), List.drop_left, List.length_append, Nat.add_sub_cancel_left,
    List.take_length]

/-- The decoder on a key that is cut where its length says, with something behind. -/
theorem parseDNSKEYRSA_parts {field exponent modulus : Bytes}
    (read : exponentField (field ++ exponent ++ modulus) = some (exponent.length, field.length))
    (enough : 3 ≤ (field ++ exponent ++ modulus).length) (filled : exponent ≠ [])
    (more : modulus ≠ []) :
    parseDNSKEYRSA (field ++ exponent ++ modulus) =
      some (if bigEndian exponent < 3 ∨ bigEndian exponent > 2 ^ 31 - 1 ∨ bigEndian modulus = 0
        then none else some ⟨bigEndian modulus, bigEndian exponent⟩) := by
  have exponentLength := List.length_pos_of_ne_nil filled
  have modulusLength := List.length_pos_of_ne_nil more
  have whole : (field ++ exponent ++ modulus).length =
      field.length + exponent.length + modulus.length := by
    rw [List.length_append, List.length_append]
  have back := sliceExpr_end (field ++ exponent) modulus
  rw [List.length_append] at back
  rw [parseDNSKEYRSA, if_neg (by omega), read]
  dsimp only
  rw [if_neg (by omega), sliceExpr_append, back]
  dsimp only
  by_cases range : bigEndian exponent < 3 ∨ bigEndian exponent > 2 ^ 31 - 1
  · rw [if_pos (by omega), if_pos (by omega)]
  · rw [if_neg (by omega)]
    by_cases zero : bigEndian modulus = 0
    · rw [if_pos zero, if_pos (by omega)]
    · rw [if_neg zero, if_neg (by omega)]

/-- A string that is not cut so is refused. -/
theorem parseDNSKEYRSA_cases (key : Bytes) :
    parseDNSKEYRSA key = some none ∨
      ∃ field exponent modulus, key = field ++ exponent ++ modulus ∧
        LengthField exponent.length field ∧ modulus ≠ [] := by
  by_cases short : key.length < 3
  · exact .inl (by rw [parseDNSKEYRSA, if_pos short])
  · obtain ⟨field, rest, elen, rfl, read, form⟩ := lengthField_of_length (Nat.not_lt.mp short)
    by_cases outside : elen = 0 ∨ field.length + elen ≥ (field ++ rest).length
    · left
      rw [parseDNSKEYRSA, if_neg short, read]
      dsimp only
      rw [if_pos outside]
    · right
      rw [List.length_append] at outside
      refine ⟨field, rest.take elen, rest.drop elen, ?_, ?_, ?_⟩
      · rw [List.append_assoc, List.take_append_drop]
      · rw [List.length_take, Nat.min_eq_left (by omega)]
        exact form (by omega)
      · apply List.ne_nil_of_length_pos
        rw [List.length_drop]
        omega

theorem LengthField.positive {length : Nat} {field : Bytes} (form : LengthField length field) :
    0 < length ∧ 0 < field.length := by
  cases form with
  | short positive small => exact ⟨positive, by simp⟩
  | long positive small => exact ⟨positive, by simp⟩

theorem LengthField.parse {field exponent modulus : Bytes}
    (form : LengthField exponent.length field) (more : modulus ≠ []) :
    parseDNSKEYRSA (field ++ exponent ++ modulus) =
      some (if bigEndian exponent < 3 ∨ bigEndian exponent > 2 ^ 31 - 1 ∨ bigEndian modulus = 0
        then none else some ⟨bigEndian modulus, bigEndian exponent⟩) := by
  have positive := form.positive
  have modulusLength := List.length_pos_of_ne_nil more
  apply parseDNSKEYRSA_parts _ _ (List.ne_nil_of_length_pos positive.1) more
  · rw [List.append_assoc]
    exact exponentField_append form _
  · rw [List.length_append, List.length_append]
    omega

theorem parseDNSKEYRSA_ne_none (key : Bytes) : parseDNSKEYRSA key ≠ none := by
  obtain refused | ⟨field, exponent, modulus, rfl, form, more⟩ := parseDNSKEYRSA_cases key
  · simp [refused]
  · rw [form.parse more]
    simp

/-- An encoded key is decoded to itself. -/
theorem parseDNSKEYRSA_of_encodes {key : Bytes} {value : PublicKey} (encodes : Encodes key value) :
    parseDNSKEYRSA key = some (some value) := by
  obtain ⟨⟨field, exponent, modulus, rfl, form, exponentValue, more, modulusValue⟩,
      range, nonzero⟩ :=
    encodes
  rw [form.parse more, exponentValue, modulusValue, if_neg (by omega)]

theorem encodes_of_parseDNSKEYRSA {key : Bytes} {value : PublicKey}
    (decoded : parseDNSKEYRSA key = some (some value)) : Encodes key value := by
  obtain refused | ⟨field, exponent, modulus, rfl, form, more⟩ := parseDNSKEYRSA_cases key
  · rw [refused] at decoded
    simp at decoded
  · rw [form.parse more] at decoded
    split at decoded
    next => simp at decoded
    next accepted =>
      simp only [Option.some.injEq] at decoded
      subst decoded
      have range : 3 ≤ bigEndian exponent ∧ bigEndian exponent ≤ 2 ^ 31 - 1 := by omega
      have nonzero : bigEndian modulus ≠ 0 := by omega
      exact ⟨⟨field, exponent, modulus, rfl, form, rfl, more, rfl⟩, range, nonzero⟩

/-- The bytes of a key behind a length field, padded with zeros, encode it. -/
theorem encodes_padded {value : PublicKey} {field : Bytes} {exponentZeros : Nat}
    (modulusZeros : Nat) (range : 3 ≤ value.e ∧ value.e ≤ 2 ^ 31 - 1) (nonzero : value.n ≠ 0)
    (form : LengthField (exponentZeros + (bigEndianBytes value.e).length) field) :
    Encodes (field ++ (List.replicate exponentZeros 0 ++ bigEndianBytes value.e) ++
      (List.replicate modulusZeros 0 ++ bigEndianBytes value.n)) value where
  parts := by
    have modulusValue :
        bigEndian (List.replicate modulusZeros 0 ++ bigEndianBytes value.n) = value.n := by
      rw [bigEndian_padded, bigEndian_bigEndianBytes]
    refine ⟨_, _, _, rfl, ?_, ?_, ?_, modulusValue⟩
    · rwa [List.length_append, List.length_replicate]
    · rw [bigEndian_padded, bigEndian_bigEndianBytes]
    · apply ne_nil_of_bigEndian
      rwa [modulusValue]
  exponent := range
  modulus := nonzero

/-- A byte string is decoded to a key exactly when it encodes it, and no string makes the
decoder panic; so every encoding of a key, padded and in either form, is decoded to it. -/
theorem rsa_keys_decoded :
    (∀ key, parseDNSKEYRSA key ≠ none) ∧
      (∀ key value, parseDNSKEYRSA key = some (some value) ↔ Encodes key value) ∧
      ∀ (value : PublicKey) (field : Bytes) (exponentZeros modulusZeros : Nat),
        3 ≤ value.e ∧ value.e ≤ 2 ^ 31 - 1 → value.n ≠ 0 →
        LengthField (exponentZeros + (bigEndianBytes value.e).length) field →
        parseDNSKEYRSA (field ++ (List.replicate exponentZeros 0 ++ bigEndianBytes value.e) ++
          (List.replicate modulusZeros 0 ++ bigEndianBytes value.n)) = some (some value) := by
  refine ⟨parseDNSKEYRSA_ne_none, ?_, ?_⟩
  · intro key value
    exact ⟨encodes_of_parseDNSKEYRSA, parseDNSKEYRSA_of_encodes⟩
  · intro value field exponentZeros modulusZeros range nonzero form
    exact parseDNSKEYRSA_of_encodes (encodes_padded modulusZeros range nonzero form)

/-- The exponent 65537 in the long form, padded with a zero. -/
theorem rsa_keys_decoded_padded :
    parseDNSKEYRSA ([0, 0, 4] ++ (List.replicate 1 0 ++ bigEndianBytes 65537) ++
      (List.replicate 2 0 ++ bigEndianBytes 35)) = some (some ⟨35, 65537⟩) := by
  have short : (bigEndianBytes 65537).length = 3 := by
    simp [bigEndianBytes]
  apply rsa_keys_decoded.2.2 ⟨35, 65537⟩ [0, 0, 4] 1 2 (by decide) (by decide)
  rw [short]
  exact .long (by decide) (by decide)

end UnboundWasm.Host
