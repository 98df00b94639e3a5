import Mathlib.Logic.Function.Iterate
import UnboundWasm.Lib.Memory
import UnboundWasm.Host.DnsKey

/-!
# The cryptography of the host

`crypto.go` and the imports of `host.go` through which the guest reaches it.  The algorithms
themselves are those of the Go library and enter as parameters; what is modelled is how an
algorithm number selects one of them, how keys and signatures are taken apart, and what is read
from and written to the memory of the guest.  A function that may panic has no result then.
-/

namespace UnboundWasm.Host

open UnboundWasm.Lib

/-- The curves of `crypto/elliptic` in use. -/
inductive Curve where
  | p256
  | p384
  deriving DecidableEq, Repr

/-- The values of `crypto.Hash` in use. -/
inductive CryptoHash where
  | sha256
  | sha384
  | sha512
  deriving DecidableEq, Repr

/-- The hash functions of the Go library. -/
structure Sha where
  sha1 : Bytes → Bytes
  sha256 : Bytes → Bytes
  sha384 : Bytes → Bytes
  sha512 : Bytes → Bytes

/-- The Go library: its hash functions, and its three kinds of signatures. -/
structure GoCrypto (Point : Type) where
  sha : Sha
  verifyPKCS1v15 : PublicKey → CryptoHash → Bytes → Bytes → Bool
  parseUncompressedPublicKey : Curve → Bytes → Option Point
  ecdsaVerify : Point → Bytes → Nat → Nat → Bool
  ed25519Verify : Bytes → Bytes → Bytes → Option Bool

def algRSASHA256 : UInt32 := 8
def algRSASHA512 : UInt32 := 10
def algECDSAP256SHA256 : UInt32 := 13
def algECDSAP384SHA384 : UInt32 := 14
def algED25519 : UInt32 := 15

/-- `ed25519.PublicKeySize`. -/
def ed25519PublicKeySize : Nat := 32

/-- `cryptoSupported`. -/
def cryptoSupported (alg : UInt32) : Bool :=
  alg = algRSASHA256 ∨ alg = algRSASHA512 ∨ alg = algECDSAP256SHA256 ∨
    alg = algECDSAP384SHA384 ∨ alg = algED25519

variable {Point : Type} (crypto : GoCrypto Point)

/-- The switch of `verifyECDSA` over the hash. -/
def ecdsaDigest (hash : CryptoHash) (data : Bytes) : Option Bytes :=
  match hash with
  | .sha256 => some (crypto.sha.sha256 data)
  | .sha384 => some (crypto.sha.sha384 data)
  | .sha512 => none

/-- `verifyECDSA`. -/
def verifyECDSA (curve : Curve) (hash : CryptoHash) (key data sig : Bytes) (width : Nat) :
    Option Bool :=
  if key.length ≠ 2 * width ∨ sig.length ≠ 2 * width then some false
  else
    match crypto.parseUncompressedPublicKey curve (4 :: key) with
    | none => some false
    | some pub =>
        match ecdsaDigest crypto hash data with
        | none => some false
        | some digest =>
            match sliceExpr sig 0 width, sliceExpr sig width sig.length with
            | some r, some s =>
                some (crypto.ecdsaVerify pub digest (bigEndian r) (bigEndian s))
            | _, _ => none

/-- `cryptoVerify`. -/
def cryptoVerify (alg : UInt32) (key data sig : Bytes) : Option Bool :=
  if alg = algRSASHA256 ∨ alg = algRSASHA512 then
    match parseDNSKEYRSA key with
    | none => none
    | some none => some false
    | some (some pub) =>
        let (digest, hash) :=
          if alg = algRSASHA256 then (crypto.sha.sha256 data, CryptoHash.sha256)
          else (crypto.sha.sha512 data, CryptoHash.sha512)
        some (crypto.verifyPKCS1v15 pub hash digest sig)
  else if alg = algECDSAP256SHA256 then verifyECDSA crypto .p256 .sha256 key data sig 32
  else if alg = algECDSAP384SHA384 then verifyECDSA crypto .p384 .sha384 key data sig 48
  else if alg = algED25519 then
    if key.length = ed25519PublicKeySize then crypto.ed25519Verify key data sig else some false
  else some false

/-- `cryptoDigest`. -/
def cryptoDigest (sha : Sha) (alg : Nat) (data : Bytes) : Option Bytes :=
  match alg with
  | 1 => some (sha.sha1 data)
  | 2 => some (sha.sha256 data)
  | 4 => some (sha.sha384 data)
  | 5 => some (sha.sha512 data)
  | _ => none

/-- `nsec3Hash`. -/
def nsec3Hash (sha : Sha) (salt : Bytes) (iterations : UInt32) (name : Bytes) : Option Bytes :=
  if iterations.toNat > 2 ^ 20 then none
  else some ((fun hash => sha.sha1 (hash ++ salt))^[iterations.toNat] (sha.sha1 (name ++ salt)))

/-! ## Imports of the guest -/

/-- `b2i`. -/
def b2i (value : Bool) : Int32 := if value then 1 else 0

/-- `readCopy`. -/
def readCopy (memory : Memory) (ptr n : UInt32) : Option Bytes :=
  memory.read ptr.toNat n.toNat

/-- The `crypto_supported` import. -/
def hostCryptoSupported (alg : UInt32) : Int32 := b2i (cryptoSupported alg)

/-- `hostCryptoVerify`. -/
def hostCryptoVerify (memory : Memory) (alg kp kn dp dn sp sn : UInt32) : Option Int32 :=
  match readCopy memory kp kn, readCopy memory dp dn, readCopy memory sp sn with
  | some key, some data, some sig => (cryptoVerify crypto alg key data sig).map b2i
  | _, _, _ => some 0

/-- The end of the two imports below: a digest is written, or 0 is returned. -/
def writeDigest (memory : Memory) (out : UInt32) (digest : Option Bytes) : Int32 × Memory :=
  match digest.bind (memory.write out.toNat) with
  | none => (0, memory)
  | some after => (1, after)

/-- `hostCryptoDigest`: what it returns, and the memory of the guest. -/
def hostCryptoDigest (sha : Sha) (memory : Memory) (alg ptr n out : UInt32) : Int32 × Memory :=
  match readCopy memory ptr n with
  | none => (0, memory)
  | some data => writeDigest memory out (cryptoDigest sha alg.toNat data)

/-- `hostNSEC3Hash`: what it returns, and the memory of the guest. -/
def hostNSEC3Hash (sha : Sha) (memory : Memory) (sp sn iters np nn out : UInt32) :
    Int32 × Memory :=
  match readCopy memory sp sn, readCopy memory np nn with
  | some salt, some name => writeDigest memory out (nsec3Hash sha salt iters name)
  | _, _ => (0, memory)

/-! ## Signatures -/

/-- A key, data and a signature which the algorithm of that number accepts, an RSA key in the
format of RFC 3110 and the halves of elliptic curves in that of RFC 6605. -/
inductive Valid : UInt32 → Bytes → Bytes → Bytes → Prop where
  | rsaSha256 {key data sig : Bytes} {pub : PublicKey} (encodes : Encodes key pub)
      (accepted : crypto.verifyPKCS1v15 pub .sha256 (crypto.sha.sha256 data) sig = true) :
      Valid 8 key data sig
  | rsaSha512 {key data sig : Bytes} {pub : PublicKey} (encodes : Encodes key pub)
      (accepted : crypto.verifyPKCS1v15 pub .sha512 (crypto.sha.sha512 data) sig = true) :
      Valid 10 key data sig
  | ecdsaP256 {x y data r s : Bytes} {pub : Point} (coordinates : x.length = 32 ∧ y.length = 32)
      (halves : r.length = 32 ∧ s.length = 32)
      (point : crypto.parseUncompressedPublicKey .p256 (4 :: (x ++ y)) = some pub)
      (accepted : crypto.ecdsaVerify pub (crypto.sha.sha256 data) (bigEndian r) (bigEndian s) =
        true) :
      Valid 13 (x ++ y) data (r ++ s)
  | ecdsaP384 {x y data r s : Bytes} {pub : Point} (coordinates : x.length = 48 ∧ y.length = 48)
      (halves : r.length = 48 ∧ s.length = 48)
      (point : crypto.parseUncompressedPublicKey .p384 (4 :: (x ++ y)) = some pub)
      (accepted : crypto.ecdsaVerify pub (crypto.sha.sha384 data) (bigEndian r) (bigEndian s) =
        true) :
      Valid 14 (x ++ y) data (r ++ s)
  | ed25519 {key data sig : Bytes} (size : key.length = 32)
      (accepted : crypto.ed25519Verify key data sig = some true) :
      Valid 15 key data sig

/-- `ed25519.Verify` panics only at a key of another size. -/
def GoCrypto.Documented : Prop :=
  ∀ key data sig, key.length = ed25519PublicKeySize → (crypto.ed25519Verify key data sig).isSome

variable {crypto}

/-- The parts of an elliptic curve signature, of the width of the curve. -/
def EcdsaParts (crypto : GoCrypto Point) (curve : Curve) (digest key sig : Bytes) (width : Nat) :
    Prop :=
  ∃ x y r s pub, key = x ++ y ∧ sig = r ++ s ∧ (x.length = width ∧ y.length = width) ∧
    (r.length = width ∧ s.length = width) ∧
    crypto.parseUncompressedPublicKey curve (4 :: (x ++ y)) = some pub ∧
    crypto.ecdsaVerify pub digest (bigEndian r) (bigEndian s) = true

/-- Bytes of twice a width are two halves. -/
theorem exists_halves {data : Bytes} {width : Nat} (size : data.length = 2 * width) :
    ∃ first second, data = first ++ second ∧ first.length = width ∧ second.length = width := by
  refine ⟨data.take width, data.drop width, (List.take_append_drop width data).symm, ?_, ?_⟩
  · rw [List.length_take]
    omega
  · rw [List.length_drop]
    omega

theorem sliceExpr_halves {r s : Bytes} {width : Nat} (size : r.length = width) :
    sliceExpr (r ++ s) 0 width = some r ∧ sliceExpr (r ++ s) width (r ++ s).length = some s := by
  subst size
  have front := sliceExpr_append [] r s
  rw [List.nil_append, List.length_nil, Nat.zero_add] at front
  exact ⟨front, sliceExpr_end r s⟩

/-- `verifyECDSA` returns, and accepts what has the parts. -/
theorem verifyECDSA_spec (curve : Curve) {hash : CryptoHash} {digest : Bytes}
    (key data sig : Bytes) (width : Nat)
    (hashed : ecdsaDigest crypto hash data = some digest) :
    ∃ accepted, verifyECDSA crypto curve hash key data sig width = some accepted ∧
      (accepted = true ↔ EcdsaParts crypto curve digest key sig width) := by
  by_cases sizes : key.length ≠ 2 * width ∨ sig.length ≠ 2 * width
  · refine ⟨false, by rw [verifyECDSA, if_pos sizes], ?_⟩
    simp only [Bool.false_eq_true, false_iff]
    rintro ⟨x, y, r, s, pub, rfl, rfl, coordinates, halves, -⟩
    simp only [List.length_append] at sizes
    omega
  · obtain ⟨x, y, rfl, coordinates⟩ := exists_halves (show key.length = 2 * width by omega)
    obtain ⟨r, s, rfl, halves⟩ := exists_halves (show sig.length = 2 * width by omega)
    have slices := sliceExpr_halves (s := s) halves.1
    rw [verifyECDSA, if_neg sizes]
    cases point : crypto.parseUncompressedPublicKey curve (4 :: (x ++ y)) with
    | none =>
        refine ⟨false, rfl, ?_⟩
        simp only [Bool.false_eq_true, false_iff]
        rintro ⟨x', y', r', s', pub, same, -, -, -, point', -⟩
        rw [← same, point] at point'
        simp at point'
    | some pub =>
        dsimp only
        rw [hashed, slices.1, slices.2]
        refine ⟨_, rfl, ?_⟩
        constructor
        · intro accepted
          exact ⟨x, y, r, s, pub, rfl, rfl, coordinates, halves, point, accepted⟩
        · rintro ⟨x', y', r', s', pub', sameKey, sameSig, -, halves', point', accepted⟩
          rw [← sameKey, point, Option.some.injEq] at point'
          obtain ⟨rfl, rfl⟩ := List.append_inj sameSig (halves.1.trans halves'.1.symm)
          rwa [point']

/-- A verdict over an RSA key is given for every byte string, and accepts an encoded key. -/
theorem rsa_spec (key : Bytes) (check : PublicKey → Bool) :
    ∃ accepted, (parseDNSKEYRSA key).map (fun parsed => parsed.elim false check) = some accepted ∧
      (accepted = true ↔ ∃ pub, Encodes key pub ∧ check pub = true) := by
  have refused (parsed : parseDNSKEYRSA key = some none) :
      ¬ ∃ pub, Encodes key pub ∧ check pub = true := by
    rintro ⟨pub, encodes, -⟩
    rw [parseDNSKEYRSA_of_encodes encodes] at parsed
    simp at parsed
  cases parsed : parseDNSKEYRSA key with
  | none => exact absurd parsed (parseDNSKEYRSA_ne_none key)
  | some result =>
      refine ⟨result.elim false check, rfl, ?_⟩
      cases result with
      | none => simpa using refused parsed
      | some value =>
          constructor
          · intro accepted
            exact ⟨value, encodes_of_parseDNSKEYRSA parsed, accepted⟩
          · rintro ⟨pub, encodes, accepted⟩
            rw [parseDNSKEYRSA_of_encodes encodes, Option.some.injEq, Option.some.injEq] at parsed
            rwa [← parsed]

theorem cryptoVerify_rsaSha256 (key data sig : Bytes) :
    cryptoVerify crypto 8 key data sig =
      (parseDNSKEYRSA key).map fun parsed => parsed.elim false fun pub =>
        crypto.verifyPKCS1v15 pub .sha256 (crypto.sha.sha256 data) sig := by
  rw [cryptoVerify, if_pos (by decide)]
  rcases parseDNSKEYRSA key with - | - | pub <;> rfl

theorem cryptoVerify_rsaSha512 (key data sig : Bytes) :
    cryptoVerify crypto 10 key data sig =
      (parseDNSKEYRSA key).map fun parsed => parsed.elim false fun pub =>
        crypto.verifyPKCS1v15 pub .sha512 (crypto.sha.sha512 data) sig := by
  rw [cryptoVerify, if_pos (by decide)]
  rcases parseDNSKEYRSA key with - | - | pub <;> rfl

theorem cryptoSupported_iff (alg : UInt32) :
    cryptoSupported alg = true ↔ alg ∈ [8, 10, 13, 14, 15] := by
  rw [cryptoSupported, decide_eq_true_iff]
  simp [algRSASHA256, algRSASHA512, algECDSAP256SHA256, algECDSAP384SHA384, algED25519]

theorem Valid.supported {alg : UInt32} {key data sig : Bytes}
    (valid : Valid crypto alg key data sig) : cryptoSupported alg = true := by
  cases valid <;> decide

/-- `cryptoVerify` returns, and accepts what is valid. -/
theorem cryptoVerify_spec (documented : crypto.Documented) (alg : UInt32) (key data sig : Bytes) :
    ∃ accepted, cryptoVerify crypto alg key data sig = some accepted ∧
      (accepted = true ↔ Valid crypto alg key data sig) := by
  by_cases supported : cryptoSupported alg = true
  · have numbers := (cryptoSupported_iff alg).mp supported
    simp only [List.mem_cons, List.not_mem_nil, or_false] at numbers
    obtain rfl | rfl | rfl | rfl | rfl := numbers
    · rw [cryptoVerify_rsaSha256]
      obtain ⟨accepted, result, meaning⟩ := rsa_spec key fun pub =>
        crypto.verifyPKCS1v15 pub .sha256 (crypto.sha.sha256 data) sig
      refine ⟨accepted, result, meaning.trans ⟨?_, ?_⟩⟩
      · rintro ⟨pub, encodes, accepted⟩
        exact .rsaSha256 encodes accepted
      · intro valid
        cases valid with
        | rsaSha256 encodes accepted => exact ⟨_, encodes, accepted⟩
    · rw [cryptoVerify_rsaSha512]
      obtain ⟨accepted, result, meaning⟩ := rsa_spec key fun pub =>
        crypto.verifyPKCS1v15 pub .sha512 (crypto.sha.sha512 data) sig
      refine ⟨accepted, result, meaning.trans ⟨?_, ?_⟩⟩
      · rintro ⟨pub, encodes, accepted⟩
        exact .rsaSha512 encodes accepted
      · intro valid
        cases valid with
        | rsaSha512 encodes accepted => exact ⟨_, encodes, accepted⟩
    · obtain ⟨accepted, result, meaning⟩ := verifyECDSA_spec .p256 key data sig 32
        (show ecdsaDigest crypto .sha256 data = _ from rfl)
      refine ⟨accepted, result, meaning.trans ⟨?_, ?_⟩⟩
      · rintro ⟨x, y, r, s, pub, rfl, rfl, coordinates, halves, point, accepted⟩
        exact .ecdsaP256 coordinates halves point accepted
      · intro valid
        cases valid with
        | ecdsaP256 coordinates halves point accepted =>
            exact ⟨_, _, _, _, _, rfl, rfl, coordinates, halves, point, accepted⟩
    · obtain ⟨accepted, result, meaning⟩ := verifyECDSA_spec .p384 key data sig 48
        (show ecdsaDigest crypto .sha384 data = _ from rfl)
      refine ⟨accepted, result, meaning.trans ⟨?_, ?_⟩⟩
      · rintro ⟨x, y, r, s, pub, rfl, rfl, coordinates, halves, point, accepted⟩
        exact .ecdsaP384 coordinates halves point accepted
      · intro valid
        cases valid with
        | ecdsaP384 coordinates halves point accepted =>
            exact ⟨_, _, _, _, _, rfl, rfl, coordinates, halves, point, accepted⟩
    · by_cases size : key.length = ed25519PublicKeySize
      · obtain ⟨accepted, result⟩ := Option.isSome_iff_exists.mp (documented key data sig size)
        refine ⟨accepted, (if_pos size).trans result, ?_⟩
        constructor
        · rintro rfl
          exact .ed25519 size result
        · intro valid
          cases valid with
          | ed25519 size accepts => simpa [result] using accepts
      · refine ⟨false, if_neg size, ?_⟩
        simp only [Bool.false_eq_true, false_iff]
        intro valid
        cases valid with
        | ed25519 fits accepts => exact size fits
  · refine ⟨false, ?_, ?_⟩
    · rw [cryptoSupported, decide_eq_true_iff] at supported
      simp only [not_or] at supported
      obtain ⟨rsa256, rsa512, p256, p384, ed25519⟩ := supported
      rw [cryptoVerify, if_neg (not_or.mpr ⟨rsa256, rsa512⟩), if_neg p256, if_neg p384,
        if_neg ed25519]
    · simp only [Bool.false_eq_true, false_iff]
      intro valid
      exact supported valid.supported

end UnboundWasm.Host
