import UnboundWasm.Guest.HashStream

/-!
# Cryptography in the guest

The part of `backends/secalgo.c` that asks the host at once, over the memory that the guest and
the host share; the streaming hashes are in `Guest.HashStream`.  An `int` of the guest arrives
at the host as the `uint32` of the same bits, and `size_t` has 32 bits.
-/

namespace UnboundWasm.Guest

open UnboundWasm.Lib UnboundWasm.Host

/-- `nsec3_hash_algo_size_supported`. -/
def nsec3HashAlgoSizeSupported (id : Int32) : Nat := if id = 1 then 20 else 0

/-- `secalgo_nsec3_hash`: what it returns, and the memory. -/
def secalgoNsec3Hash (sha : Sha) (memory : Memory) (algo : Int32) (buf len res : UInt32) :
    Bool × Memory :=
  if algo ≠ 1 ∨ len > int32Max then (false, memory)
  else
    let (result, after) := hostNSEC3Hash sha memory 0 0 0 buf len res
    (result ≠ 0, after)

/-- `secalgo_hash_sha256`, which returns nothing. -/
def secalgoHashSha256 (sha : Sha) (memory : Memory) (buf len res : UInt32) : Memory :=
  if len ≤ int32Max then (hostCryptoDigest sha memory 2 buf len res).2 else memory

/-- `ds_digest_size_supported`. -/
def dsDigestSizeSupported (alg : Int32) : Nat :=
  if alg = 1 then 20 else if alg = 2 then 32 else if alg = 4 then 48 else 0

/-- `secalgo_ds_digest`: what it returns, and the memory. -/
def secalgoDsDigest (sha : Sha) (memory : Memory) (alg : Int32) (buf len res : UInt32) :
    Bool × Memory :=
  if dsDigestSizeSupported alg = 0 ∨ len > int32Max then (false, memory)
  else
    let (result, after) := hostCryptoDigest sha memory alg.toUInt32 buf len res
    (result ≠ 0, after)

/-- `dnskey_algo_id_is_supported`. -/
def dnskeyAlgoIdIsSupported (id : Int32) : Bool := hostCryptoSupported id.toUInt32 ≠ 0

/-- The values of `enum sec_status` that are returned here. -/
inductive SecStatus where
  | unchecked
  | bogus
  | secure
  deriving DecidableEq, Repr

/-- An `sldns_buffer`: where it begins, and its limit. -/
structure SldnsBuffer where
  start : UInt32
  limit : UInt32
  deriving DecidableEq, Repr

/-- What `verify_canonrrset` returns, and the text at `*reason`. -/
structure Verdict where
  status : SecStatus
  reason : Option String
  deriving DecidableEq, Repr

/-- `verify_canonrrset`, which has no result when the host panics. -/
def verifyCanonrrset {Point : Type} (crypto : GoCrypto Point) (memory : Memory)
    (buf : SldnsBuffer) (algo : Int32) (sig siglen key keylen : UInt32) : Option Verdict :=
  let len := buf.limit
  if len > int32Max ∨ keylen > int32Max ∨ siglen > int32Max then
    some ⟨.unchecked, some "crypto input too large"⟩
  else if hostCryptoSupported algo.toUInt32 = 0 then
    some ⟨.unchecked, some "unsupported DNSKEY algorithm"⟩
  else
    (hostCryptoVerify crypto memory algo.toUInt32 key keylen buf.start len sig siglen).map
      fun result =>
        if result ≠ 0 then ⟨.secure, none⟩ else ⟨.bogus, some "signature crypto failed"⟩

end UnboundWasm.Guest
