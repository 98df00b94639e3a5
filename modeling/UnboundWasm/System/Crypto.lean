import UnboundWasm.Guest.SecAlgo

/-!
# Cryptography between guest and host

The validator of the guest relies on the host three times over: for the size of a digest that
is written into a buffer of its own, for a hash that is iterated on either side, and for the
verdict over a signature.
-/

namespace UnboundWasm.System

open UnboundWasm.Lib UnboundWasm.Guest UnboundWasm.Host

/-- The hash functions return arrays of these sizes. -/
structure Sized (sha : Sha) : Prop where
  sha1 : ∀ data, (sha.sha1 data).length = 20
  sha256 : ∀ data, (sha.sha256 data).length = 32
  sha384 : ∀ data, (sha.sha384 data).length = 48

/-- The SHA-1 digests of `[1, 2, 7]`, of the first with a 7 behind it, and of the second. -/
def firstHash : Bytes :=
  [153, 99, 34, 221, 224, 241, 112, 20, 51, 127, 244, 245, 126, 19, 205, 188, 123, 82, 17, 40]

def secondHash : Bytes :=
  [83, 117, 232, 235, 127, 71, 91, 148, 240, 178, 152, 81, 139, 195, 59, 191, 21, 169, 205, 120]

def thirdHash : Bytes :=
  [128, 164, 194, 92, 254, 20, 52, 117, 239, 218, 76, 183, 51, 221, 45, 196, 241, 129, 94, 118]

/-- The SHA-256 digest of `[1, 2]`. -/
def shortHash : Bytes :=
  [161, 40, 113, 254, 226, 16, 251, 134, 25, 41, 30, 174, 161, 148, 88, 28,
    189, 37, 49, 228, 178, 55, 89, 210, 37, 246, 128, 105, 35, 246, 50, 34]

/-- A table of digests, with zeros where it has no entry. -/
def tabled : Sha where
  sha1 := fun data =>
    if data = [1, 2, 7] then firstHash
    else if data = firstHash ++ [7] then secondHash
    else if data = secondHash ++ [7] then thirdHash
    else List.replicate 20 0
  sha256 := fun data => if data = [1, 2] then shortHash else List.replicate 32 0
  sha384 := fun _ => List.replicate 48 0
  sha512 := fun _ => List.replicate 64 0

theorem sized_tabled : Sized tabled where
  sha1 := fun data => by
    simp only [tabled]
    split_ifs <;> rfl
  sha256 := fun data => by
    simp only [tabled]
    split_ifs <;> rfl
  sha384 := fun _ => List.length_replicate

/-! ## Digests -/

/-- The hash of a DS digest type, by the numbers of RFC 8624. -/
def dsHash (sha : Sha) (alg : Int32) : Option (Bytes → Bytes) :=
  if alg = 1 then some sha.sha1
  else if alg = 2 then some sha.sha256
  else if alg = 4 then some sha.sha384
  else none

/-- The hash of an NSEC3 record, by the numbers of RFC 5155. -/
def nsec3Function (sha : Sha) (algo : Int32) : Option (Bytes → Bytes) :=
  if algo = 1 then some sha.sha1 else none

/-- A digest of `len` bytes at `buf` is at `res`, where it fills just the size that was
announced, or nothing is done. -/
structure Filled (memory : Memory) (buf len res : UInt32) (size : Nat)
    (hash : Option (Bytes → Bytes)) (done : Bool) (after : Memory) : Prop where
  announced : size ≠ 0 ↔ hash.isSome
  done_iff : done = true ↔ size ≠ 0 ∧ len.toNat < 2 ^ 31 ∧ buf.toNat + len.toNat ≤ memory.size ∧
    res.toNat + size ≤ memory.size
  digest : done = true → ∃ function ∈ hash, ∃ data, memory.read buf.toNat len.toNat = some data ∧
    after.read res.toNat size = some (function data)
  frame : ∀ address, ¬ (res.toNat ≤ address ∧ address < res.toNat + size) →
    after.byte address = memory.byte address
  untouched : done = false → after = memory

/-- An import that hashes what it reads. -/
def hashed (memory : Memory) (function : Bytes → Bytes) (buf len res : UInt32) : Int32 × Memory :=
  match readCopy memory buf len with
  | none => (0, memory)
  | some data => writeDigest memory res (some (function data))

section

variable {sha : Sha} {memory : Memory} {buf len res : UInt32} {function : Bytes → Bytes}
  {size : Nat}

theorem hostCryptoDigest_eq {alg : UInt32}
    (selected : ∀ data, cryptoDigest sha alg.toNat data = some (function data)) :
    hostCryptoDigest sha memory alg buf len res = hashed memory function buf len res := by
  rw [hostCryptoDigest, hashed]
  cases readCopy memory buf len with
  | none => rfl
  | some data => simp only [selected]

theorem hostNSEC3Hash_eq :
    hostNSEC3Hash sha memory 0 0 0 buf len res = hashed memory sha.sha1 buf len res := by
  have salt : readCopy memory 0 0 = some [] := by
    simp [readCopy, Memory.read]
  rw [hostNSEC3Hash, hashed, salt]
  cases readCopy memory buf len with
  | none => rfl
  | some data => simp [nsec3Hash]

theorem lt_of_le_int32Max (short : len ≤ int32Max) : len.toNat < 2 ^ 31 := by
  have bound := UInt32.le_iff_toNat_le.mp short
  have value : int32Max.toNat = 2147483647 := by decide
  omega

theorem le_int32Max_of_lt (short : len.toNat < 2 ^ 31) : len ≤ int32Max := by
  have value : int32Max.toNat = 2147483647 := by decide
  apply UInt32.le_iff_toNat_le.mpr
  omega

theorem Filled.refused {hash : Option (Bytes → Bytes)} (announced : size ≠ 0 ↔ hash.isSome)
    (closed : size = 0 ∨ len > int32Max) : Filled memory buf len res size hash false memory where
  announced := announced
  done_iff := by
    simp only [Bool.false_eq_true, false_iff]
    rintro ⟨positive, short, -⟩
    cases closed with
    | inl zero => exact positive zero
    | inr long => exact UInt32.not_lt.mpr (le_int32Max_of_lt short) long
  digest := by simp
  frame := fun _ _ => rfl
  untouched := fun _ => rfl

theorem filled_hashed (positive : size ≠ 0) (sized : ∀ data, (function data).length = size)
    (short : len ≤ int32Max) :
    Filled memory buf len res size (some function)
      (decide ((hashed memory function buf len res).1 ≠ 0))
      (hashed memory function buf len res).2 := by
  cases loaded : readCopy memory buf len with
  | none =>
      have outside : ¬ buf.toNat + len.toNat ≤ memory.size := by
        intro inside
        simp [readCopy, Memory.read, inside] at loaded
      simp only [hashed, loaded]
      exact ⟨by simp [positive], by simp [outside], by simp, fun _ _ => rfl, fun _ => rfl⟩
  | some data =>
      have inside := (Memory.read_eq_some_iff.mp loaded).1
      simp only [hashed, loaded, writeDigest, Option.bind_some]
      cases written : memory.write res.toNat (function data) with
      | none =>
          have outside : ¬ res.toNat + size ≤ memory.size := by
            intro fits
            rw [← sized data] at fits
            obtain ⟨after, found⟩ := Memory.write_isSome fits
            rw [written] at found
            simp at found
          exact ⟨by simp [positive], by simp [outside], by simp, fun _ _ => rfl, fun _ => rfl⟩
      | some after =>
          have fits := Memory.inside_of_write written
          have readBack := Memory.read_write written
          rw [sized data] at fits readBack
          refine ⟨by simp [positive], ?_, ?_, ?_, by simp⟩
          · simpa [positive, inside, fits] using lt_of_le_int32Max short
          · intro _
            exact ⟨function, rfl, data, loaded, readBack⟩
          · intro address outside
            rw [Memory.byte_of_write written, sized data, if_neg outside]

/-- A digest type that both tables know. -/
theorem filled_dsDigest {alg : Int32}
    (selected : ∀ data, cryptoDigest sha alg.toUInt32.toNat data = some (function data))
    (table : dsHash sha alg = some function) (positive : dsDigestSizeSupported alg ≠ 0)
    (sized : ∀ data, (function data).length = dsDigestSizeSupported alg) :
    Filled memory buf len res (dsDigestSizeSupported alg) (dsHash sha alg)
      (secalgoDsDigest sha memory alg buf len res).1
      (secalgoDsDigest sha memory alg buf len res).2 := by
  rw [table]
  by_cases long : len > int32Max
  · rw [secalgoDsDigest, if_pos (.inr long)]
    exact .refused (by simp [positive]) (.inr long)
  · rw [secalgoDsDigest, if_neg (not_or.mpr ⟨positive, long⟩), hostCryptoDigest_eq selected]
    exact filled_hashed positive sized (UInt32.not_lt.mp long)

end

/-- Every digest that libunbound has written for it fills exactly the size that its tables
announce, with the hash of the bytes it handed over, and no other byte of the memory changes.
A type that the guest does not announce is not hashed, though the host has one more selector. -/
theorem digests_fill_announced_size {sha : Sha} (sized : Sized sha) (memory : Memory)
    (buf len res : UInt32) :
    (∀ alg, Filled memory buf len res (dsDigestSizeSupported alg) (dsHash sha alg)
      (secalgoDsDigest sha memory alg buf len res).1
      (secalgoDsDigest sha memory alg buf len res).2) ∧
    (∀ algo, Filled memory buf len res (nsec3HashAlgoSizeSupported algo) (nsec3Function sha algo)
      (secalgoNsec3Hash sha memory algo buf len res).1
      (secalgoNsec3Hash sha memory algo buf len res).2) ∧
    ∃ done, Filled memory buf len res 32 (some sha.sha256) done
      (secalgoHashSha256 sha memory buf len res) := by
  refine ⟨?_, ?_, ?_⟩
  · intro alg
    by_cases sha1 : alg = 1
    · subst sha1
      exact filled_dsDigest (fun _ => rfl) rfl (by decide) sized.sha1
    by_cases sha256 : alg = 2
    · subst sha256
      exact filled_dsDigest (fun _ => rfl) rfl (by decide) sized.sha256
    by_cases sha384 : alg = 4
    · subst sha384
      exact filled_dsDigest (fun _ => rfl) rfl (by decide) sized.sha384
    have size : dsDigestSizeSupported alg = 0 := by
      simp [dsDigestSizeSupported, sha1, sha256, sha384]
    have hash : dsHash sha alg = none := by
      simp [dsHash, sha1, sha256, sha384]
    rw [secalgoDsDigest, if_pos (.inl size), size, hash]
    exact .refused (by simp) (.inl rfl)
  · intro algo
    by_cases closed : algo ≠ 1 ∨ len > int32Max
    · rw [secalgoNsec3Hash, if_pos closed]
      apply Filled.refused
      · by_cases known : algo = 1 <;> simp [nsec3HashAlgoSizeSupported, nsec3Function, known]
      · exact closed.imp_left fun unknown => if_neg unknown
    · rw [not_or, not_not] at closed
      obtain ⟨rfl, short⟩ := closed
      rw [secalgoNsec3Hash, if_neg (by simp [short]), hostNSEC3Hash_eq]
      exact filled_hashed (by decide) sized.sha1 (UInt32.not_lt.mp short)
  · by_cases short : len ≤ int32Max
    · rw [secalgoHashSha256, if_pos short, hostCryptoDigest_eq fun _ => rfl]
      exact ⟨_, filled_hashed (by decide) sized.sha256 short⟩
    · rw [secalgoHashSha256, if_neg short]
      exact ⟨false, .refused (by simp) (.inr (UInt32.not_le.mp short))⟩

theorem digests_fill_announced_size_tabled :
    (secalgoDsDigest tabled (.ofBytes 64 [1, 2]) 2 0 2 8).1 = true ∧
      (secalgoDsDigest tabled (.ofBytes 64 [1, 2]) 2 0 2 8).2.read 8 32 = some shortHash := by
  have filled := (digests_fill_announced_size sized_tabled (.ofBytes 64 [1, 2]) 0 2 8).1 2
  have done := filled.done_iff.mpr (by decide)
  refine ⟨done, ?_⟩
  obtain ⟨function, known, data, loaded, stored⟩ := filled.digest done
  cases known
  cases loaded
  exact stored

/-! ## The iterated hash -/

/-- One iteration of the caller of `secalgo_nsec3_hash`: it hands over the data in a buffer. -/
def nsec3Round (sha : Sha) (buf res : UInt32) (data : Bytes) (memory : Memory) : Option Memory :=
  (memory.write buf.toNat data).bind fun memory =>
    let (done, after) := secalgoNsec3Hash sha memory 1 buf (.ofNat data.length) res
    if done then some after else none

/-- The loop of the caller, by the comment on `secalgo_nsec3_hash`: the name and the salt are
handed over concatenated, then the last result and the salt, once per iteration. -/
def nsec3Rounds (sha : Sha) (salt name : Bytes) (buf res : UInt32) (memory : Memory) :
    Nat → Option Memory
  | 0 => nsec3Round sha buf res (name ++ salt) memory
  | iterations + 1 =>
      (nsec3Rounds sha salt name buf res memory iterations).bind fun memory =>
        (memory.read res.toNat 20).bind fun hash => nsec3Round sha buf res (hash ++ salt) memory

/-- `IH(salt, x, k)` of RFC 5155. -/
def iteratedHash (sha : Sha) (salt name : Bytes) : Nat → Bytes
  | 0 => sha.sha1 (name ++ salt)
  | iterations + 1 => sha.sha1 (iteratedHash sha salt name iterations ++ salt)

section

variable {sha : Sha} {memory : Memory} {buf res : UInt32}

theorem nsec3Hash_eq_iteratedHash (salt name : Bytes) {iterations : UInt32}
    (few : iterations.toNat ≤ 2 ^ 20) :
    nsec3Hash sha salt iterations name =
      some (iteratedHash sha salt name iterations.toNat) := by
  have loop (count : Nat) : (fun hash => sha.sha1 (hash ++ salt))^[count]
      (sha.sha1 (name ++ salt)) = iteratedHash sha salt name count := by
    induction count with
    | zero => rfl
    | succ count hypothesis => rw [Function.iterate_succ_apply', hypothesis, iteratedHash]
  rw [nsec3Hash, if_neg (by omega), loop]

theorem length_iteratedHash (sized : Sized sha) (salt name : Bytes) (iterations : Nat) :
    (iteratedHash sha salt name iterations).length = 20 := by
  cases iterations with
  | zero => exact sized.sha1 _
  | succ iterations => exact sized.sha1 _

theorem nsec3Round_spec (sized : Sized sha) {data : Bytes} (short : data.length < 2 ^ 31)
    (inside : buf.toNat + data.length ≤ memory.size) (room : res.toNat + 20 ≤ memory.size) :
    ∃ after, nsec3Round sha buf res data memory = some after ∧ after.size = memory.size ∧
      after.read res.toNat 20 = some (sha.sha1 data) := by
  obtain ⟨filled, written⟩ := Memory.write_isSome inside
  have size := Memory.size_of_write written
  have length : (UInt32.ofNat data.length).toNat = data.length := by
    rw [UInt32.toNat_ofNat']
    omega
  have loaded : readCopy filled buf (.ofNat data.length) = some data := by
    rw [readCopy, length]
    exact Memory.read_write written
  rw [← size, ← sized.sha1 data] at room
  obtain ⟨after, stored⟩ := Memory.write_isSome room
  have readBack := Memory.read_write stored
  rw [sized.sha1 data] at readBack
  refine ⟨after, ?_, (Memory.size_of_write stored).trans size, readBack⟩
  have fits : ¬ int32Max < UInt32.ofNat data.length := by
    apply UInt32.not_lt.mpr
    apply le_int32Max_of_lt
    rwa [length]
  simp [nsec3Round, written, secalgoNsec3Hash, fits, hostNSEC3Hash_eq, hashed, loaded,
    writeDigest, stored]

/-- By induction on the iterations: each of them finds the last hash where it left it. -/
theorem nsec3Rounds_spec (sized : Sized sha) {salt name : Bytes}
    (short : max name.length 20 + salt.length < 2 ^ 31)
    (inside : buf.toNat + (max name.length 20 + salt.length) ≤ memory.size)
    (room : res.toNat + 20 ≤ memory.size) (iterations : Nat) :
    ∃ after, nsec3Rounds sha salt name buf res memory iterations = some after ∧
      after.size = memory.size ∧
      after.read res.toNat 20 = some (iteratedHash sha salt name iterations) := by
  induction iterations with
  | zero =>
      have length : (name ++ salt).length = name.length + salt.length := List.length_append
      exact nsec3Round_spec sized (by omega) (by omega) room
  | succ iterations hypothesis =>
      obtain ⟨before, rounds, size, last⟩ := hypothesis
      let data := iteratedHash sha salt name iterations ++ salt
      have length : data.length = 20 + salt.length := by
        rw [List.length_append, length_iteratedHash sized]
      have fits : buf.toNat + data.length ≤ before.size := by omega
      rw [← size] at room
      obtain ⟨after, round, same, hash⟩ := nsec3Round_spec sized (by omega) fits room
      refine ⟨after, ?_, same.trans size, hash⟩
      simpa [nsec3Rounds, rounds, last] using round

end

/-- Iterating on the side of the guest, one import for each round, and letting the host iterate
give the same hash, which is that of RFC 5155. -/
theorem nsec3_rounds_agree {sha : Sha} (sized : Sized sha) (memory : Memory) (salt name : Bytes)
    (buf res : UInt32) (iterations : UInt32) (few : iterations.toNat ≤ 2 ^ 20)
    (short : max name.length 20 + salt.length < 2 ^ 31)
    (inside : buf.toNat + (max name.length 20 + salt.length) ≤ memory.size)
    (room : res.toNat + 20 ≤ memory.size) :
    ∃ after, nsec3Rounds sha salt name buf res memory iterations.toNat = some after ∧
      after.read res.toNat 20 = some (iteratedHash sha salt name iterations.toNat) ∧
      ∀ (other : Memory) (sp np out : UInt32),
        readCopy other sp (.ofNat salt.length) = some salt →
        readCopy other np (.ofNat name.length) = some name →
        out.toNat + 20 ≤ other.size →
        ∃ otherAfter,
          hostNSEC3Hash sha other sp (.ofNat salt.length) iterations np (.ofNat name.length) out =
            (1, otherAfter) ∧
          otherAfter.read out.toNat 20 = after.read res.toNat 20 := by
  obtain ⟨after, rounds, -, hash⟩ := nsec3Rounds_spec sized short inside room iterations.toNat
  refine ⟨after, rounds, hash, ?_⟩
  intro other sp np out salted named fits
  have length := length_iteratedHash sized salt name iterations.toNat
  rw [← length] at fits
  obtain ⟨otherAfter, stored⟩ := Memory.write_isSome fits
  have readBack := Memory.read_write stored
  rw [length] at readBack
  refine ⟨otherAfter, ?_, readBack.trans hash.symm⟩
  simp [hostNSEC3Hash, salted, named, nsec3Hash_eq_iteratedHash salt name few, writeDigest, stored]

theorem nsec3_rounds_agree_tabled :
    ∃ after, nsec3Rounds tabled [7] [1, 2] 0 64 (.ofBytes 128 []) 2 = some after ∧
      after.read 64 20 = some thirdHash := by
  obtain ⟨after, rounds, hash, -⟩ := nsec3_rounds_agree sized_tabled (.ofBytes 128 []) [7] [1, 2]
    0 64 2 (by decide) (by decide) (by decide) (by decide)
  exact ⟨after, rounds, hash⟩

/-! ## Signatures -/

theorem dnskeyAlgoIdIsSupported_iff (algo : Int32) :
    dnskeyAlgoIdIsSupported algo = true ↔ algo ∈ [8, 10, 13, 14, 15] := by
  have numbers : algo.toUInt32 ∈ [8, 10, 13, 14, 15] ↔ algo ∈ [8, 10, 13, 14, 15] := by
    simp only [List.mem_cons, List.not_mem_nil, or_false, ← Int32.toBitVec_inj,
      ← UInt32.toBitVec_inj]
    rfl
  rw [← numbers, ← cryptoSupported_iff, dnskeyAlgoIdIsSupported, hostCryptoSupported]
  cases cryptoSupported algo.toUInt32 <;> decide

/-- The bytes of a signature to be checked, as the guest holds them. -/
structure Presented (memory : Memory) (buf : SldnsBuffer) (sig siglen key keylen : UInt32)
    (keyBytes data sigBytes : Bytes) : Prop where
  key : memory.read key.toNat keylen.toNat = some keyBytes
  data : memory.read buf.start.toNat buf.limit.toNat = some data
  sig : memory.read sig.toNat siglen.toNat = some sigBytes

theorem hostCryptoVerify_spec {Point : Type} {crypto : GoCrypto Point}
    (documented : crypto.Documented) (memory : Memory) (alg : UInt32) (buf : SldnsBuffer)
    (sig siglen key keylen : UInt32) :
    ∃ accepted,
      hostCryptoVerify crypto memory alg key keylen buf.start buf.limit sig siglen =
        some (b2i accepted) ∧
      (accepted = true ↔ ∃ keyBytes data sigBytes,
        Presented memory buf sig siglen key keylen keyBytes data sigBytes ∧
        Valid crypto alg keyBytes data sigBytes) := by
  rw [hostCryptoVerify]
  split
  next keyBytes data sigBytes keyRead dataRead sigRead =>
    obtain ⟨accepted, result, meaning⟩ := cryptoVerify_spec documented alg keyBytes data sigBytes
    refine ⟨accepted, by rw [result, Option.map_some], meaning.trans ⟨?_, ?_⟩⟩
    · intro valid
      exact ⟨keyBytes, data, sigBytes, ⟨keyRead, dataRead, sigRead⟩, valid⟩
    · rintro ⟨keyBytes', data', sigBytes', presented, valid⟩
      obtain rfl := Option.some.inj (keyRead.symm.trans presented.key)
      obtain rfl := Option.some.inj (dataRead.symm.trans presented.data)
      obtain rfl := Option.some.inj (sigRead.symm.trans presented.sig)
      exact valid
  next unreadable =>
    refine ⟨false, rfl, ?_⟩
    simp only [Bool.false_eq_true, false_iff]
    rintro ⟨keyBytes, data, sigBytes, presented, -⟩
    exact unreadable keyBytes data sigBytes presented.key presented.data presented.sig

/-- The host panics over no key and no signature, and the guest takes a set of records to be
secure only if the algorithm of the key accepts just the bytes that the guest presented.
What the host cannot check is neither secure nor bogus. -/
theorem validation_is_exact {Point : Type} {crypto : GoCrypto Point}
    (documented : crypto.Documented) (memory : Memory) (buf : SldnsBuffer) (algo : Int32)
    (sig siglen key keylen : UInt32) :
    (dnskeyAlgoIdIsSupported algo = true ↔ algo ∈ [8, 10, 13, 14, 15]) ∧
    ∃ verdict, verifyCanonrrset crypto memory buf algo sig siglen key keylen = some verdict ∧
      (verdict.status = .unchecked ↔ ¬ dnskeyAlgoIdIsSupported algo ∨
        int32Max < buf.limit ∨ int32Max < keylen ∨ int32Max < siglen) ∧
      (verdict.status = .secure ↔ (buf.limit ≤ int32Max ∧ keylen ≤ int32Max ∧ siglen ≤ int32Max) ∧
        ∃ keyBytes data sigBytes,
          Presented memory buf sig siglen key keylen keyBytes data sigBytes ∧
          Valid crypto algo.toUInt32 keyBytes data sigBytes) ∧
      (verdict.reason = none ↔ verdict.status = .secure) := by
  refine ⟨dnskeyAlgoIdIsSupported_iff algo, ?_⟩
  by_cases large : buf.limit > int32Max ∨ keylen > int32Max ∨ siglen > int32Max
  · refine ⟨_, if_pos large, by simpa using .inr large, ?_, by simp⟩
    simp only [reduceCtorEq, false_iff, not_and]
    rintro ⟨limitFits, keyFits, sigFits⟩
    rcases large with long | long | long
    · exact absurd limitFits (UInt32.not_le.mpr long)
    · exact absurd keyFits (UInt32.not_le.mpr long)
    · exact absurd sigFits (UInt32.not_le.mpr long)
  have sizes : buf.limit ≤ int32Max ∧ keylen ≤ int32Max ∧ siglen ≤ int32Max := by
    simpa [UInt32.not_lt] using large
  by_cases unsupported : hostCryptoSupported algo.toUInt32 = 0
  · refine ⟨_, (if_neg large).trans (if_pos unsupported), ?_, ?_, by simp⟩
    · simp [dnskeyAlgoIdIsSupported, unsupported]
    · simp only [reduceCtorEq, false_iff]
      rintro ⟨-, keyBytes, data, sigBytes, -, valid⟩
      simp [hostCryptoSupported, valid.supported, b2i] at unsupported
  have supported : dnskeyAlgoIdIsSupported algo = true := by
    simpa [dnskeyAlgoIdIsSupported] using unsupported
  obtain ⟨accepted, result, meaning⟩ :=
    hostCryptoVerify_spec documented memory algo.toUInt32 buf sig siglen key keylen
  rw [verifyCanonrrset, if_neg large, if_neg unsupported, result, ← meaning]
  refine ⟨_, rfl, ?_⟩
  cases accepted with
  | false => simp [b2i, supported, UInt32.not_lt, sizes]
  | true => simp [b2i, supported, UInt32.not_lt, sizes]

/-- An Ed25519 key, and its signature over no data. -/
def signer : Bytes :=
  [215, 90, 152, 1, 130, 177, 10, 183, 213, 75, 254, 211, 201, 100, 7, 58,
    14, 225, 114, 243, 218, 166, 35, 37, 175, 2, 26, 104, 247, 7, 81, 26]

def signed : Bytes :=
  [229, 86, 67, 0, 195, 96, 172, 114, 144, 134, 226, 204, 128, 110, 130, 138,
    132, 135, 127, 30, 184, 229, 217, 116, 216, 115, 224, 101, 34, 73, 1, 85,
    95, 184, 130, 21, 144, 163, 59, 172, 198, 30, 57, 112, 28, 249, 180, 107,
    210, 91, 245, 240, 89, 91, 190, 36, 101, 81, 65, 67, 142, 122, 16, 11]

/-- A table of verdicts, with nothing accepted where it has no entry. -/
def verdicts : GoCrypto Unit where
  sha := tabled
  verifyPKCS1v15 := fun _ _ _ _ => false
  parseUncompressedPublicKey := fun _ _ => none
  ecdsaVerify := fun _ _ _ _ => false
  ed25519Verify := fun key data sig =>
    if key.length = 32 then some (key = signer ∧ data = [] ∧ sig = signed) else none

theorem documented_verdicts : verdicts.Documented := by
  intro key data sig size
  rw [ed25519PublicKeySize] at size
  simp [verdicts, size]

theorem validation_is_exact_verdicts :
    ∃ verdict, verifyCanonrrset verdicts (.ofBytes 96 (signer ++ signed)) ⟨0, 0⟩ 15 32 64 0 32 =
      some verdict ∧ verdict.status = .secure := by
  obtain ⟨-, verdict, result, -, secure, -⟩ := validation_is_exact documented_verdicts
    (.ofBytes 96 (signer ++ signed)) ⟨0, 0⟩ 15 32 64 0 32
  refine ⟨verdict, result, secure.mpr ⟨by decide, signer, [], signed, ?_, ?_⟩⟩
  · exact ⟨by decide, by decide, by decide⟩
  · exact .ed25519 (by decide) (by decide)

end UnboundWasm.System
