import UnboundWasm.Guest.Result

/-!
# Outcomes as the host sees them

`result_cb`, `guest_result_get` and `pollResult` composed.  The callback leaves
its outcome in a slot and two heap blocks; whatever the guest does until the host
polls leaves those blocks alone; the host reads back exactly what was recorded.
-/

namespace UnboundWasm.Guest

open UnboundWasm.Lib UnboundWasm.Host

/-- The blocks of a slot hold in `later` what they hold in `before`. -/
structure Undisturbed (before later : Memory) (s : Slot) (whyLen : Nat) : Prop where
  packet : s.packetLen ≠ 0 → later.read s.packet s.packetLen = before.read s.packet s.packetLen
  why : s.whyBogus ≠ 0 →
    later.read s.whyBogus (whyLen + 1) = before.read s.whyBogus (whyLen + 1)

/-- The host's result buffer is an allocation of its own. -/
structure Buffer (memory : Memory) (s : Slot) (whyLen out : Nat) : Prop where
  inside : out + resultSize ≤ memory.size
  packet : s.packetLen ≠ 0 → Memory.Apart s.packet s.packetLen out resultSize
  why : s.whyBogus ≠ 0 → Memory.Apart s.whyBogus (whyLen + 1) out resultSize

/-- Writing the result buffer disturbs no block. -/
theorem Buffer.undisturbed {memory after : Memory} {s : Slot} {whyLen out : Nat} {data : Bytes}
    (buffer : Buffer memory s whyLen out) (written : memory.write out data = some after)
    (length : data.length = resultSize) : Undisturbed memory after s whyLen := by
  constructor
  · intro present
    apply Memory.read_write_of_disjoint written
    rw [length]
    exact buffer.packet present
  · intro present
    apply Memory.read_write_of_disjoint written
    rw [length]
    exact buffer.why present

theorem strlen_of_read {memory : Memory} {ptr : Nat} {text : Bytes}
    (loaded : memory.read ptr (text.length + 1) = some (text ++ [0])) (terminated : 0 ∉ text) :
    strlen memory ptr = some text.length := by
  have inside := (Memory.read_eq_some_iff.mp loaded).1
  have last : memory.byte (ptr + text.length) = 0 := by
    rw [Memory.byte_of_read loaded (by simp)]
    simp
  apply List.find?_range_eq_some.mpr
  constructor
  · exact decide_eq_true last
  · constructor
    · rw [List.mem_range]
      omega
    · intro index before
      have inText : memory.byte (ptr + index) = text[index] := by
        rw [Memory.byte_of_read loaded (by simp; omega)]
        exact List.getElem_append_left before
      have nonzero : text[index] ≠ 0 := by
        intro zero
        exact terminated (zero ▸ List.getElem_mem before)
      simp [inText, nonzero]

section Composition

variable {outcome : Outcome} {packetBlock whyBlock : Option Nat} {memory later : Memory}
  {s : Slot} {out : Nat}

theorem Outcome.Recorded.of_undisturbed
    (recorded : outcome.Recorded packetBlock whyBlock memory s)
    (undisturbed : Undisturbed memory later s (outcome.recordedWhy whyBlock).length) :
    outcome.Recorded packetBlock whyBlock later s :=
  { recorded with
    packet := fun present => (undisturbed.packet present).trans (recorded.packet present)
    why := fun present => (undisturbed.why present).trans (recorded.why present) }

theorem Outcome.Bounded.recordedWhy (bounded : outcome.Bounded) (whyBlock : Option Nat) :
    (outcome.recordedWhy whyBlock).length ≤ 65535 ∧ 0 ∉ outcome.recordedWhy whyBlock := by
  rw [Outcome.recordedWhy]
  split
  · exact ⟨bounded.why, bounded.terminated⟩
  · simp

theorem Outcome.Bounded.recordedPacket (bounded : outcome.Bounded) (packetBlock : Option Nat) :
    (outcome.recordedPacket packetBlock).length ≤ 65535 := by
  rw [Outcome.recordedPacket]
  split
  · exact bounded.packet
  · simp

/-- The length the guest reports for the explanation. -/
theorem Outcome.Recorded.whyLen (recorded : outcome.Recorded packetBlock whyBlock memory s)
    (bounded : outcome.Bounded) :
    (if s.whyBogus = 0 then some 0 else strlen memory s.whyBogus) =
      some (outcome.recordedWhy whyBlock).length := by
  split
  next null =>
    rw [recorded.noWhy null]
    rfl
  next present =>
    exact strlen_of_read (recorded.why present) (bounded.recordedWhy whyBlock).2

/-- `guest_result_get` writes the fields of the slot and leaves its blocks alone. -/
theorem guestResultGet_spec {results : Int → Slot} {rid : Int}
    (recorded : outcome.Recorded packetBlock whyBlock memory (results (rid - 1)))
    (bounded : outcome.Bounded) (valid : 0 < rid ∧ rid ≤ maxResults)
    (buffer : Buffer memory (results (rid - 1)) (outcome.recordedWhy whyBlock).length out) :
    ∃ final,
      guestResultGet memory results rid out = some (1, final) ∧
      outcome.Recorded packetBlock whyBlock final (results (rid - 1)) ∧
      final.read out resultSize =
        some ((resultWords (results (rid - 1)) (outcome.recordedWhy whyBlock).length).flatMap
          wordBytes) := by
  have zeroes : (List.replicate resultSize (0 : UInt8)).length = resultSize := by simp
  have inside : out + (List.replicate resultSize (0 : UInt8)).length ≤ memory.size := by
    rw [zeroes]
    exact buffer.inside
  obtain ⟨cleared, clearing⟩ := Memory.write_isSome inside
  have clearedRecorded := recorded.of_undisturbed (buffer.undisturbed clearing zeroes)
  have clearedBuffer :
      Buffer cleared (results (rid - 1)) (outcome.recordedWhy whyBlock).length out := by
    constructor
    · rw [Memory.size_of_write clearing]
      exact buffer.inside
    · exact buffer.packet
    · exact buffer.why
  have length := length_resultWords (results (rid - 1)) (outcome.recordedWhy whyBlock).length
  obtain ⟨final, writing⟩ := Memory.write_isSome (by rw [length]; exact clearedBuffer.inside)
  have refused : ¬ (rid ≤ 0 ∨ rid > maxResults ∨ (results (rid - 1)).used = false) := by
    rw [recorded.used]
    simp
    omega
  apply Exists.intro final
  constructor
  · simp only [guestResultGet, if_neg refused, recorded.ready, clearing,
      clearedRecorded.whyLen bounded, writing, Bool.true_eq_false, if_false]
  · constructor
    · exact clearedRecorded.of_undisturbed (clearedBuffer.undisturbed writing length)
    · have stored := Memory.read_write writing
      rw [length] at stored
      exact stored

theorem readBuffer_of_read {ptr : Nat} {data : Bytes} (limit : data.length ≤ 65535)
    (loaded : data.length ≠ 0 → memory.read ptr data.length = some data) :
    readBuffer memory ptr data.length = .ok data := by
  rw [readBuffer]
  split
  next empty =>
    rw [List.length_eq_zero_iff.mp empty]
  next present =>
    rw [if_neg (Nat.not_lt.mpr limit), loaded present]

/-- The host reads back what was recorded. -/
theorem readResult_spec (recorded : outcome.Recorded packetBlock whyBlock memory s)
    (bounded : outcome.Bounded)
    (stored : memory.read out resultSize =
      some ((resultWords s (outcome.recordedWhy whyBlock).length).flatMap wordBytes)) :
    readResult memory out = .ok ⟨secStatus outcome.sec,
      (outcome.recordedRcode packetBlock % 2 ^ 32).toNat, outcome.recordedWhy whyBlock,
      outcome.recordedPacket packetBlock⟩ := by
  have whyLimit := (bounded.recordedWhy whyBlock).1
  have packetLimit := bounded.recordedPacket packetBlock
  have word : ∀ index value : Nat,
      (resultWords s (outcome.recordedWhy whyBlock).length)[index]? = some value →
      value < 2 ^ 32 →
      bytesWord (((resultWords s (outcome.recordedWhy whyBlock).length).flatMap
        wordBytes).drop (4 * index)) = value :=
    fun _ _ found fits => bytesWord_drop_flatMap found fits
  have status : secStatus s.sec < 2 ^ 32 := by
    rw [secStatus]
    split
    · decide
    · split <;> decide
  have rcode : (s.rcode % 2 ^ 32).toNat < 2 ^ 32 := by omega
  have lengthFits : s.packetLen < 2 ^ 32 := by
    rw [recorded.packetLen]
    omega
  have why : readBuffer memory s.whyBogus (outcome.recordedWhy whyBlock).length =
      .ok (outcome.recordedWhy whyBlock) := by
    apply readBuffer_of_read whyLimit
    intro present
    have nonnull : s.whyBogus ≠ 0 := by
      intro null
      rw [recorded.noWhy null] at present
      exact present rfl
    have whole := recorded.why nonnull
    rw [Memory.read_eq_some_iff] at whole ⊢
    refine ⟨by omega, ?_⟩
    have front := congrArg (List.take (outcome.recordedWhy whyBlock).length) whole.2
    simpa [← List.map_take, List.take_range] using front
  have packet : readBuffer memory s.packet s.packetLen =
      .ok (outcome.recordedPacket packetBlock) := by
    rw [recorded.packetLen]
    apply readBuffer_of_read packetLimit
    intro present
    have whole := recorded.packet (by rw [recorded.packetLen]; exact present)
    rwa [recorded.packetLen] at whole
  rw [readResult, stored]
  dsimp only
  rw [word 2 _ rfl recorded.whyFits, word 3 _ rfl (by omega), why]
  dsimp only
  rw [word 4 _ rfl recorded.packetFits, word 5 _ rfl lengthFits, packet]
  dsimp only
  rw [word 0 _ rfl status, word 1 _ rfl rcode, recorded.sec, recorded.rcode]

/-- The response code the host goes by. -/
def Outcome.effective (outcome : Outcome) (packetBlock : Option Nat) : Nat :=
  effectiveRcode (outcome.recordedRcode packetBlock % 2 ^ 32).toNat
    (outcome.recordedPacket packetBlock)

/-- What a poll of a recorded outcome comes to. -/
structure Mapped (parser : MessageParser) (outcome : Outcome) (packetBlock whyBlock : Option Nat)
    (qname : Bytes) (qtype : Nat) (poll : Poll) : Prop where
  bogus : outcome.sec = 1 →
    poll = .failed (.bogus (outcome.recordedWhy whyBlock)
      (parseEDE parser (outcome.recordedPacket packetBlock)))
  response : outcome.sec ≠ 1 →
    outcome.effective packetBlock ≠ 0 ∧ outcome.effective packetBlock ≠ 3 →
    poll = .failed (.response (outcome.effective packetBlock)
      (parseEDE parser (outcome.recordedPacket packetBlock)))
  answer : outcome.sec ≠ 1 →
    outcome.effective packetBlock = 0 ∨ outcome.effective packetBlock = 3 →
    (∃ res, poll = .ready res ∧ res.answerPacket = outcome.packetBytes ∧
      (res.secure = true ↔ outcome.sec = 2) ∧
      (res.nxDomain = true ↔ outcome.effective packetBlock = 3)) ∨
    (∃ res err, poll = .failed err ∧ outcome.effective packetBlock = 0 ∧
      res.answerPacket = outcome.packetBytes ∧
      (parseAnswer parser res qname qtype).2 = some err)
  lost : ¬ outcome.Copied packetBlock → ∀ res, poll ≠ .ready res

theorem secStatus_eq_two {sec : Int} : secStatus sec = 2 ↔ sec = 1 := by
  rw [secStatus]
  split
  next secure => simp [secure]
  next => split <;> simp_all

theorem secStatus_eq_one {sec : Int} : secStatus sec = 1 ↔ sec = 2 := by
  rw [secStatus]
  split
  next secure => simp [secure]
  next insecure => split <;> simp_all

theorem Outcome.effective_of_lost (lost : ¬ outcome.Copied packetBlock) :
    outcome.effective packetBlock = 2 := by
  rw [effective, recordedRcode, recordedPacket, if_neg lost, if_neg lost]
  rfl

/-- A code the host takes for an answer means the packet was copied. -/
theorem Outcome.recordedPacket_of_answer
    (answer : outcome.effective packetBlock = 0 ∨ outcome.effective packetBlock = 3) :
    outcome.recordedPacket packetBlock = outcome.packetBytes := by
  rw [recordedPacket]
  split
  · rfl
  next lost =>
    rw [effective_of_lost lost] at answer
    simp at answer

/-- The host's reading of the recorded fields. -/
theorem mapped_settle (parser : MessageParser) (outcome : Outcome)
    (packetBlock whyBlock : Option Nat) (qname : Bytes) (qtype : Nat) :
    Mapped parser outcome packetBlock whyBlock qname qtype
      (settle parser ⟨secStatus outcome.sec, (outcome.recordedRcode packetBlock % 2 ^ 32).toNat,
        outcome.recordedWhy whyBlock, outcome.recordedPacket packetBlock⟩ qname qtype) := by
  have bogus : outcome.sec = 1 → settle parser ⟨secStatus outcome.sec,
      (outcome.recordedRcode packetBlock % 2 ^ 32).toNat, outcome.recordedWhy whyBlock,
      outcome.recordedPacket packetBlock⟩ qname qtype =
        .failed (.bogus (outcome.recordedWhy whyBlock)
          (parseEDE parser (outcome.recordedPacket packetBlock))) := by
    intro isBogus
    rw [settle, if_pos (secStatus_eq_two.mpr isBogus)]
  have response : outcome.sec ≠ 1 →
      outcome.effective packetBlock ≠ 0 ∧ outcome.effective packetBlock ≠ 3 →
      settle parser ⟨secStatus outcome.sec,
        (outcome.recordedRcode packetBlock % 2 ^ 32).toNat, outcome.recordedWhy whyBlock,
        outcome.recordedPacket packetBlock⟩ qname qtype =
          .failed (.response (outcome.effective packetBlock)
            (parseEDE parser (outcome.recordedPacket packetBlock))) := by
    intro notBogus failing
    rw [settle, if_neg (mt secStatus_eq_two.mp notBogus)]
    exact if_pos failing
  constructor
  case bogus => exact bogus
  case response => exact response
  case lost =>
    intro lost res
    by_cases isBogus : outcome.sec = 1
    · rw [bogus isBogus]
      exact Poll.noConfusion
    · rw [response isBogus (by rw [Outcome.effective_of_lost lost]; decide)]
      exact Poll.noConfusion
  case answer =>
    intro notBogus answer
    have packet := Outcome.recordedPacket_of_answer answer
    have accepted : ¬ (outcome.effective packetBlock ≠ 0 ∧
        outcome.effective packetBlock ≠ 3) := by omega
    rw [settle, if_neg (mt secStatus_eq_two.mp notBogus)]
    dsimp only
    rw [← Outcome.effective, if_neg accepted]
    split
    next noError =>
      split
      next parsed err parsing =>
        exact .inr ⟨_, err, rfl, noError, packet, congrArg Prod.snd parsing⟩
      next parsed parsing =>
        have header := sameHeader_parseAnswer parsing
        refine .inl ⟨parsed, rfl, header.answerPacket.trans packet, ?_, ?_⟩
        · rw [header.secure, decide_eq_true_iff, secStatus_eq_one]
        · rw [header.nxDomain, decide_eq_true_iff]
    next nxDomain =>
      refine .inl ⟨_, rfl, packet, ?_, ?_⟩
      · rw [decide_eq_true_iff, secStatus_eq_one]
      · rw [decide_eq_true_iff]

end Composition

/-- Every outcome libunbound reports reaches the caller as recorded: a bogus
answer as a `BogusError` and never as a result, a failure as a `ResponseError`,
an answer with its packet byte for byte. The memory may change between callback
and poll, the blocks of the slot apart. -/
theorem poll_maps_outcome (parser : MessageParser) (outcome : Outcome)
    (packetBlock whyBlock : Option Nat) (memory : Memory) (ubid : Int) (qname : Bytes)
    (qtype : Nat) (bounded : outcome.Bounded)
    (heap : outcome.Allocated packetBlock whyBlock memory) :
    ∃ after s,
      resultCb memory { clearResult with used := true, ubid := ubid } outcome packetBlock
        whyBlock = some (after, s) ∧
      ∀ (later : Memory) (results : Int → Slot) (rid : Int) (out : Nat),
        0 < rid ∧ rid ≤ maxResults → results (rid - 1) = s →
        Undisturbed after later s (outcome.recordedWhy whyBlock).length →
        Buffer later s (outcome.recordedWhy whyBlock).length out →
        ∃ rc final, guestResultGet later results rid out = some (rc, final) ∧
          Mapped parser outcome packetBlock whyBlock qname qtype
            (pollResult parser false (.ok (rc, final)) out qname qtype) := by
  obtain ⟨after, s, called, recorded⟩ := Outcome.recorded_resultCb heap ubid
  refine ⟨after, s, called, ?_⟩
  intro later results rid out valid slot undisturbed buffer
  subst s
  have laterRecorded := recorded.of_undisturbed undisturbed
  obtain ⟨final, got, finalRecorded, stored⟩ :=
    guestResultGet_spec laterRecorded bounded valid buffer
  refine ⟨1, final, got, ?_⟩
  have raw := readResult_spec finalRecorded bounded stored
  have polled : pollResult parser false (.ok (1, final)) out qname qtype =
      settle parser ⟨secStatus outcome.sec, (outcome.recordedRcode packetBlock % 2 ^ 32).toNat,
        outcome.recordedWhy whyBlock, outcome.recordedPacket packetBlock⟩ qname qtype := by
    simp [pollResult, guest, fetchResult, raw]
  rw [polled]
  exact mapped_settle parser outcome packetBlock whyBlock qname qtype

/-- A bogus answer with an explanation, both copied. -/
def sampleOutcome : Outcome := ⟨0, some [1, 2, 3, 4], 1, some [98, 97, 100]⟩

theorem poll_maps_outcome_sample :
    ∃ after s rc final,
      resultCb ⟨256, fun _ => 0⟩ { clearResult with used := true, ubid := 7 } sampleOutcome
        (some 64) (some 96) = some (after, s) ∧
      guestResultGet after (fun _ => s) 1 128 = some (rc, final) ∧
      Mapped emptyParser sampleOutcome (some 64) (some 96) [97, 46] 1
        (pollResult emptyParser false (.ok (rc, final)) 128 [97, 46] 1) := by
  have bounded : sampleOutcome.Bounded := ⟨by decide, by decide, by decide⟩
  have heap : sampleOutcome.Allocated (some 64) (some 96) ⟨256, fun _ => 0⟩ := by
    constructor
    · decide
    · rintro ptr ⟨⟩
      decide
    · rintro ptr ⟨⟩
      decide
    · rintro left ⟨⟩ right ⟨⟩
      exact .inl (by decide)
  obtain ⟨after, s, called, maps⟩ :=
    poll_maps_outcome emptyParser sampleOutcome (some 64) (some 96) ⟨256, fun _ => 0⟩ 7
      [97, 46] 1 bounded heap
  have size : after.size = 256 :=
    (congrArg (fun pair => pair.1.size) (Option.some.inj called)).symm
  have slot : s = ⟨true, true, 0, 0, 1, 64, 4, 96⟩ :=
    (congrArg Prod.snd (Option.some.inj called)).symm
  have buffer : Buffer after s (sampleOutcome.recordedWhy (some 96)).length 128 := by
    subst slot
    constructor
    · rw [size]
      decide
    · intro _
      exact .inl (by decide)
    · intro _
      exact .inl (by decide)
  obtain ⟨rc, final, got, mapped⟩ :=
    maps after (fun _ => s) 1 128 (by decide) rfl ⟨fun _ => rfl, fun _ => rfl⟩ buffer
  exact ⟨after, s, rc, final, called, got, mapped⟩

end UnboundWasm.Guest
