import UnboundWasm.Lib.Memory
import UnboundWasm.Host.Answer

/-!
# Collecting a result from the guest

`pollResult` of `runtime.go`: reading the 32-byte result structure and the two
buffers it points to, and turning them into a result or an error.
-/

namespace UnboundWasm.Host

open UnboundWasm.Lib

/-- What a poll came to. `fatal` is an error that kills the instance, `failed`
an outcome of the one query. -/
inductive Poll where
  | pending
  | ready (res : Result)
  | failed (err : Error)
  | fatal (err : Error)
  deriving DecidableEq, Repr

/-- Size of the guest's result structure. -/
def resultSize : Nat := 32

/-- The fields of the result structure, with the buffers copied out. -/
structure RawResult where
  secStatus : Nat
  cbRcode : Nat
  why : Bytes
  packet : Bytes
  deriving DecidableEq, Repr

/-- The `read` closure of `pollResult`. -/
def readBuffer (memory : Memory) (ptr count : Nat) : Except Error Bytes :=
  if count = 0 then
    .ok []
  else if count > 65535 then
    .error (.new "unbound: result buffer exceeds ABI limit")
  else
    match memory.read ptr count with
    | none => .error (.new "unbound: result buffer outside guest memory")
    | some data => .ok data

/-- The reads of `pollResult` under the guest lock. -/
def readResult (memory : Memory) (p : Nat) : Except Error RawResult :=
  match memory.read p resultSize with
  | none => .error (.new "unbound: result structure outside guest memory")
  | some b =>
      let word := fun offset => bytesWord (b.drop offset)
      match readBuffer memory (word 8) (word 12) with
      | .error err => .error err
      | .ok why =>
          match readBuffer memory (word 16) (word 20) with
          | .error err => .error err
          | .ok packet => .ok ⟨word 0, word 4, why, packet⟩

/-- The response code of an answer: the callback's, or where that is NOERROR the
one in the packet header. -/
def effectiveRcode (cbRcode : Nat) (packet : Bytes) : Nat :=
  match packet with
  | _ :: _ :: _ :: flags :: _ => if cbRcode = 0 then flags.toNat % 16 else cbRcode
  | _ => cbRcode

/-- What `pollResult` makes of the structure once the guest block is left. -/
def settle (parser : MessageParser) (raw : RawResult) (qname : Bytes) (qtype : Nat) : Poll :=
  if raw.secStatus = 2 then
    .failed (.bogus raw.why (parseEDE parser raw.packet))
  else
    let rcode := effectiveRcode raw.cbRcode raw.packet
    if rcode ≠ 0 ∧ rcode ≠ 3 then
      .failed (.response rcode (parseEDE parser raw.packet))
    else
      let res : Result := ⟨raw.secStatus = 1, false, rcode = 3, raw.packet, [], [], []⟩
      if rcode = 0 then
        match parseAnswer parser res qname qtype with
        | (_, some err) => .failed err
        | (parsed, none) => .ready parsed
      else
        .ready res

/-- `instanceState.guest`: the block is not run once the module is closed. -/
def guest {α : Type} (modDead : Bool) (fn : Except Error α) : Except Error α :=
  if modDead then .error .errClosed else fn

/-- The guest block of `pollResult`, given what the call of `result_get` came to:
its return value and the memory after it. Nothing is read unless the value is
positive. -/
def fetchResult (call : Except Error (Int × Memory)) (p : Nat) :
    Except Error (Int × RawResult) :=
  match call with
  | .error err => .error (.wrap "unbound: result_get" err)
  | .ok (rc, memory) =>
      if rc ≤ 0 then
        .ok (rc, ⟨0, 0, [], []⟩)
      else
        match readResult memory p with
        | .error err => .error err
        | .ok raw => .ok (rc, raw)

/-- `pollResult`. -/
def pollResult (parser : MessageParser) (modDead : Bool) (call : Except Error (Int × Memory))
    (p : Nat) (qname : Bytes) (qtype : Nat) : Poll :=
  match guest modDead (fetchResult call p) with
  | .error err => .fatal err
  | .ok (rc, raw) =>
      if rc = 0 then
        .pending
      else if rc < 0 then
        .failed (.errno "unbound: result_get failed: wasi errno" (-rc))
      else
        settle parser raw qname qtype

/-! ## Packets behind a result -/

/-- A message that is not truncated and that the parser reads up to the end of its
answers. -/
def Complete (parser : MessageParser) (packet : Bytes) : Prop :=
  parser.start packet = .ok false ∧ parser.skipAllQuestions packet = none ∧
    ∃ answers, parser.allAnswers packet = .ok answers

/-- `Parser.Start` reads a header of 12 bytes. -/
def ReadsHeader (parser : MessageParser) : Prop :=
  ∀ packet : Bytes, packet.length < 12 → ∃ err, parser.start packet = .error err

theorem complete_of_parseAnswer {parser : MessageParser} {r : Result} {qname : Bytes} {qtype : Nat}
    (present : r.answerPacket ≠ []) (parsed : (parseAnswer parser r qname qtype).2 = none) :
    Complete parser r.answerPacket := by
  unfold parseAnswer at parsed
  rw [if_neg present] at parsed
  split at parsed
  · cases parsed
  · cases parsed
  next started =>
    split at parsed
    · cases parsed
    next skipped =>
      split at parsed
      · cases parsed
      next answers sections => exact ⟨started, skipped, answers, sections⟩

/-- A result that does not deny the name comes from a parsed answer. -/
theorem parsed_of_settle {parser : MessageParser} {raw : RawResult} {qname : Bytes} {qtype : Nat}
    {res : Result} (settled : settle parser raw qname qtype = .ready res)
    (named : res.nxDomain = false) :
    effectiveRcode raw.cbRcode raw.packet = 0 ∧
      ∃ r : Result, r.answerPacket = raw.packet ∧
        parseAnswer parser r qname qtype = (res, none) := by
  unfold settle at settled
  dsimp only at settled
  split at settled
  · cases settled
  · split at settled
    · cases settled
    · split at settled
      next success =>
        split at settled
        · cases settled
        next parsing =>
          cases settled
          exact ⟨success, _, rfl, parsing⟩
      next failure =>
        cases settled
        simp_all

/-- A guest that reports NOERROR without a packet is believed. -/
theorem settle_of_missing (parser : MessageParser) {raw : RawResult} (qname : Bytes) (qtype : Nat)
    (notBogus : raw.secStatus ≠ 2) (missing : raw.packet = []) (success : raw.cbRcode = 0) :
    settle parser raw qname qtype = .ready ⟨raw.secStatus = 1, false, false, [], [], [], []⟩ := by
  simp [settle, notBogus, missing, success, effectiveRcode, parseAnswer]

theorem pollResult_of_read {parser : MessageParser} {memory : Memory} {p : Nat} {rc : Int}
    {raw : RawResult} {qname : Bytes} {qtype : Nat} (ready : 0 < rc)
    (read : readResult memory p = .ok raw) :
    pollResult parser false (.ok (rc, memory)) p qname qtype = settle parser raw qname qtype := by
  have positive : ¬ rc ≤ 0 := by omega
  have nonzero : rc ≠ 0 := by omega
  have notNegative : ¬ rc < 0 := by omega
  simp [pollResult, guest, fetchResult, positive, read, nonzero, notNegative]

/-- A ready result that is not bogus and does not deny the name has a complete packet
behind it, unless the guest hands over NOERROR and no packet. -/
theorem ready_complete_iff (parser : MessageParser) (memory : Memory) (p : Nat) (rc : Int)
    (raw : RawResult) (qname : Bytes) (qtype : Nat) (reads : ReadsHeader parser) (ready : 0 < rc)
    (read : readResult memory p = .ok raw) (notBogus : raw.secStatus ≠ 2) :
    (∀ res, pollResult parser false (.ok (rc, memory)) p qname qtype = .ready res →
        res.nxDomain = false → Complete parser raw.packet) ↔
      raw.packet ≠ [] ∨ raw.cbRcode ≠ 0 := by
  rw [pollResult_of_read ready read]
  constructor
  · intro complete
    by_contra neither
    rw [not_or, not_not, not_not] at neither
    obtain ⟨missing, success⟩ := neither
    have whole := complete _ (settle_of_missing parser qname qtype notBogus missing success) rfl
    obtain ⟨err, failed⟩ := reads raw.packet (by rw [missing]; decide)
    rw [whole.1] at failed
    cases failed
  · intro present res settled named
    obtain ⟨success, r, packet, parsing⟩ := parsed_of_settle settled named
    have there : r.answerPacket ≠ [] := by
      rw [packet]
      intro missing
      rcases present with held | failed
      · exact held missing
      · rw [missing, effectiveRcode] at success
        · exact failed success
        · simp
    have fine : (parseAnswer parser r qname qtype).2 = none := by rw [parsing]
    rw [← packet]
    exact complete_of_parseAnswer there fine

/-- A parser that looks at the length and the TC flag of the header, for messages that
hold no questions and no answers. -/
def headerParser : MessageParser :=
  { emptyParser with
    start := fun packet =>
      if packet.length < 12 then .error (.foreign "unpacking header")
      else .ok ((packet.getD 2 0) &&& 2 ≠ 0) }

theorem readsHeader_headerParser : ReadsHeader headerParser := by
  intro packet short
  exact ⟨_, if_pos short⟩

/-- A result structure at 0 whose packet is the 12 bytes at 32, all zero. -/
def headerMemory : Memory :=
  ⟨64, fun address => if address = 16 then 32 else if address = 20 then 12 else 0⟩

theorem ready_complete_iff_header :
    (pollResult headerParser false (.ok (1, headerMemory)) 0 [97, 46] typeCAA =
        .ready ⟨false, false, false, List.replicate 12 0, [], [], []⟩) ∧
      Complete headerParser (List.replicate 12 0) := by
  have polled : pollResult headerParser false (.ok (1, headerMemory)) 0 [97, 46] typeCAA =
      .ready ⟨false, false, false, List.replicate 12 0, [], [], []⟩ := by decide
  have complete := (ready_complete_iff headerParser headerMemory 0 1
    ⟨0, 0, [], List.replicate 12 0⟩ [97, 46] typeCAA readsHeader_headerParser (by decide)
    (by decide) (by decide)).mpr (.inl (by decide))
  exact ⟨polled, complete _ polled rfl⟩

/-- A result structure of zeros: NOERROR, and no packet. -/
def blankMemory : Memory := ⟨32, fun _ => 0⟩

/-- The host reports that there are no CAA records. -/
theorem blankMemory_reports_no_data :
    readResult blankMemory 0 = .ok ⟨0, 0, [], []⟩ ∧
      pollResult headerParser false (.ok (1, blankMemory)) 0 [97, 46] typeCAA =
        .ready ⟨false, false, false, [], [], [], []⟩ ∧
      ¬ Complete headerParser [] := by
  refine ⟨by decide, by decide, ?_⟩
  rintro ⟨started, _⟩
  cases started

end UnboundWasm.Host
