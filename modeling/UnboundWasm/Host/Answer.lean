import UnboundWasm.Lib.CaseFold
import UnboundWasm.Lib.Netip

/-!
# Reading answer packets

`answer.go`, with the errors and result types it fills in.  Go strings are lists
of bytes here, as they are in the source.  The message parser is a third-party
package, so the functions take it as a parameter: what its calls return for a
packet, section by section.
-/

namespace UnboundWasm.Host

open UnboundWasm.Lib

abbrev Bytes := List UInt8

/-- A slice expression `data[low:high]`, which panics when the bounds are out of order. -/
def sliceExpr (data : Bytes) (low high : Nat) : Option Bytes :=
  if low ≤ high ∧ high ≤ data.length then some ((data.drop low).take (high - low)) else none

/-- An Extended DNS Error. -/
structure EDE where
  code : Nat
  text : Bytes
  deriving DecidableEq, Repr

/-- Go error values: `errors.New`, `fmt.Errorf` with `%d` or `%w`, the error
types of the package, and errors made outside it. -/
inductive Error where
  | errClosed
  | new (message : String)
  | errno (message : String) (code : Int)
  | wrap (message : String) (cause : Error)
  | bogus (reason : Bytes) (ede : List EDE)
  | response (rcode : Nat) (ede : List EDE)
  | foreign (message : String)
  deriving DecidableEq, Repr

/-- `CAA`. -/
structure CAA where
  flags : UInt8
  tag : Bytes
  value : Bytes
  deriving DecidableEq, Repr

/-- `Result`. -/
structure Result where
  secure : Bool
  haveData : Bool
  nxDomain : Bool
  answerPacket : Bytes
  addrs : List Addr
  txt : List Bytes
  caa : List CAA
  deriving DecidableEq, Repr

/-- Record types the code names. -/
def typeCNAME : Nat := 5
def typeCAA : Nat := 257

/-- The body of a record, for the types the code looks into. -/
inductive Body where
  | a (address : Bytes)
  | aaaa (address : Bytes)
  | txt (strings : List Bytes)
  | cname (target : Bytes)
  | unknown (data : Bytes)
  | other
  deriving DecidableEq, Repr

/-- `CNAME.String()` of a CNAME body. -/
def Body.target : Body → Option Bytes
  | .cname target => some target
  | .a _ | .aaaa _ | .txt _ | .unknown _ | .other => none

/-- A parsed record with its owner as `Name.String` renders it. The parser picks
the body by the type. -/
structure Resource where
  name : Bytes
  type : Nat
  body : Body
  cname : type = typeCNAME → body.target.isSome = true

/-- `dnsmessage.Parser` on a packet: `start` reports the TC flag, `options` are
the OPT records it gets through in the additional section before it stops. -/
structure MessageParser where
  start : Bytes → Except Error Bool
  skipAllQuestions : Bytes → Option Error
  allAnswers : Bytes → Except Error (List Resource)
  options : Bytes → List (List (Nat × Bytes))

/-- A parser that finds no records. -/
def emptyParser : MessageParser where
  start _ := .ok false
  skipAllQuestions _ := none
  allAnswers _ := .ok []
  options _ := []

/-- `nameEqual`. -/
def nameEqual (a b : Bytes) : Bool := equalFold a b

/-- `cnameTarget`. -/
def cnameTarget (answers : List Resource) (owner : Bytes) : Option Bytes :=
  match answers.find? fun rr => rr.type = typeCNAME && nameEqual rr.name owner with
  | none => none
  | some rr => rr.body.target

/-- Follow the CNAME chain for at most the given number of links. -/
def followCNAMEs (answers : List Resource) : Nat → Bytes → Bytes
  | 0, owner => owner
  | links + 1, owner =>
      match cnameTarget answers owner with
      | none => owner
      | some next => followCNAMEs answers links next

/-- `parseCAA`. -/
def parseCAA : Bytes → Except Error CAA
  | flags :: tagLen :: rest =>
      if tagLen = 0 ∨ rest.length < tagLen.toNat then
        .error (.new "unbound: malformed CAA record")
      else
        .ok ⟨flags, rest.take tagLen.toNat, rest.drop tagLen.toNat⟩
  | _ => .error (.new "unbound: malformed CAA record")

/-- What one matching record adds to the result. -/
def addRecord (r : Result) (qtype : Nat) : Body → Except Error Result
  | .a address => .ok { r with addrs := r.addrs ++ [.from4 address] }
  | .aaaa address => .ok { r with addrs := r.addrs ++ [.from16 address] }
  | .txt strings => .ok { r with txt := r.txt ++ [strings.flatten] }
  | .unknown data =>
      if qtype = typeCAA then
        match parseCAA data with
        | .error err => .error err
        | .ok caa => .ok { r with caa := r.caa ++ [caa] }
      else
        .ok r
  | .cname _ | .other => .ok r

/-- The last loop of `parseAnswer`. The result is filled in place, so it holds
what was found before an error. -/
def collect (owner : Bytes) (qtype : Nat) : List Resource → Result → Result × Option Error
  | [], r => (r, none)
  | rr :: rest, r =>
      if rr.type ≠ qtype ∨ nameEqual rr.name owner = false then
        collect owner qtype rest r
      else
        match addRecord { r with haveData := true } qtype rr.body with
        | .error err => ({ r with haveData := true }, some err)
        | .ok added => collect owner qtype rest added

/-- `parseAnswer`. -/
def parseAnswer (parser : MessageParser) (r : Result) (qname : Bytes) (qtype : Nat) :
    Result × Option Error :=
  if r.answerPacket = [] then
    (r, none)
  else
    match parser.start r.answerPacket with
    | .error err => (r, some (.wrap "unbound: malformed answer packet" err))
    | .ok true => (r, some (.new "unbound: truncated answer"))
    | .ok false =>
        match parser.skipAllQuestions r.answerPacket with
        | some err => (r, some (.wrap "unbound: malformed answer packet" err))
        | none =>
            match parser.allAnswers r.answerPacket with
            | .error err => (r, some (.wrap "unbound: malformed answer packet" err))
            | .ok answers =>
                let owner :=
                  if qtype = typeCNAME then qname
                  else followCNAMEs answers answers.length qname
                collect owner qtype answers r

/-- The part of a result that is settled before the answer is parsed. -/
structure SameHeader (before after : Result) : Prop where
  secure : after.secure = before.secure
  nxDomain : after.nxDomain = before.nxDomain
  answerPacket : after.answerPacket = before.answerPacket

theorem SameHeader.refl (r : Result) : SameHeader r r := ⟨rfl, rfl, rfl⟩

theorem addRecord_spec {r added : Result} {qtype : Nat} {body : Body}
    (record : addRecord r qtype body = .ok added) :
    SameHeader r added ∧ added.haveData = r.haveData := by
  cases body with
  | a | aaaa | txt | cname | other =>
      cases record
      exact ⟨⟨rfl, rfl, rfl⟩, rfl⟩
  | unknown data =>
      simp only [addRecord] at record
      split at record
      · split at record
        · cases record
        · cases record
          exact ⟨⟨rfl, rfl, rfl⟩, rfl⟩
      · cases record
        exact ⟨.refl _, rfl⟩

/-- A matching record is reported, whatever comes after it. -/
theorem haveData_collect {owner : Bytes} {qtype : Nat} {answers : List Resource} {r : Result}
    (found : r.haveData = true ∨
      ∃ rr ∈ answers, rr.type = qtype ∧ nameEqual rr.name owner = true) :
    (collect owner qtype answers r).1.haveData = true := by
  induction answers generalizing r with
  | nil => simpa [collect] using found
  | cons rr rest ih =>
      unfold collect
      split
      next skipped =>
        apply ih
        rcases found with already | ⟨other, member, isType, equal⟩
        · exact .inl already
        · rcases List.mem_cons.mp member with rfl | later
          · simp [isType, equal] at skipped
          · exact .inr ⟨other, later, isType, equal⟩
      next =>
        split
        · rfl
        next added record =>
          apply ih
          exact .inl (addRecord_spec record).2

theorem sameHeader_collect (owner : Bytes) (qtype : Nat) (answers : List Resource) (r : Result) :
    SameHeader r (collect owner qtype answers r).1 := by
  induction answers generalizing r with
  | nil => exact .refl r
  | cons rr rest ih =>
      unfold collect
      split
      · exact ih r
      · split
        · exact ⟨rfl, rfl, rfl⟩
        next added record =>
          have first := (addRecord_spec record).1
          have later := ih added
          exact ⟨later.secure.trans first.secure, later.nxDomain.trans first.nxDomain,
            later.answerPacket.trans first.answerPacket⟩

/-- Parsing the answer only adds to the result. -/
theorem sameHeader_parseAnswer {parser : MessageParser} {r parsed : Result} {qname : Bytes}
    {qtype : Nat} {err : Option Error}
    (parsing : parseAnswer parser r qname qtype = (parsed, err)) : SameHeader r parsed := by
  have first : parsed = (parseAnswer parser r qname qtype).1 := by rw [parsing]
  rw [first, parseAnswer]
  split
  · exact .refl r
  · split
    · exact .refl r
    · exact .refl r
    · split
      · exact .refl r
      · split
        · exact .refl r
        · exact sameHeader_collect _ qtype _ r

/-- `strings.TrimSuffix` of one NUL. -/
def trimNul (text : Bytes) : Bytes :=
  if text.getLast? = some 0 then text.dropLast else text

/-- `parseEDE`. -/
def parseEDE (parser : MessageParser) (packet : Bytes) : List EDE :=
  (parser.options packet).flatten.filterMap fun option =>
    match option with
    | (15, high :: low :: text) => some ⟨high.toNat * 256 + low.toNat, trimNul text⟩
    | _ => none

end UnboundWasm.Host
