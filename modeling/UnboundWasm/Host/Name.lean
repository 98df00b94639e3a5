import UnboundWasm.Lib.DomainName
import UnboundWasm.Host.Answer

/-!
# One name, read twice

The host passes a query name to the guest as a string and later compares the
owners of answer records with the same string.  The guest reads the string in
presentation format, where a backslash escapes; the host compares it with the
raw bytes of the labels.  The two agree on the names that hold no backslash, and
on no others.
-/

namespace UnboundWasm.Host

open UnboundWasm.Lib

/-- The root dot, appended if missing. -/
def withRoot (name : Bytes) : Bytes :=
  if name.getLast? = some DomainName.dot then name else name ++ [DomainName.dot]

/-- `normalizeName`. -/
def normalizeName (name : Bytes) : Except Error Bytes :=
  if name = [] then
    .error (.new "unbound: empty name")
  else if 0 ∈ name then
    .error (.new "unbound: name contains NUL")
  else if (withRoot name).length > 1024 then
    .error (.new "unbound: name too long")
  else
    .ok (withRoot name)

/-- `copy_input` of the guest: the bytes with a NUL after them. -/
def copyInput (input : Bytes) : Bytes := input ++ [0]

/-- The C string in a buffer. -/
def cString (buffer : Bytes) : Bytes := buffer.takeWhile (· ≠ 0)

/-- The wire-format name libunbound makes of the C string it is given. -/
def wireName (buffer : Bytes) : Option (List Bytes) := DomainName.parse (cString buffer)

/-- An accepted name has its trailing dot and nothing else changed. -/
theorem normalizeName_eq_ok {name normalized : Bytes}
    (accepted : normalizeName name = .ok normalized) :
    normalized ≠ [] ∧ 0 ∉ normalized ∧ normalized.getLast? = some DomainName.dot ∧
      (DomainName.backslash ∈ normalized ↔ DomainName.backslash ∈ name) := by
  unfold normalizeName at accepted
  split at accepted
  · cases accepted
  next nonempty =>
    split at accepted
    · cases accepted
    next noNul =>
      split at accepted
      · cases accepted
      · cases accepted
        unfold withRoot
        split
        next ended => exact ⟨nonempty, noNul, ended, Iff.rfl⟩
        next =>
          refine ⟨by simp, ?_, by simp, ?_⟩
          · simpa [DomainName.dot] using noNul
          · simp [DomainName.backslash, DomainName.dot]

/-- The guest reads the normalized name whole. -/
theorem cString_copyInput {input : Bytes} (noNul : 0 ∉ input) :
    cString (copyInput input) = input := by
  have kept : ∀ byte ∈ input, (decide (byte ≠ 0)) = true := by
    intro byte member
    rw [decide_eq_true_eq]
    rintro rfl
    exact noNul member
  unfold cString copyInput
  rw [List.takeWhile_append_of_pos kept]
  simp

/-- A packet whose answer section the parser reads. -/
def Answers (parser : MessageParser) (packet : Bytes) (answers : List Resource) : Prop :=
  packet ≠ [] ∧ parser.start packet = .ok false ∧ parser.skipAllQuestions packet = none ∧
    parser.allAnswers packet = .ok answers

/-- A record of the queried type stands at the owner, and no CNAME does. -/
def HoldsData (answers : List Resource) (owner : Bytes) (qtype : Nat) : Prop :=
  (∃ rr ∈ answers, rr.type = qtype ∧ rr.name = owner) ∧
    ∀ rr ∈ answers, rr.type = typeCNAME → qtype ≠ typeCNAME → nameEqual rr.name owner = false

/-- The host and the guest mean the same name: it is absolute, the owner the
guest asks for is the one the host looks for, and data found there is reported. -/
def SameName (normalized : Bytes) (wire : List Bytes) : Prop :=
  DomainName.absolute normalized = true ∧
  nameEqual (DomainName.render wire) normalized = true ∧
  ∀ parser r qtype answers, Answers parser r.answerPacket answers →
    HoldsData answers (DomainName.render wire) qtype →
    (parseAnswer parser r normalized qtype).1.haveData = true

/-- No CNAME stands at a name equal to the owner. -/
theorem cnameTarget_eq_none {answers : List Resource} {owner qname : Bytes}
    (same : nameEqual owner qname = true)
    (absent : ∀ rr ∈ answers, rr.type = typeCNAME → nameEqual rr.name owner = false) :
    cnameTarget answers qname = none := by
  have notFound : answers.find? (fun rr => rr.type = typeCNAME && nameEqual rr.name qname) =
      none := by
    rw [List.find?_eq_none]
    intro rr member
    rw [Bool.and_eq_true, decide_eq_true_eq, not_and]
    intro isCNAME equal
    have there : nameEqual rr.name owner = true := equalFold_trans equal (equalFold_symm same)
    rw [absent rr member isCNAME] at there
    cases there
  unfold cnameTarget
  rw [notFound]

/-- Without escapes, the name the guest asks for is the normalized one. -/
theorem sameName_of_unescaped {normalized : Bytes} {wire : List Bytes}
    (nonempty : normalized ≠ []) (ended : normalized.getLast? = some DomainName.dot)
    (unescaped : DomainName.backslash ∉ normalized)
    (parsed : DomainName.parse normalized = some wire) : SameName normalized wire := by
  have rendered := DomainName.render_of_unescaped nonempty unescaped ended parsed
  have same : nameEqual (DomainName.render wire) normalized = true := by
    rw [rendered]
    exact equalFold_refl normalized
  refine ⟨DomainName.absolute_of_unescaped unescaped ended, same, ?_⟩
  intro parser r qtype answers ⟨present, started, skipped, parsed⟩ ⟨data, noCNAME⟩
  have owner : (if qtype = typeCNAME then normalized
      else followCNAMEs answers answers.length normalized) = normalized := by
    split
    · rfl
    next notCNAME =>
      have absent := cnameTarget_eq_none same fun rr member isCNAME =>
        noCNAME rr member isCNAME notCNAME
      cases answers with
      | nil => rfl
      | cons rr rest => simp [followCNAMEs, absent]
  simp only [parseAnswer, present, if_false, started, skipped, parsed, owner]
  apply haveData_collect
  right
  obtain ⟨rr, member, isType, atOwner⟩ := data
  exact ⟨rr, member, isType, atOwner ▸ same⟩

/-- `DomainName.isEscape` on runes. -/
def escapeRune (rune : Nat) : Bool := (48 ≤ rune && rune ≤ 57) || rune = 92

theorem caseless_of_isEscape (rune : Nat) (escape : escapeRune rune = true) : Caseless rune := by
  simp only [escapeRune, Bool.or_eq_true, Bool.and_eq_true, decide_eq_true_eq] at escape
  unfold Caseless
  omega

theorem escapeRune_toNat (byte : UInt8) : escapeRune byte.toNat = DomainName.isEscape byte := by
  simp only [escapeRune, DomainName.isEscape, DomainName.isDigit, DomainName.backslash,
    UInt8.le_iff_toNat_le, ← UInt8.toNat_inj]
  rfl

/-- An escape makes the two readings differ. -/
theorem not_sameName_of_escaped {normalized : Bytes} {wire : List Bytes}
    (nonempty : normalized ≠ []) (escaped : DomainName.backslash ∈ normalized)
    (parsed : DomainName.parse normalized = some wire) : ¬ SameName normalized wire := by
  rintro ⟨-, same, -⟩
  have fewer := DomainName.countP_render_lt nonempty escaped parsed
  have equal := countP_eq_of_equalFold same caseless_of_isEscape
  simp only [escapeRune_toNat] at equal
  exact absurd equal (Nat.ne_of_lt fewer)

/-- For every query name the host accepts and the guest can read, the two mean
the same name exactly when it holds no backslash. -/
theorem sameName_iff_unescaped (name normalized : Bytes) (wire : List Bytes)
    (accepted : normalizeName name = .ok normalized)
    (parsed : wireName (copyInput normalized) = some wire) :
    SameName normalized wire ↔ DomainName.backslash ∉ name := by
  obtain ⟨nonempty, noNul, ended, same⟩ := normalizeName_eq_ok accepted
  rw [wireName, cString_copyInput noNul] at parsed
  rw [← same]
  constructor
  · intro meant escaped
    exact not_sameName_of_escaped nonempty escaped parsed meant
  · intro unescaped
    exact sameName_of_unescaped nonempty ended unescaped parsed

/-- `example`, without its trailing dot. -/
def plainQuery : Bytes := [101, 120, 97, 109, 112, 108, 101]

theorem sameName_iff_unescaped_plainQuery :
    normalizeName plainQuery = .ok (plainQuery ++ [46]) ∧
      wireName (copyInput (plainQuery ++ [46])) = some [plainQuery] ∧
      SameName (plainQuery ++ [46]) [plainQuery] :=
  ⟨rfl, rfl, (sameName_iff_unescaped plainQuery _ _ rfl rfl).mpr (by decide)⟩

/-- `\097.`, which the guest reads as `a.`. -/
def escapedQuery : Bytes := [92, 48, 57, 55, 46]

/-- An answer section with one address record at `a.`. -/
def addressAnswer : List Resource := [⟨[97, 46], 1, .a [192, 0, 2, 1], by decide⟩]

/-- A parser that reads every packet as that answer. -/
def addressParser : MessageParser where
  start _ := .ok false
  skipAllQuestions _ := none
  allAnswers _ := .ok addressAnswer
  options _ := []

/-- The guest asks for `a.` and gets its address; the host reports no data. -/
theorem escapedQuery_loses_data :
    normalizeName escapedQuery = .ok escapedQuery ∧
      wireName (copyInput escapedQuery) = some [[97]] ∧
      nameEqual (DomainName.render [[97]]) escapedQuery = false ∧
      ∃ r : Result, Answers addressParser r.answerPacket addressAnswer ∧
        HoldsData addressAnswer (DomainName.render [[97]]) 1 ∧
        parseAnswer addressParser r escapedQuery 1 = (r, none) ∧ r.haveData = false := by
  refine ⟨rfl, rfl, by decide, ⟨false, false, false, [0], [], [], []⟩, ⟨by decide, rfl, rfl, rfl⟩,
    ⟨⟨_, List.mem_singleton.mpr rfl, rfl, rfl⟩, ?_⟩, by decide, rfl⟩
  intro rr member isCNAME
  rw [List.mem_singleton.mp member] at isCNAME
  cases isCNAME

end UnboundWasm.Host
