import UnboundWasm.Lib.Chain
import UnboundWasm.Host.Name

/-!
# Aliases in an answer

`parseAnswer` follows the CNAME records of the answer section for as many links as the
section has records, and then collects the records of the queried type at the name it
has come to.  A chain that ends is always followed to its end.  A chain that runs in a
circle is left at a name that the number of records picks.
-/

namespace UnboundWasm.Host

open UnboundWasm.Lib

variable {answers : List Resource} {owner target qname final : Bytes} {qtype : Nat}

/-! ## Chains -/

/-- The first CNAME record at a name points to the target. -/
def AliasOf (answers : List Resource) (owner target : Bytes) : Prop :=
  ∃ before rr rest, answers = before ++ rr :: rest ∧ rr.type = typeCNAME ∧
    nameEqual rr.name owner = true ∧ rr.body.target = some target ∧
    ∀ other ∈ before, other.type = typeCNAME → nameEqual other.name owner = false

/-- No CNAME record stands at a name. -/
def NoAlias (answers : List Resource) (owner : Bytes) : Prop :=
  ∀ rr ∈ answers, rr.type = typeCNAME → nameEqual rr.name owner = false

/-- Following CNAME records ends at a name. A query for CNAME records follows none. -/
inductive LeadsTo (answers : List Resource) (qtype : Nat) : Bytes → Bytes → Prop where
  | here {owner : Bytes} (last : qtype = typeCNAME ∨ NoAlias answers owner) :
      LeadsTo answers qtype owner owner
  | through {owner target final : Bytes} (follows : qtype ≠ typeCNAME)
      (points : AliasOf answers owner target) (rest : LeadsTo answers qtype target final) :
      LeadsTo answers qtype owner final

/-- The condition `cnameTarget` looks for. -/
def isAlias (owner : Bytes) (rr : Resource) : Bool :=
  rr.type = typeCNAME && nameEqual rr.name owner

theorem isAlias_eq_false_iff {rr : Resource} :
    isAlias owner rr = false ↔ (rr.type = typeCNAME → nameEqual rr.name owner = false) := by
  simp [isAlias]

theorem cnameTarget_eq (answers : List Resource) (owner : Bytes) :
    cnameTarget answers owner = (answers.find? (isAlias owner)).bind fun rr => rr.body.target := by
  have same : (fun rr : Resource => decide (rr.type = typeCNAME) && nameEqual rr.name owner) =
      isAlias owner := rfl
  unfold cnameTarget
  rw [same]
  cases answers.find? (isAlias owner) with
  | none => rfl
  | some rr => rfl

/-- A CNAME record has a target. -/
theorem target_of_isAlias {rr : Resource} (isOne : isAlias owner rr = true) :
    ∃ target, rr.body.target = some target := by
  simp only [isAlias, Bool.and_eq_true, decide_eq_true_eq] at isOne
  exact Option.isSome_iff_exists.mp (rr.cname isOne.1)

theorem cnameTarget_eq_none_iff : cnameTarget answers owner = none ↔ NoAlias answers owner := by
  rw [cnameTarget_eq, Option.bind_eq_none_iff]
  constructor
  · intro without rr member isCNAME
    by_contra equal
    have isOne : isAlias owner rr = true := by simp_all [isAlias]
    cases found : answers.find? (isAlias owner) with
    | none =>
        rw [List.find?_eq_none] at found
        exact found rr member isOne
    | some first =>
        obtain ⟨target, points⟩ := target_of_isAlias (List.find?_some found)
        rw [without first found] at points
        cases points
  · intro without rr found
    have isOne := List.find?_some found
    rw [isAlias_eq_false_iff.mpr (without rr (List.mem_of_find?_eq_some found))] at isOne
    cases isOne

theorem cnameTarget_eq_some_iff :
    cnameTarget answers owner = some target ↔ AliasOf answers owner target := by
  rw [cnameTarget_eq, Option.bind_eq_some_iff]
  constructor
  · rintro ⟨rr, found, points⟩
    obtain ⟨isOne, before, rest, split, others⟩ := List.find?_eq_some_iff_append.mp found
    simp only [isAlias, Bool.and_eq_true, decide_eq_true_eq] at isOne
    refine ⟨before, rr, rest, split, isOne.1, isOne.2, points, ?_⟩
    intro other member
    exact isAlias_eq_false_iff.mp (by simpa using others other member)
  · rintro ⟨before, rr, rest, split, isCNAME, equal, points, others⟩
    refine ⟨rr, ?_, points⟩
    rw [List.find?_eq_some_iff_append]
    refine ⟨by simp [isAlias, isCNAME, equal], before, rest, split, ?_⟩
    intro other member
    simpa using isAlias_eq_false_iff.mpr (others other member)

theorem followCNAMEs_eq (answers : List Resource) (links : Nat) (owner : Bytes) :
    followCNAMEs answers links owner = Chain.follow (cnameTarget answers) links owner := by
  induction links generalizing owner with
  | zero => rfl
  | succ links ih =>
      simp only [followCNAMEs, Chain.follow]
      cases cnameTarget answers owner with
      | none => rfl
      | some next => exact ih next

theorem ends_of_leadsTo (follows : qtype ≠ typeCNAME) (leads : LeadsTo answers qtype qname final) :
    Chain.Ends (cnameTarget answers) qname final := by
  induction leads with
  | here last =>
      rcases last with asked | without
      · exact absurd asked follows
      · exact .stop (cnameTarget_eq_none_iff.mpr without)
  | through _ points _ ih => exact .link (cnameTarget_eq_some_iff.mpr points) ih

theorem leadsTo_of_ends (follows : qtype ≠ typeCNAME)
    (ends : Chain.Ends (cnameTarget answers) qname final) : LeadsTo answers qtype qname final := by
  induction ends with
  | stop last => exact .here (.inr (cnameTarget_eq_none_iff.mp last))
  | link points _ ih => exact .through follows (cnameTarget_eq_some_iff.mp points) ih

/-- A link is read off the record the search stops at. -/
theorem getElem?_findIdx_isAlias (points : AliasOf answers owner target) :
    ∃ rr, answers[answers.findIdx (isAlias owner)]? = some rr ∧ rr.body.target = some target := by
  obtain ⟨before, rr, rest, rfl, isCNAME, equal, leads, others⟩ := points
  have skipped : before.findIdx (isAlias owner) = before.length := by
    apply List.findIdx_eq_length_of_false
    intro other member
    exact isAlias_eq_false_iff.mpr (others other member)
  have isOne : isAlias owner rr = true := by simp [isAlias, isCNAME, equal]
  refine ⟨rr, ?_, leads⟩
  simp [List.findIdx_append, skipped, List.findIdx_cons, isOne]

/-- A chain that ends is followed to its end. -/
theorem followCNAMEs_of_leadsTo (follows : qtype ≠ typeCNAME)
    (leads : LeadsTo answers qtype qname final) :
    followCNAMEs answers answers.length qname = final := by
  rw [followCNAMEs_eq]
  apply Chain.follow_of_ends (fun owner => answers.findIdx (isAlias owner)) _ _
    (ends_of_leadsTo follows leads)
  · intro owner target points
    obtain ⟨rr, found, _⟩ := getElem?_findIdx_isAlias (cnameTarget_eq_some_iff.mp points)
    exact (List.getElem?_eq_some_iff.mp found).1
  · intro owner target other another points also same
    obtain ⟨rr, found, first⟩ := getElem?_findIdx_isAlias (cnameTarget_eq_some_iff.mp points)
    obtain ⟨rr', found', second⟩ := getElem?_findIdx_isAlias (cnameTarget_eq_some_iff.mp also)
    rw [same, found'] at found
    cases found
    rw [first] at second
    exact Option.some.inj second

/-! ## Records -/

/-- The address in a record. -/
def Body.address : Body → Option Addr
  | .a address => some (.from4 address)
  | .aaaa address => some (.from16 address)
  | .txt _ | .cname _ | .unknown _ | .other => none

/-- The text in a record, its strings put together. -/
def Body.text : Body → Option Bytes
  | .txt strings => some strings.flatten
  | .a _ | .aaaa _ | .cname _ | .unknown _ | .other => none

/-- The bytes of a record that a query reads as CAA. -/
def Body.caaData (qtype : Nat) : Body → Option Bytes
  | .unknown data => if qtype = typeCAA then some data else none
  | .a _ | .aaaa _ | .txt _ | .cname _ | .other => none

/-- The CAA record in a record, if it can be parsed. -/
def Body.caa (qtype : Nat) (body : Body) : Option CAA :=
  (body.caaData qtype).bind fun data => (parseCAA data).toOption

/-- A record that a query reads as CAA and cannot parse. -/
def Body.Unparsable (qtype : Nat) (body : Body) : Prop :=
  ∃ data err, body.caaData qtype = some data ∧ parseCAA data = .error err

theorem Body.parsable_of_ne (body : Body) (other : qtype ≠ typeCAA) : ¬ body.Unparsable qtype := by
  rintro ⟨data, err, read, _⟩
  cases body <;> simp [Body.caaData, other] at read

/-- The records of the queried type at a name, in packet order. -/
def recordsAt (answers : List Resource) (owner : Bytes) (qtype : Nat) : List Resource :=
  answers.filter fun rr => rr.type = qtype && nameEqual rr.name owner

/-- A result with the data of some records added. -/
def Result.gather (r : Result) (qtype : Nat) (records : List Resource) : Result :=
  { r with
    haveData := r.haveData || !records.isEmpty
    addrs := r.addrs ++ records.filterMap (·.body.address)
    txt := r.txt ++ records.filterMap (·.body.text)
    caa := r.caa ++ records.filterMap (·.body.caa qtype) }

theorem parseCAA_eq_error {data : Bytes} {err : Error} (failed : parseCAA data = .error err) :
    err = .new "unbound: malformed CAA record" := by
  unfold parseCAA at failed
  split at failed
  · split at failed
    · cases failed
      rfl
    · cases failed
  · cases failed
    rfl

/-- What one record adds, or why it cannot. -/
theorem addRecord_eq (r : Result) (qtype : Nat) (body : Body) :
    (body.Unparsable qtype ∧
        addRecord r qtype body = .error (.new "unbound: malformed CAA record")) ∨
      (¬ body.Unparsable qtype ∧ addRecord r qtype body = .ok { r with
        addrs := r.addrs ++ body.address.toList
        txt := r.txt ++ body.text.toList
        caa := r.caa ++ (body.caa qtype).toList }) := by
  cases body with
  | a | aaaa | txt | cname | other =>
      right
      simp [Body.Unparsable, Body.caaData, addRecord, Body.address, Body.text, Body.caa]
  | unknown data =>
      by_cases isCAA : qtype = typeCAA
      · cases parsed : parseCAA data with
        | error err =>
            left
            have message := parseCAA_eq_error parsed
            subst message
            exact ⟨⟨data, _, by simp [Body.caaData, isCAA], parsed⟩,
              by simp [addRecord, isCAA, parsed]⟩
        | ok caa =>
            right
            simp [Body.Unparsable, Body.caaData, addRecord, Body.address, Body.text, Body.caa,
              isCAA, parsed, Except.toOption]
      · right
        simp [Body.Unparsable, Body.caaData, addRecord, Body.address, Body.text, Body.caa, isCAA]

theorem Result.gather_nil (r : Result) (qtype : Nat) : r.gather qtype [] = r := by
  simp [Result.gather]

theorem Result.gather_cons (r : Result) (qtype : Nat) (rr : Resource) (rest : List Resource) :
    r.gather qtype (rr :: rest) = Result.gather { r with
      haveData := true
      addrs := r.addrs ++ rr.body.address.toList
      txt := r.txt ++ rr.body.text.toList
      caa := r.caa ++ (rr.body.caa qtype).toList } qtype rest := by
  have concat : ∀ {α : Type} (old : List α) (read : Resource → Option α),
      old ++ (rr :: rest).filterMap read = (old ++ (read rr).toList) ++ rest.filterMap read := by
    intro α old read
    rw [List.append_assoc, List.filterMap_cons]
    cases read rr with
    | none => rfl
    | some value => rfl
  simp only [Result.gather, concat, List.isEmpty_cons, Bool.not_false, Bool.or_true, Bool.true_or]

/-- A record is skipped or collected. -/
theorem recordsAt_cons (rr : Resource) (rest : List Resource) (owner : Bytes) (qtype : Nat) :
    ((rr.type ≠ qtype ∨ nameEqual rr.name owner = false) ∧
        recordsAt (rr :: rest) owner qtype = recordsAt rest owner qtype) ∨
      (¬ (rr.type ≠ qtype ∨ nameEqual rr.name owner = false) ∧
        recordsAt (rr :: rest) owner qtype = rr :: recordsAt rest owner qtype) := by
  by_cases skipped : rr.type ≠ qtype ∨ nameEqual rr.name owner = false
  · refine .inl ⟨skipped, ?_⟩
    rw [recordsAt, List.filter_cons_of_neg]
    · rfl
    · rcases skipped with other | elsewhere
      · simp [other]
      · simp [elsewhere]
  · refine .inr ⟨skipped, ?_⟩
    rw [recordsAt, List.filter_cons_of_pos]
    · rfl
    · simpa using skipped

theorem collect_of_parsable (r : Result)
    (parsable : ∀ rr ∈ recordsAt answers owner qtype, ¬ rr.body.Unparsable qtype) :
    collect owner qtype answers r = (r.gather qtype (recordsAt answers owner qtype), none) := by
  induction answers generalizing r with
  | nil =>
      rw [collect, recordsAt, List.filter_nil, Result.gather_nil]
  | cons rr rest ih =>
      rw [collect]
      rcases recordsAt_cons rr rest owner qtype with ⟨skipped, same⟩ | ⟨matched, grown⟩
      · rw [same] at parsable ⊢
        rw [if_pos skipped]
        exact ih r parsable
      · rw [grown] at parsable ⊢
        rw [if_neg matched]
        rcases addRecord_eq { r with haveData := true } qtype rr.body with ⟨failed, _⟩ | ⟨_, added⟩
        · exact absurd failed (parsable rr List.mem_cons_self)
        · rw [added, Result.gather_cons]
          exact ih _ fun other member => parsable other (List.mem_cons_of_mem _ member)

theorem collect_of_unparsable (r : Result)
    (failing : ∃ rr ∈ recordsAt answers owner qtype, rr.body.Unparsable qtype) :
    (collect owner qtype answers r).2 = some (.new "unbound: malformed CAA record") := by
  induction answers generalizing r with
  | nil =>
      obtain ⟨rr, member, _⟩ := failing
      cases member
  | cons rr rest ih =>
      rw [collect]
      rcases recordsAt_cons rr rest owner qtype with ⟨skipped, same⟩ | ⟨matched, grown⟩
      · rw [same] at failing
        rw [if_pos skipped]
        exact ih r failing
      · rw [grown] at failing
        rw [if_neg matched]
        rcases addRecord_eq { r with haveData := true } qtype rr.body with
          ⟨_, failed⟩ | ⟨fine, added⟩
        · rw [failed]
        · rw [added]
          apply ih
          obtain ⟨other, member, failed⟩ := failing
          rcases List.mem_cons.mp member with rfl | later
          · exact absurd failed fine
          · exact ⟨other, later, failed⟩

theorem haveData_collect_iff {r : Result} (fresh : r.haveData = false) :
    (collect owner qtype answers r).1.haveData = true ↔
      ∃ rr ∈ answers, rr.type = qtype ∧ nameEqual rr.name owner = true := by
  constructor
  · intro found
    by_contra without
    have none : recordsAt answers owner qtype = [] := by
      rw [recordsAt, List.filter_eq_nil_iff]
      intro rr member matched
      simp only [Bool.and_eq_true, decide_eq_true_eq] at matched
      exact without ⟨rr, member, matched⟩
    rw [collect_of_parsable r (by simp [none]), none, Result.gather_nil, fresh] at found
    cases found
  · intro found
    exact haveData_collect (.inr found)

/-- The name whose records are collected. -/
def answerOwner (answers : List Resource) (qname : Bytes) (qtype : Nat) : Bytes :=
  if qtype = typeCNAME then qname else followCNAMEs answers answers.length qname

theorem parseAnswer_eq {parser : MessageParser} {r : Result}
    (parsed : Answers parser r.answerPacket answers) :
    parseAnswer parser r qname qtype =
      collect (answerOwner answers qname qtype) qtype answers r := by
  obtain ⟨present, started, skipped, sections⟩ := parsed
  simp only [parseAnswer, present, if_false, started, skipped, sections, answerOwner]

theorem answerOwner_of_leadsTo (leads : LeadsTo answers qtype qname final) :
    answerOwner answers qname qtype = final := by
  unfold answerOwner
  split
  next asked =>
    cases leads with
    | here => rfl
    | through follows => exact absurd asked follows
  next follows => exact followCNAMEs_of_leadsTo follows leads

/-- Nothing has been read from the answer yet. -/
structure Result.Fresh (r : Result) : Prop where
  haveData : r.haveData = false
  addrs : r.addrs = []
  txt : r.txt = []
  caa : r.caa = []

/-- Where a chain of CNAME records ends, the walk gets there, and the records of the
queried type at that name, in packet order, are what is reported. -/
theorem parseAnswer_of_leadsTo (parser : MessageParser) (r : Result) (answers : List Resource)
    (qname final : Bytes) (qtype : Nat) (fresh : r.Fresh)
    (parsed : Answers parser r.answerPacket answers)
    (leads : LeadsTo answers qtype qname final) :
    (qtype ≠ typeCNAME → followCNAMEs answers answers.length qname = final) ∧
      ((parseAnswer parser r qname qtype).1.haveData = true ↔
        ∃ rr ∈ answers, rr.type = qtype ∧ nameEqual rr.name final = true) ∧
      ((∃ rr ∈ recordsAt answers final qtype, rr.body.Unparsable qtype) →
        (parseAnswer parser r qname qtype).2 = some (.new "unbound: malformed CAA record")) ∧
      ((∀ rr ∈ recordsAt answers final qtype, ¬ rr.body.Unparsable qtype) →
        (parseAnswer parser r qname qtype).2 = none ∧
        (parseAnswer parser r qname qtype).1.addrs =
          (recordsAt answers final qtype).filterMap (·.body.address) ∧
        (parseAnswer parser r qname qtype).1.txt =
          (recordsAt answers final qtype).filterMap (·.body.text) ∧
        (parseAnswer parser r qname qtype).1.caa =
          (recordsAt answers final qtype).filterMap (·.body.caa qtype)) := by
  rw [parseAnswer_eq parsed, answerOwner_of_leadsTo leads]
  refine ⟨fun follows => followCNAMEs_of_leadsTo follows leads,
    haveData_collect_iff fresh.haveData, collect_of_unparsable r, ?_⟩
  intro parsable
  rw [collect_of_parsable r parsable]
  simp [Result.gather, fresh.addrs, fresh.txt, fresh.caa]

/-- A parser that reads every packet as one answer section. -/
def sectionParser (answers : List Resource) : MessageParser :=
  { emptyParser with allAnswers := fun _ => .ok answers }

/-- A result that has only its packet. -/
def bareResult : Result := ⟨false, false, false, [0], [], [], []⟩

theorem fresh_bareResult : bareResult.Fresh := ⟨rfl, rfl, rfl, rfl⟩

theorem answers_sectionParser (answers : List Resource) :
    Answers (sectionParser answers) bareResult.answerPacket answers :=
  ⟨by decide, rfl, rfl, rfl⟩

/-- A text record at `b.`, behind which `A.` is an alias of `B.`. -/
def mixedCaseAnswer : List Resource :=
  [⟨[98, 46], 16, .txt [[118, 61], [49]], by decide⟩, ⟨[65, 46], 5, .cname [66, 46], by decide⟩]

theorem parseAnswer_of_leadsTo_mixedCase :
    LeadsTo mixedCaseAnswer 16 [97, 46] [66, 46] ∧
      (parseAnswer (sectionParser mixedCaseAnswer) bareResult [97, 46] 16).1.txt =
        [[118, 61, 49]] := by
  have points : AliasOf mixedCaseAnswer [97, 46] [66, 46] :=
    cnameTarget_eq_some_iff.mp (by decide)
  have last : NoAlias mixedCaseAnswer [66, 46] := cnameTarget_eq_none_iff.mp (by decide)
  have leads : LeadsTo mixedCaseAnswer 16 [97, 46] [66, 46] :=
    .through (by decide) points (.here (.inr last))
  have whole := parseAnswer_of_leadsTo (sectionParser mixedCaseAnswer) bareResult
    mixedCaseAnswer [97, 46] [66, 46] 16 fresh_bareResult (answers_sectionParser _) leads
  refine ⟨leads, (whole.2.2.2 ?_).2.2.1.trans (by decide)⟩
  intro rr _
  exact rr.body.parsable_of_ne (by decide)

/-! ## Circles -/

/-- The name a number of links along the chain from a name. -/
def nameAfter (answers : List Resource) (qname : Bytes) (links : Nat) : Option Bytes :=
  Chain.ahead (cnameTarget answers) links qname

/-- A name equal to one of the chain. -/
def OnChain (answers : List Resource) (qname owner : Bytes) : Prop :=
  ∃ links name, nameAfter answers qname links = some name ∧ nameEqual owner name = true

/-- No record of the queried type stands at the name a number of links along. -/
def BareAfter (answers : List Resource) (qname : Bytes) (qtype links : Nat) : Prop :=
  ∀ name, nameAfter answers qname links = some name →
    ∀ rr ∈ answers, rr.type = qtype → nameEqual rr.name name = false

/-- What the caller learns from the answer. -/
def reported (outcome : Result × Option Error) :
    Bool × List Addr × List Bytes × List CAA × Option Error :=
  (outcome.1.haveData, outcome.1.addrs, outcome.1.txt, outcome.1.caa, outcome.2)

/-- The report of no data. -/
def noData : Bool × List Addr × List Bytes × List CAA × Option Error := (false, [], [], [], none)

/-- A chain among names that are all aliases of one another never ends. -/
theorem not_leadsTo_of_circle (circle : List Bytes) (follows : qtype ≠ typeCNAME)
    (goesOn : ∀ name ∈ circle, ∃ target ∈ circle, cnameTarget answers name = some target)
    (member : qname ∈ circle) (final : Bytes) : ¬ LeadsTo answers qtype qname final := by
  intro leads
  induction leads with
  | here last =>
      rcases last with asked | without
      · exact follows asked
      · obtain ⟨target, _, points⟩ := goesOn _ member
        rw [cnameTarget_eq_none_iff.mpr without] at points
        cases points
  | through _ points _ ih =>
      obtain ⟨target, inside, same⟩ := goesOn _ member
      rw [cnameTarget_eq_some_iff.mpr points] at same
      cases same
      exact ih inside

/-- A chain that never ends is left after as many links as there are records. -/
theorem exists_nameAfter (follows : qtype ≠ typeCNAME)
    (endless : ∀ final, ¬ LeadsTo answers qtype qname final) (links : Nat) :
    ∃ name, nameAfter answers qname links = some name := by
  have goesOn : Chain.Endless (cnameTarget answers) qname :=
    Chain.endless_of_not_ends fun final ends => endless final (leadsTo_of_ends follows ends)
  exact Option.isSome_iff_exists.mp (goesOn links)

theorem answerOwner_of_nameAfter {name : Bytes} (follows : qtype ≠ typeCNAME)
    (there : nameAfter answers qname answers.length = some name) :
    answerOwner answers qname qtype = name := by
  rw [answerOwner, if_neg follows, followCNAMEs_eq]
  exact Chain.follow_of_ahead there

/-- Nothing is reported exactly where nothing is found. -/
theorem reported_eq_noData_iff {r : Result} (fresh : r.Fresh) :
    reported (collect owner qtype answers r) = noData ↔
      ∀ rr ∈ answers, rr.type = qtype → nameEqual rr.name owner = false := by
  constructor
  · intro silent rr member isType
    by_contra equal
    have found := haveData_collect (r := r)
      (.inr ⟨rr, member, isType, by simpa using equal⟩ : _ ∨ _)
    have without : (collect owner qtype answers r).1.haveData = false := congrArg Prod.fst silent
    rw [found] at without
    cases without
  · intro bare
    have none : recordsAt answers owner qtype = [] := by
      rw [recordsAt, List.filter_eq_nil_iff]
      intro rr member matched
      simp only [Bool.and_eq_true, decide_eq_true_eq] at matched
      rw [bare rr member matched.1] at matched
      cases matched.2
    rw [collect_of_parsable r (by simp [none]), none, Result.gather_nil, reported, fresh.haveData,
      fresh.addrs, fresh.txt, fresh.caa, noData]

/-- On a chain without an end, nothing is reported exactly where the walk stops at a
name without records of the queried type. -/
theorem parseAnswer_endless_iff {parser : MessageParser} {r : Result} (follows : qtype ≠ typeCNAME)
    (endless : ∀ final, ¬ LeadsTo answers qtype qname final) (fresh : r.Fresh)
    (parsed : Answers parser r.answerPacket answers) :
    reported (parseAnswer parser r qname qtype) = noData ↔
      BareAfter answers qname qtype answers.length := by
  obtain ⟨name, there⟩ := exists_nameAfter follows endless answers.length
  rw [parseAnswer_eq parsed, answerOwner_of_nameAfter follows there, reported_eq_noData_iff fresh]
  constructor
  · intro bare other same
    rw [there] at same
    cases same
    exact bare
  · intro bare
    exact bare name there

/-! A record whose owner is not on the chain changes nothing but the number of links. -/

variable {before rest : List Resource} {extra : Resource}

theorem cnameTarget_insert (off : nameEqual extra.name owner = false) :
    cnameTarget (before ++ extra :: rest) owner = cnameTarget (before ++ rest) owner := by
  have skipped : isAlias owner extra = false := isAlias_eq_false_iff.mpr fun _ => off
  rw [cnameTarget_eq, cnameTarget_eq, List.find?_append, List.find?_append, List.find?_cons,
    skipped]

theorem nameAfter_insert (off : ¬ OnChain (before ++ rest) qname extra.name) (links : Nat) :
    nameAfter (before ++ extra :: rest) qname links = nameAfter (before ++ rest) qname links := by
  apply Chain.ahead_congr
  intro more name there
  apply cnameTarget_insert
  by_contra equal
  exact off ⟨more, name, there, by simpa using equal⟩

theorem leadsTo_insert (follows : qtype ≠ typeCNAME)
    (off : ¬ OnChain (before ++ rest) qname extra.name)
    (endless : ∀ final, ¬ LeadsTo (before ++ rest) qtype qname final) (final : Bytes) :
    ¬ LeadsTo (before ++ extra :: rest) qtype qname final := by
  intro leads
  obtain ⟨last, links, reached⟩ := Chain.exists_ahead_of_ends (ends_of_leadsTo follows leads)
  obtain ⟨name, there⟩ := exists_nameAfter follows endless (links + 1)
  rw [← nameAfter_insert off, nameAfter, Chain.ahead_add, reached, Option.bind_some,
    Chain.ahead_of_end last 0] at there
  cases there

theorem bareAfter_insert (off : ¬ OnChain (before ++ rest) qname extra.name) (links : Nat) :
    BareAfter (before ++ extra :: rest) qname qtype links ↔
      BareAfter (before ++ rest) qname qtype links := by
  unfold BareAfter
  rw [nameAfter_insert off]
  constructor
  · intro bare name there rr member
    apply bare name there
    simp only [List.mem_append, List.mem_cons] at member ⊢
    tauto
  · intro bare name there rr member isType
    simp only [List.mem_append, List.mem_cons] at member
    rcases member with early | rfl | late
    · exact bare name there rr (List.mem_append_left _ early) isType
    · by_contra equal
      exact off ⟨links, name, there, by simpa using equal⟩
    · exact bare name there rr (List.mem_append_right _ late) isType

/-- The query name and everything a record points to. -/
def chainNames (answers : List Resource) (qname : Bytes) : List Bytes :=
  qname :: answers.filterMap (·.body.target)

theorem mem_chainNames {links : Nat} {name : Bytes}
    (there : nameAfter answers qname links = some name) : name ∈ chainNames answers qname := by
  cases links with
  | zero =>
      cases there
      exact List.mem_cons_self
  | succ links =>
      rw [nameAfter, Chain.ahead_add, Option.bind_eq_some_iff] at there
      obtain ⟨owner, _, leads⟩ := there
      rw [Chain.ahead, Option.bind_eq_some_iff] at leads
      obtain ⟨target, points, same⟩ := leads
      cases same
      rw [cnameTarget_eq, Option.bind_eq_some_iff] at points
      obtain ⟨rr, found, leads⟩ := points
      apply List.mem_cons_of_mem
      exact List.mem_filterMap.mpr ⟨rr, List.mem_of_find?_eq_some found, leads⟩

/-- A name longer than all of a chain is not on it. -/
theorem exists_off_chain (answers : List Resource) (qname : Bytes) :
    ∃ name, ¬ OnChain answers qname name := by
  let length := (chainNames answers qname).flatten.length + 1
  refine ⟨List.replicate length 97, ?_⟩
  rintro ⟨links, name, there, equal⟩
  have short : name.length ≤ (chainNames answers qname).flatten.length :=
    (List.sublist_flatten_of_mem (mem_chainNames there)).length_le
  have long : (runes (List.replicate length 97)).length = length := by
    rw [runes_of_ascii, List.length_map, List.length_replicate]
    intro byte member
    rw [List.eq_of_mem_replicate member]
    decide
  have same := length_runes_of_equalFold equal
  have bound := length_runes_le name
  omega

/-- On a chain of CNAME records without an end, the answer section yields no data, with
or without one more record off the chain, exactly when no record of the queried type
stands at the name as many links along as there are records, or at the next one. -/
theorem endless_chain_silent_iff (answers : List Resource) (qname : Bytes) (qtype : Nat)
    (follows : qtype ≠ typeCNAME) (endless : ∀ final, ¬ LeadsTo answers qtype qname final) :
    ((∀ parser r, r.Fresh → Answers parser r.answerPacket answers →
        reported (parseAnswer parser r qname qtype) = noData) ∧
      ∀ before extra rest, answers = before ++ rest → ¬ OnChain answers qname extra.name →
        ∀ parser r parser' r', r.Fresh → r'.Fresh → Answers parser r.answerPacket answers →
          Answers parser' r'.answerPacket (before ++ extra :: rest) →
          reported (parseAnswer parser' r' qname qtype) =
            reported (parseAnswer parser r qname qtype)) ↔
      BareAfter answers qname qtype answers.length ∧
        BareAfter answers qname qtype (answers.length + 1) := by
  have longer : ∀ before rest (extra : Resource), answers = before ++ rest →
      (before ++ extra :: rest).length = answers.length + 1 := by
    rintro before rest extra rfl
    simp only [List.length_append, List.length_cons]
    omega
  constructor
  · rintro ⟨silent, unchanged⟩
    obtain ⟨name, off⟩ := exists_off_chain answers qname
    have sections := answers_sectionParser answers
    have first := silent _ _ fresh_bareResult sections
    let extra : Resource := ⟨name, 1, .other, by decide⟩
    have apart : ¬ OnChain ([] ++ answers) qname extra.name := off
    have second := unchanged [] extra answers rfl off _ _ _ _ fresh_bareResult fresh_bareResult
      sections (answers_sectionParser _)
    rw [first, parseAnswer_endless_iff follows (leadsTo_insert follows apart endless)
      fresh_bareResult (answers_sectionParser _), longer [] answers _ rfl,
      bareAfter_insert apart] at second
    exact ⟨(parseAnswer_endless_iff follows endless fresh_bareResult sections).mp first, second⟩
  · rintro ⟨bare, bareNext⟩
    have silent : ∀ parser r, r.Fresh → Answers parser r.answerPacket answers →
        reported (parseAnswer parser r qname qtype) = noData := by
      intro parser r fresh parsed
      exact (parseAnswer_endless_iff follows endless fresh parsed).mpr bare
    refine ⟨silent, ?_⟩
    intro before extra rest split off parser r parser' r' fresh fresh' parsed parsed'
    rw [silent parser r fresh parsed]
    have length := longer before rest extra split
    subst split
    rw [parseAnswer_endless_iff follows (leadsTo_insert follows off endless) fresh' parsed', length,
      bareAfter_insert off]
    exact bareNext

/-- `a.` and `b.` are aliases of each other, and a text record stands at `b.`. -/
def circleAnswer : List Resource :=
  [⟨[97, 46], 5, .cname [98, 46], by decide⟩, ⟨[98, 46], 5, .cname [97, 46], by decide⟩,
    ⟨[98, 46], 16, .txt [[118]], by decide⟩]

/-- Three records lead the walk from `a.` to `b.`, whose text is reported. -/
theorem circleAnswer_reports_data :
    (∀ final, ¬ LeadsTo circleAnswer 16 [97, 46] final) ∧
      Answers (sectionParser circleAnswer) bareResult.answerPacket circleAnswer ∧
      reported (parseAnswer (sectionParser circleAnswer) bareResult [97, 46] 16) =
        (true, [], [[118]], [], none) :=
  ⟨not_leadsTo_of_circle [[97, 46], [98, 46]] (by decide) (by decide) (by decide),
    answers_sectionParser _, by decide⟩

/-- `a.` is an alias of itself, and a text record stands at `c.`. -/
def quietCircle : List Resource :=
  [⟨[97, 46], 5, .cname [97, 46], by decide⟩, ⟨[99, 46], 16, .txt [[118]], by decide⟩]

theorem endless_chain_silent_iff_quietCircle :
    (∀ final, ¬ LeadsTo quietCircle 16 [97, 46] final) ∧
      reported (parseAnswer (sectionParser quietCircle) bareResult [97, 46] 16) = noData := by
  have endless : ∀ final, ¬ LeadsTo quietCircle 16 [97, 46] final :=
    not_leadsTo_of_circle [[97, 46]] (by decide) (by decide) (by decide)
  have bare : ∀ links, nameAfter quietCircle [97, 46] links = some [97, 46] →
      BareAfter quietCircle [97, 46] 16 links := by
    intro links there name same rr member isType
    rw [there] at same
    cases same
    revert rr
    decide
  have silent := (endless_chain_silent_iff quietCircle [97, 46] 16 (by decide) endless).mpr
    ⟨bare 2 (by decide), bare 3 (by decide)⟩
  exact ⟨endless, silent.1 _ _ fresh_bareResult (answers_sectionParser _)⟩

end UnboundWasm.Host
