import Mathlib.Data.List.Infix
import UnboundWasm.Guest.Setup

/-!
# Configuration is all or nothing

Every `warmup` and `resolve_start` goes through `ensure_ctx`, which applies the saved texts
once.  A log of the calls shows what was applied, what libunbound answered and what was
returned; the invariant relates it to `ctx` and `ctx_err`.
-/

namespace UnboundWasm.Guest

open UnboundWasm.Lib UnboundWasm.Host

/-- What is passed on of the lines of a text. -/
def passedLines (text : Bytes) : List Bytes :=
  (textLines text).filterMap fun line => lineText line.bytes

/-- The calls that apply an input in full, `none` where a line has no call. -/
def fullCalls (input : Input) (text : Bytes) : List (Input × Option ConfigCall × Option UbError) :=
  (passedLines text).map fun line => (input, configCall input line, none)

def Made.entry (made : Made) : Input × Option ConfigCall × Option UbError :=
  (made.input, some made.call, made.result)

/-- The calls a log of reports shows. -/
def madeCalls (log : List Report) : List (Input × Option ConfigCall × Option UbError) :=
  (log.flatMap fun report => report.calls).map Made.entry

/-- The calls that apply three texts in full. -/
def allCalls (text : Input → Bytes) : List (Input × Option ConfigCall × Option UbError) :=
  [.config, .anchors, .hints].flatMap fun kind => fullCalls kind (text kind)

/-- Every line of every text was applied, in order, and libunbound accepted each. -/
def AppliedInFull (text : Input → Bytes) (log : List Report) : Prop :=
  madeCalls log = allCalls text

/-- The C strings that the copies of the inputs are read as. -/
def strings (input : Input → Bytes) (kind : Input) : Bytes := cString (copyInput (input kind))

/-- Configuration is all or nothing, and a failure stays. -/
structure AllOrNothing (text : Input → Bytes) (log : List Report) : Prop where
  /-- Each input is begun once at most, in the order of `ensure_ctx`. -/
  order : (log.flatMap fun report => report.begun) <+: [.config, .anchors, .hints]
  /-- `ub_resolve_event` is reached only when everything has been applied and nothing has
  failed. -/
  resolved : ∀ before report later, log = before ++ report :: later → report.resolved = true →
    AppliedInFull text (before ++ [report]) ∧
      ∀ earlier ∈ before, earlier.failure = none ∧ (earlier.warmup = true → earlier.value = 0)
  /-- After a failure every call returns its number. -/
  sticky : ∀ before report later err, log = before ++ report :: later →
    report.failure = some err →
    -ubErrno err < 0 ∧ report.value = -ubErrno err ∧ ∀ next ∈ later, next.value = -ubErrno err

/-! ## What a NUL cuts off -/

theorem nul_notMem_lineText {line text : Bytes} (clean : 0 ∉ line)
    (passed : lineText line = some text) : 0 ∉ text := by
  simp only [lineText] at passed
  split at passed
  · cases passed
  · cases passed
    intro member
    exact clean ((List.dropWhile_sublist _).subset ((List.rdropWhile_prefix _ _).subset member))

/-- The lines before a NUL, and the line it stands in. -/
theorem textLines_append_nul {before : Bytes} (clean : 0 ∉ before) (behind : Bytes) :
    ∃ (lines : List Line) (start rest : Bytes) (ended : Bool) (more : List Line),
      textLines (before ++ 0 :: behind) = lines ++ ⟨start ++ 0 :: rest, ended⟩ :: more ∧
      textLines before = lines ++ (if start = [] then [] else [⟨start, false⟩]) ∧
      (∀ line ∈ lines, 0 ∉ line.bytes) ∧ 0 ∉ start := by
  induction before with
  | nil =>
      simp only [List.nil_append, textLines, if_neg (show (0 : UInt8) ≠ newline by decide)]
      cases textLines behind with
      | nil => exact ⟨[], [], [], false, [], by simp⟩
      | cons line more => exact ⟨[], [], line.bytes, line.ended, more, by simp⟩
  | cons byte before ih =>
      rw [List.mem_cons, not_or] at clean
      obtain ⟨lines, start, rest, ended, more, whole, cut, others, cleanStart⟩ := ih clean.2
      simp only [List.cons_append, textLines]
      split
      next =>
        refine ⟨⟨[], true⟩ :: lines, start, rest, ended, more, by simp [whole], by simp [cut], ?_,
          cleanStart⟩
        simpa using others
      next =>
        rw [whole, cut]
        cases lines with
        | nil =>
            refine ⟨[], byte :: start, rest, ended, more, by simp, ?_, by simp, ?_⟩
            · by_cases empty : start = []
              · simp [empty]
              · simp [empty]
            · simp [clean.1, cleanStart]
        | cons line lines =>
            refine ⟨{ line with bytes := byte :: line.bytes } :: lines, start, rest, ended, more,
              by simp, by simp, ?_, cleanStart⟩
            simp only [List.mem_cons, forall_eq_or_imp, not_or] at others ⊢
            exact ⟨⟨clean.1, others.1⟩, others.2⟩

/-- What is not dropped stays. -/
theorem mem_dropWhile {p : UInt8 → Bool} {byte : UInt8} {bytes : Bytes} (member : byte ∈ bytes)
    (kept : p byte = false) : byte ∈ bytes.dropWhile p := by
  induction bytes with
  | nil => cases member
  | cons first bytes ih =>
      rw [List.dropWhile_cons]
      split
      next dropped =>
        rcases List.mem_cons.mp member with rfl | member
        · rw [kept] at dropped
          cases dropped
        · exact ih member
      · exact member

theorem nul_mem_rdropWhile {bytes : Bytes} (member : 0 ∈ bytes) :
    0 ∈ bytes.rdropWhile isBlank := by
  rw [List.rdropWhile, List.mem_reverse]
  exact mem_dropWhile (List.mem_reverse.mpr member) (by decide)

/-- A NUL is not blank and no comment sign, so it stays in a line that is passed on. -/
theorem lineText_nul (start rest : Bytes) :
    (lineText (start ++ 0 :: rest) = none ∧ lineText start = none) ∨
      ∃ text, lineText (start ++ 0 :: rest) = some text ∧ 0 ∈ text := by
  simp only [lineText]
  cases left : start.dropWhile isBlank with
  | nil =>
      have dropped : (start ++ 0 :: rest).dropWhile isBlank = 0 :: rest := by
        rw [List.dropWhile_append, left]
        simp [show isBlank 0 = false by decide]
      rw [dropped, if_neg (by simp [hashSign])]
      exact .inr ⟨_, rfl, nul_mem_rdropWhile List.mem_cons_self⟩
  | cons first line =>
      have dropped : (start ++ 0 :: rest).dropWhile isBlank = first :: line ++ 0 :: rest := by
        rw [List.dropWhile_append, left]
        rfl
      rw [dropped]
      by_cases comment : first = hashSign
      · exact .inl (by simp [comment])
      · rw [if_neg (by simp [comment])]
        exact .inr ⟨_, rfl, nul_mem_rdropWhile (by simp)⟩

theorem mem_of_mem_textLines {text : Bytes} {line : Line} {byte : UInt8}
    (member : line ∈ textLines text) (inside : byte ∈ line.bytes) : byte ∈ text := by
  induction text generalizing line with
  | nil => cases member
  | cons first text ih =>
      simp only [textLines] at member
      split at member
      · rcases List.mem_cons.mp member with rfl | member
        · cases inside
        · exact List.mem_cons_of_mem _ (ih member inside)
      · cases lines : textLines text with
        | nil =>
            rw [lines] at member
            rw [List.mem_singleton.mp member] at inside
            rw [List.mem_singleton.mp inside]
            exact List.mem_cons_self
        | cons head rest =>
            rw [lines] at member ih
            rcases List.mem_cons.mp member with rfl | member
            · rcases List.mem_cons.mp inside with rfl | inside
              · exact List.mem_cons_self
              · exact List.mem_cons_of_mem _ (ih List.mem_cons_self inside)
            · exact List.mem_cons_of_mem _ (ih (List.mem_cons_of_mem _ member) inside)

theorem cString_append_nul {before : Bytes} (clean : 0 ∉ before) (behind : Bytes) :
    cString (copyInput (before ++ 0 :: behind)) = before := by
  have string := cString_copyInput clean
  unfold cString copyInput at string ⊢
  rw [List.append_assoc]
  rw [List.takeWhile_append] at string ⊢
  split
  next whole => simp
  next cut =>
    rw [if_neg cut] at string
    exact string

/-- From the first line that holds a NUL on, every line is blank or a comment. -/
def Uncut (text : Bytes) : Prop :=
  ∀ line ∈ (textLines text).dropWhile (fun line => 0 ∉ line.bytes), lineText line.bytes = none

instance (text : Bytes) : Decidable (Uncut text) := inferInstanceAs (Decidable (∀ _ ∈ _, _))

/-- The C string loses no line iff none is left to lose. -/
theorem passedLines_cString_iff (text : Bytes) :
    passedLines (cString (copyInput text)) = passedLines text ↔ Uncut text := by
  unfold Uncut
  by_cases nul : 0 ∈ text
  · obtain ⟨before, behind, rfl, clean⟩ := List.eq_append_cons_of_mem nul
    obtain ⟨lines, start, rest, ended, more, whole, cut, others, cleanStart⟩ :=
      textLines_append_nul clean behind
    have tail : (textLines (before ++ 0 :: behind)).dropWhile (fun line => 0 ∉ line.bytes) =
        ⟨start ++ 0 :: rest, ended⟩ :: more := by
      rw [whole, List.dropWhile_append_of_pos (by simpa using others),
        List.dropWhile_cons_of_neg (by simp)]
    have short : passedLines before =
        (lines.filterMap fun line => lineText line.bytes) ++ (lineText start).toList := by
      rw [passedLines, cut, List.filterMap_append]
      split
      next empty => simp [empty, lineText]
      · cases passed : lineText start <;> simp [passed]
    rw [cString_append_nul clean, tail, short]
    rcases lineText_nul start rest with ⟨skipped, skippedStart⟩ | ⟨text, passed, inside⟩
    · have long : passedLines (before ++ 0 :: behind) =
          (lines.filterMap fun line => lineText line.bytes) ++
            more.filterMap fun line => lineText line.bytes := by
        simp [passedLines, whole, skipped]
      rw [long, skippedStart, Option.toList_none, List.append_cancel_left_eq, eq_comm,
        List.filterMap_eq_nil_iff]
      simp [skipped]
    · have long : passedLines (before ++ 0 :: behind) =
          (lines.filterMap fun line => lineText line.bytes) ++
            text :: more.filterMap fun line => lineText line.bytes := by
        simp [passedLines, whole, passed]
      rw [long, List.append_cancel_left_eq]
      refine iff_of_false ?_ (by simp [passed])
      intro same
      cases shown : lineText start with
      | none => simp [shown] at same
      | some first =>
          rw [shown, Option.toList_some, List.cons.injEq] at same
          exact nul_notMem_lineText cleanStart shown (same.1 ▸ inside)
  · have none : (textLines text).dropWhile (fun line => 0 ∉ line.bytes) = [] := by
      rw [List.dropWhile_eq_nil_iff]
      intro line member
      simpa using fun inside => nul (mem_of_mem_textLines member inside)
    rw [cString_copyInput nul, none]
    simp

/-! ## One setup -/

theorem applyLines_calls {input : Input} {answers : Nat → Option UbError} {lines : List Line}
    {made : Nat} (accepted : (applyLines input answers lines made).failure = none) :
    (applyLines input answers lines made).calls.map Made.entry =
      (lines.filterMap fun line => lineText line.bytes).map
        fun line => (input, configCall input line, none) := by
  induction lines generalizing made with
  | nil => rfl
  | cons line rest ih =>
      unfold applyLines at accepted ⊢
      cases found : lineText line.bytes with
      | none =>
          simp only [found] at accepted
          simp only [List.filterMap_cons, found]
          exact ih accepted
      | some text =>
          simp only [found] at accepted
          simp only [List.filterMap_cons, found]
          cases turned : configCall input text with
          | none => simp [turned] at accepted
          | some call =>
              simp only [turned] at accepted ⊢
              cases answer : answers made with
              | some err => simp [answer] at accepted
              | none =>
                  simp only [answer] at accepted ⊢
                  simp only [List.map_cons, Made.entry, turned, ih accepted]

/-- A refused `resolve_start` returns its refusal. -/
theorem Slots.value_of_refusal {g after : Slots} {start : Start} {during : List Completion}
    {refusal value : Int} (refused : g.refusal start = some refusal)
    (returned : g.start start during = some (value, after)) : value = refusal := by
  rw [Slots.start, refused, Option.map_eq_some_iff] at returned
  obtain ⟨_, -, same⟩ := returned
  exact (congrArg Prod.fst same).symm

theorem ubErrno_pos (err : UbError) : 0 < ubErrno err := by
  cases err <;> decide

theorem Slots.refusal_neg {g : Slots} {start : Start} {refusal : Int}
    (refused : g.refusal start = some refusal) : refusal < 0 := by
  unfold Slots.refusal at refused
  split at refused
  next err _ =>
    cases refused
    have positive := ubErrno_pos err
    omega
  · split at refused
    · split at refused
      · cases refused
        decide
      · cases refused
    · cases refused
      decide

namespace Setup

variable {s after : Setup}

/-- What applying the inputs comes to. -/
structure Applies (s : Setup) (text : Input → Bytes) (inputs : List Input)
    (outcome : Setup × Progress) : Prop where
  ctx : outcome.1.ctx = s.ctx
  config : (outcome.1.saved .config).isSome = (s.saved .config).isSome
  begun : outcome.2.begun <+: inputs
  failed : ∀ err, outcome.2.failure = some err → outcome.1.ctxErr = some err
  accepted : outcome.2.failure = none → outcome.1.ctxErr = s.ctxErr ∧ outcome.2.begun = inputs ∧
    outcome.2.calls.map Made.entry =
      inputs.flatMap fun input => fullCalls input (cString (text input))

theorem applyInputs_spec {text : Input → Bytes} (answers : Nat → Option UbError)
    (inputs : List Input) (distinct : inputs.Nodup) (s : Setup) (made : Nat)
    (saved : ∀ input ∈ inputs, s.saved input = some (text input)) :
    Applies s text inputs (applyInputs answers inputs s made) := by
  induction inputs generalizing s made with
  | nil => exact ⟨rfl, rfl, List.prefix_rfl, by simp [applyInputs], by simp [applyInputs]⟩
  | cons input rest ih =>
      have here := saved input List.mem_cons_self
      have kept (buffer : Bytes) :
          (Function.update s.saved input (some buffer) .config).isSome =
            (s.saved .config).isSome := by
        by_cases same : Input.config = input
        · rw [same, here, Function.update_self]
          rfl
        · rw [Function.update_of_ne same]
      unfold applyInputs
      simp only [here]
      cases failure :
          (applyLines input answers (textLines (cString (text input))) made).failure with
      | some err =>
          refine ⟨rfl, kept _, ?_, ?_, by simp⟩
          · exact List.prefix_append [input] rest
          · intro err' same
            cases same
            rfl
      | none =>
          have later := ih (List.nodup_cons.mp distinct).2
            { s with
              saved := Function.update s.saved input
                (some ((applyLines input answers (textLines (cString (text input))) made).text ++
                  (text input).drop (cString (text input)).length)) }
            (made + (applyLines input answers (textLines (cString (text input))) made).calls.length)
            (by
              intro other member
              rw [← saved other (List.mem_cons_of_mem _ member)]
              refine Function.update_of_ne ?_ _ _
              rintro rfl
              exact (List.nodup_cons.mp distinct).1 member)
          refine ⟨later.ctx, later.config.trans (kept _), ?_, later.failed, ?_⟩
          · exact (List.prefix_cons_inj input).mpr later.begun
          · intro accepted
            obtain ⟨untouched, all, calls⟩ := later.accepted accepted
            refine ⟨untouched, by rw [all], ?_⟩
            rw [List.map_append, calls, applyLines_calls failure, List.flatMap_cons]
            rfl

/-- What `ensure_ctx` can do. -/
inductive Ensured (s : Setup) : Setup → Progress → Prop where
  | poisoned {err : UbError} (stuck : s.ctxErr = some err) : Ensured s s ⟨[], [], some err⟩
  | present (fine : s.ctxErr = none) (made : s.ctx = true) : Ensured s s ⟨[], [], none⟩
  | uncreated (fine : s.ctxErr = none) (missing : s.ctx = false) :
      Ensured s { s with ctxErr := some .ubNomem } ⟨[], [], some .ubNomem⟩
  | applied (fine : s.ctxErr = none) (missing : s.ctx = false) (answers : Nat → Option UbError) :
      Ensured s (applyInputs answers [.config, .anchors, .hints] { s with ctx := true } 0).1
        (applyInputs answers [.config, .anchors, .hints] { s with ctx := true } 0).2

theorem ensured (s : Setup) (env : SetupEnv) :
    Ensured s (s.ensureCtx env).1 (s.ensureCtx env).2 := by
  unfold ensureCtx
  split
  next err stuck => exact .poisoned stuck
  next fine =>
    split
    next made => exact .present fine made
    next missing =>
      have missing : s.ctx = false := by simpa using missing
      split
      · exact .applied fine missing env.answers
      · exact .uncreated fine missing

/-- What `warmup` and `resolve_start` can do. The setup may fail in `ensure_ctx`, or in
`ensure_worker` after it. -/
inductive Called (s after : Setup) (report : Report) : Prop where
  | ensured {between : Setup} (ensured : Ensured s between report.toProgress)
      (ctx : after.ctx = between.ctx) (saved : after.saved = between.saved)
      (ctxErr : after.ctxErr = between.ctxErr)
      (value : ∀ err, report.failure = some err → report.value = -ubErrno err)
      (warm : report.failure = none → report.warmup = true → report.value = 0)
      (resolved : report.resolved = true → report.failure = none)
      (started : 0 < report.value → report.resolved = true)
  | unfinished {between : Setup} {err : UbError}
      (ensured : Ensured s between { report.toProgress with failure := none })
      (ctx : after.ctx = between.ctx) (saved : after.saved = between.saved)
      (ctxErr : after.ctxErr = some err) (failure : report.failure = some err)
      (value : report.value = -ubErrno err) (unresolved : report.resolved = false)

/-- What `ensure_worker` can do. -/
theorem ensureWorker_cases (s : Setup) (env : SetupEnv) :
    (s.ensureWorker env).1.ctx = s.ctx ∧ (s.ensureWorker env).1.saved = s.saved ∧
      (((s.ensureWorker env).2 = none ∧ (s.ensureWorker env).1.ctxErr = s.ctxErr) ∨
        ∃ err, (s.ensureWorker env).2 = some err ∧ (s.ensureWorker env).1.ctxErr = some err) := by
  unfold ensureWorker
  split
  next err _ => exact ⟨rfl, rfl, .inr ⟨err, rfl, rfl⟩⟩
  · dsimp only
    split
    · exact ⟨rfl, rfl, .inl ⟨rfl, rfl⟩⟩
    · split
      · exact ⟨rfl, rfl, .inl ⟨rfl, rfl⟩⟩
      · exact ⟨rfl, rfl, .inr ⟨.ubNomem, rfl, rfl⟩⟩

theorem called_of_warmup (s : Setup) (env : SetupEnv) :
    Called s (s.guestWarmup env).1 (s.guestWarmup env).2 := by
  have ensured := ensured s env
  unfold guestWarmup
  generalize s.ensureCtx env = pair at ensured ⊢
  obtain ⟨between, begun, calls, failure⟩ := pair
  cases failure with
  | some err =>
      have positive := ubErrno_pos err
      refine .ensured ensured rfl rfl rfl ?_ (by simp) (by simp) ?_
      · intro err' same
        cases same
        rfl
      · intro started
        dsimp only at started
        omega
  | none =>
      dsimp only at ensured ⊢
      obtain ⟨ctx, saved, outcome⟩ := ensureWorker_cases between env
      generalize between.ensureWorker env = worked at ctx saved outcome ⊢
      obtain ⟨final, failure⟩ := worked
      rcases outcome with ⟨none, ctxErr⟩ | ⟨err, failed, ctxErr⟩
      · cases none
        exact .ensured ensured ctx saved ctxErr (by simp) (fun _ _ => rfl) (by simp) (by simp)
      · cases failed
        exact .unfinished ensured ctx saved ctxErr rfl rfl rfl

theorem called_of_resolveStart {env : SetupEnv} {query : StartArgs} {report : Report}
    (returned : s.guestResolveStart env query = some (after, report)) :
    Called s after report := by
  have ensured := ensured s env
  unfold guestResolveStart at returned
  dsimp only at returned
  split at returned
  · cases returned
  next value slots started =>
    cases returned
    refine .ensured ensured rfl rfl rfl ?_ (by simp) ?_ ?_
    · intro err failure
      dsimp only at failure
      have refused : query.slots.refusal ⟨(s.ensureCtx env).2.failure, query.copied, query.result⟩ =
          some (-ubErrno err) := by
        simp only [Slots.refusal, failure]
      exact Slots.value_of_refusal refused started
    · intro resolved
      dsimp only at resolved ⊢
      cases failure : (s.ensureCtx env).2.failure with
      | none => rfl
      | some err => simp [Slots.refusal, failure] at resolved
    · intro positive
      dsimp only at positive ⊢
      cases refused : query.slots.refusal
          ⟨(s.ensureCtx env).2.failure, query.copied, query.result⟩ with
      | none => rfl
      | some refusal =>
          rw [Slots.value_of_refusal refused started] at positive
          have negative := Slots.refusal_neg refused
          omega

end Setup

/-! ## Whole runs -/

variable {input : Input → Bytes} {s after : Setup} {log : List Report} {report : Report}

/-- The report fits a log of which it is the next entry. -/
theorem AllOrNothing.append {text : Input → Bytes} (holds : AllOrNothing text log)
    (order : (log.flatMap fun report => report.begun) ++ report.begun <+:
      [.config, .anchors, .hints])
    (resolved : report.resolved = true → AppliedInFull text (log ++ [report]) ∧
      ∀ earlier ∈ log, earlier.failure = none ∧ (earlier.warmup = true → earlier.value = 0))
    (value : ∀ err, report.failure = some err → report.value = -ubErrno err)
    (sticky : ∀ earlier ∈ log, ∀ err, earlier.failure = some err → report.value = -ubErrno err) :
    AllOrNothing text (log ++ [report]) := by
  constructor
  case order => simpa using order
  case resolved =>
    intro before found later split reached
    rcases Machine.entry_of_append split with ⟨rfl, rfl, -⟩ | ⟨more, -, older⟩
    · exact resolved reached
    · exact holds.resolved before found more older reached
  case sticky =>
    intro before found later err split failure
    rcases Machine.entry_of_append split with ⟨rfl, rfl, rfl⟩ | ⟨more, rfl, older⟩
    · have positive := ubErrno_pos err
      exact ⟨by omega, value err failure, by simp⟩
    · obtain ⟨negative, same, rest⟩ := holds.sticky before found more err older failure
      refine ⟨negative, same, ?_⟩
      intro next member
      rcases List.mem_append.mp member with member | new
      · exact rest next member
      · rw [List.mem_singleton.mp new]
        exact sticky found (by simp [older]) err failure

/-- Where a setup stands. -/
inductive Standing (input : Input → Bytes) (s : Setup) (log : List Report) : Prop where
  | fresh (missing : s.ctx = false) (fine : s.ctxErr = none)
      (saved : ∀ kind, s.saved kind = some (copyInput (input kind))) (none : log = [])
  | ready (made : s.ctx = true) (fine : s.ctxErr = none)
      (begun : (log.flatMap fun report => report.begun) = [.config, .anchors, .hints])
      (applied : AppliedInFull (strings input) log)
      (clean : ∀ report ∈ log, report.failure = none ∧ (report.warmup = true → report.value = 0))
  | failed {err : UbError} (stuck : s.ctxErr = some err)
      (same : ∀ report ∈ log, ∀ err', report.failure = some err' → err' = err)

namespace Standing

theorem fresh_of_missing (standing : Standing input s log) (missing : s.ctx = false)
    (fine : s.ctxErr = none) :
    (∀ kind, s.saved kind = some (copyInput (input kind))) ∧ log = [] := by
  cases standing with
  | fresh _ _ saved none => exact ⟨saved, none⟩
  | ready made =>
      rw [made] at missing
      cases missing
  | failed stuck =>
      rw [fine] at stuck
      cases stuck

theorem ready_of_made (standing : Standing input s log) (made : s.ctx = true)
    (fine : s.ctxErr = none) :
    (log.flatMap fun report => report.begun) = [.config, .anchors, .hints] ∧
      AppliedInFull (strings input) log ∧
      ∀ report ∈ log, report.failure = none ∧ (report.warmup = true → report.value = 0) := by
  cases standing with
  | fresh missing =>
      rw [made] at missing
      cases missing
  | ready _ _ begun applied clean => exact ⟨begun, applied, clean⟩
  | failed stuck =>
      rw [fine] at stuck
      cases stuck

theorem same_of_stuck {err : UbError} (standing : Standing input s log)
    (stuck : s.ctxErr = some err) :
    ∀ report ∈ log, ∀ err', report.failure = some err' → err' = err := by
  cases standing with
  | fresh missing fine | ready made fine =>
      rw [stuck] at fine
      cases fine
  | failed stuck' same =>
      rw [stuck] at stuck'
      cases stuck'
      exact same

end Standing

/-- What a setup adds to the log, where it did not fail and where it did. -/
theorem Setup.Ensured.settle {between : Setup} {progress : Progress}
    (ensured : s.Ensured between progress) (holds : AllOrNothing (strings input) log)
    (standing : Standing input s log) :
    (progress.failure = none → between.ctx = true ∧ between.ctxErr = none ∧
      (log.flatMap fun report => report.begun) ++ progress.begun = [.config, .anchors, .hints] ∧
      madeCalls log ++ progress.calls.map Made.entry = allCalls (strings input) ∧
      ∀ report ∈ log, report.failure = none ∧ (report.warmup = true → report.value = 0)) ∧
    (∀ err, progress.failure = some err → between.ctxErr = some err ∧
      (log.flatMap fun report => report.begun) ++ progress.begun <+: [.config, .anchors, .hints] ∧
      ∀ report ∈ log, ∀ err', report.failure = some err' → err' = err) := by
  cases ensured with
  | @poisoned err stuck =>
      refine ⟨by simp, ?_⟩
      intro err' same
      cases same
      exact ⟨stuck, by simpa using holds.order, standing.same_of_stuck stuck⟩
  | present fine made =>
      obtain ⟨begun, applied, clean⟩ := standing.ready_of_made made fine
      refine ⟨fun _ => ⟨made, fine, by simpa using begun, ?_, clean⟩, by simp⟩
      rw [List.map_nil, List.append_nil]
      exact applied
  | uncreated fine missing =>
      obtain ⟨-, rfl⟩ := standing.fresh_of_missing missing fine
      refine ⟨by simp, ?_⟩
      intro err same
      cases same
      exact ⟨rfl, by simp, by simp⟩
  | applied fine missing answers =>
      obtain ⟨saved, rfl⟩ := standing.fresh_of_missing missing fine
      have spec := Setup.applyInputs_spec answers [.config, .anchors, .hints]
        (by decide) { s with ctx := true } 0 (fun kind _ => saved kind)
      refine ⟨?_, ?_⟩
      · intro accepted
        obtain ⟨ctxErr, begun, calls⟩ := spec.accepted accepted
        exact ⟨spec.ctx, ctxErr.trans fine, begun, calls, by simp⟩
      · intro err failed
        exact ⟨spec.failed err failed, by simpa using spec.begun, by simp⟩

theorem madeCalls_append (log : List Report) (report : Report) :
    madeCalls (log ++ [report]) = madeCalls log ++ report.calls.map Made.entry := by
  simp [madeCalls]

/-- The invariant of a run. -/
structure Configured (input : Input → Bytes) (s : Setup) (log : List Report) : Prop where
  holds : AllOrNothing (strings input) log
  standing : Standing input s log
  config : (s.saved .config).isSome = true
  started : ∀ report ∈ log, 0 < report.value → report.resolved = true

theorem configured_initial (input : Input → Bytes) :
    Configured input (Setup.blank.guestInit input fun _ => true).2 [] := by
  constructor
  case holds => constructor <;> simp
  case standing => exact .fresh rfl rfl (fun _ => rfl) rfl
  case config => rfl
  case started => simp

theorem Setup.Ensured.config {between : Setup} {progress : Progress}
    (ensured : s.Ensured between progress) (standing : Standing input s log)
    (config : (s.saved .config).isSome = true) : (between.saved .config).isSome = true := by
  cases ensured with
  | poisoned | present | uncreated => exact config
  | applied fine missing answers =>
      obtain ⟨saved, -⟩ := standing.fresh_of_missing missing fine
      have spec := Setup.applyInputs_spec answers [.config, .anchors, .hints] (by decide)
        { s with ctx := true } 0 (fun kind _ => saved kind)
      exact spec.config.trans config

theorem unfailed_of_clean
    (clean : ∀ report ∈ log, report.failure = none ∧ (report.warmup = true → report.value = 0))
    (member : report ∈ log) {err : UbError} : report.failure ≠ some err := by
  rw [(clean report member).1]
  simp

/-- `resolve_start` returns a slot only from `ub_resolve_event`. -/
theorem Setup.Called.started (called : s.Called after report) (positive : 0 < report.value) :
    report.resolved = true := by
  cases called with
  | ensured _ _ _ _ _ _ _ started => exact started positive
  | @unfinished _ err _ _ _ _ _ value =>
      have bound := ubErrno_pos err
      omega

theorem Configured.called (configured : Configured input s log) (called : s.Called after report) :
    Configured input after (log ++ [report]) := by
  obtain ⟨holds, standing, config, old⟩ := configured
  have started : ∀ found ∈ log ++ [report], 0 < found.value → found.resolved = true := by
    intro found member
    rcases List.mem_append.mp member with member | new
    · exact old found member
    · rw [List.mem_singleton.mp new]
      exact called.started
  cases called with
  | ensured ensured ctx saved ctxErr value warm resolved =>
      obtain ⟨accepted, failed⟩ := ensured.settle holds standing
      have config := ensured.config standing config
      rw [← saved] at config
      cases failure : report.failure with
      | none =>
          obtain ⟨made, fine, begun, calls, clean⟩ := accepted failure
          have applied : AppliedInFull (strings input) (log ++ [report]) :=
            (madeCalls_append log report).trans calls
          refine ⟨holds.append ?_ (fun _ => ⟨applied, clean⟩) value ?_, ?_, config, started⟩
          · rw [begun]
          · intro earlier member err failure
            exact absurd failure (unfailed_of_clean clean member)
          · refine .ready (ctx.trans made) (ctxErr.trans fine) (by simpa using begun) applied ?_
            intro earlier member
            rcases List.mem_append.mp member with member | new
            · exact clean earlier member
            · rw [List.mem_singleton.mp new]
              exact ⟨failure, warm failure⟩
      | some err =>
          obtain ⟨stuck, begun, same⟩ := failed err failure
          refine ⟨holds.append begun ?_ value ?_, ?_, config, started⟩
          · intro reached
            rw [resolved reached] at failure
            cases failure
          · intro earlier member err' failure'
            rw [same earlier member err' failure']
            exact value err failure
          · refine .failed (ctxErr.trans stuck) ?_
            intro earlier member err' failure'
            rcases List.mem_append.mp member with member | new
            · exact same earlier member err' failure'
            · rw [List.mem_singleton.mp new, failure] at failure'
              cases failure'
              rfl
  | @unfinished between err ensured ctx saved ctxErr failure value unresolved =>
      obtain ⟨-, -, begun, -, clean⟩ := (ensured.settle holds standing).1 rfl
      have config := ensured.config standing config
      rw [← saved] at config
      refine ⟨holds.append ?_ ?_ ?_ ?_, ?_, config, started⟩
      · rw [begun]
      · simp [unresolved]
      · intro err' failure'
        rw [failure] at failure'
        cases failure'
        exact value
      · intro earlier member err' failure'
        exact absurd failure' (unfailed_of_clean clean member)
      · refine .failed ctxErr ?_
        intro earlier member err' failure'
        rcases List.mem_append.mp member with member | new
        · exact absurd failure' (unfailed_of_clean clean member)
        · rw [List.mem_singleton.mp new, failure] at failure'
          cases failure'
          rfl

theorem Configured.step {action : SetupAction} (configured : Configured input s log)
    (stepped : s.step action = some after) :
    Configured input after (log ++ (s.report action).toList) := by
  cases action with
  | init input' copied =>
      cases stepped
      rw [Setup.guestInit, if_pos (.inr configured.config)]
      simpa [Setup.report] using configured
  | warmup env =>
      cases stepped
      exact configured.called (Setup.called_of_warmup s env)
  | resolveStart env query =>
      simp only [Setup.step, Option.map_eq_some_iff] at stepped
      obtain ⟨⟨after, report⟩, returned, rfl⟩ := stepped
      simp only [Setup.report, returned, Option.map_some, Option.toList_some]
      exact configured.called (Setup.called_of_resolveStart returned)

theorem configured_of_reachable (reachable : (setup input).Reachable (s, log)) :
    Configured input s log :=
  Machine.Reaches.invariant_logged
    (fun _ _ _ _ (configured : Configured input _ _) _ stepped => configured.step stepped)
    reachable (configured_initial input)

/-! ## The inputs and their strings -/

/-- The line a call was made for. -/
def ConfigCall.line : ConfigCall → Bytes
  | .setOption opt value => opt ++ equalsSign :: value
  | .addTa anchor => anchor
  | .setStub addr => addr

theorem line_of_configCall {kind : Input} {line : Bytes} {call : ConfigCall}
    (turned : configCall kind line = some call) : call.line = line := by
  cases kind with
  | anchors | hints =>
      cases turned
      rfl
  | config =>
      simp only [configCall] at turned
      split at turned
      next member =>
        cases turned
        obtain ⟨opt, value, rfl, clean⟩ := List.eq_append_cons_of_mem member
        have kept : ∀ byte ∈ opt, decide (byte ≠ equalsSign) = true := by
          intro byte inside
          rw [decide_eq_true_eq]
          rintro rfl
          exact clean inside
        rw [ConfigCall.line, List.takeWhile_append_of_pos kept, List.dropWhile_append_of_pos kept,
          List.takeWhile_cons_of_neg (by simp), List.dropWhile_cons_of_neg (by simp)]
        simp
      · cases turned

theorem filter_allCalls (text : Input → Bytes) (kind : Input) :
    (allCalls text).filter (fun entry => entry.1 = kind) = fullCalls kind (text kind) := by
  cases kind <;> simp [allCalls, fullCalls, List.filter_map, Function.comp_def]

/-- The lines of a text can be told from the calls made for them. -/
theorem passedLines_of_fullCalls {kind : Input} {text : Bytes}
    (turned : ∀ entry ∈ fullCalls kind text, entry.2.1 ≠ none) :
    (fullCalls kind text).filterMap (fun entry => entry.2.1.map ConfigCall.line) =
      passedLines text := by
  rw [fullCalls, List.filterMap_map]
  refine Eq.trans (List.filterMap_congr ?_) List.filterMap_some
  intro line member
  obtain ⟨call, found⟩ : ∃ call, configCall kind line = some call :=
    Option.ne_none_iff_exists'.mp (turned _ (List.mem_map_of_mem member))
  simp only [Function.comp_apply, found, Option.map_some, line_of_configCall found]

theorem AppliedInFull.passedLines_eq {text string : Input → Bytes}
    (applied : AppliedInFull text log) (read : AppliedInFull string log) (kind : Input) :
    passedLines (string kind) = passedLines (text kind) := by
  have turned : ∀ entry ∈ madeCalls log, entry.2.1 ≠ none := by
    intro entry member
    obtain ⟨made, -, rfl⟩ := List.mem_map.mp member
    exact Option.some_ne_none _
  have lines {other : Input → Bytes} (shown : AppliedInFull other log) :
      ((madeCalls log).filter fun entry => entry.1 = kind).filterMap
        (fun entry => entry.2.1.map ConfigCall.line) = passedLines (other kind) := by
    rw [shown, filter_allCalls]
    refine passedLines_of_fullCalls fun entry member => turned entry ?_
    rw [← filter_allCalls] at member
    rw [shown]
    exact (List.mem_filter.mp member).1
  exact (lines read).symm.trans (lines applied)

/-- Whatever libunbound answers, the saved inputs are applied once and in order, queries are
started only after all of it, and the first failure is what every later call returns, as
long as no query is started or no input has a line that a NUL cuts or hides. -/
theorem configuration_all_or_nothing_iff (reachable : (setup input).Reachable (s, log)) :
    AllOrNothing input log ↔
      ((∃ report ∈ log, report.resolved = true) → ∀ kind, Uncut (input kind)) := by
  have holds := (configured_of_reachable reachable).holds
  constructor
  · rintro whole ⟨report, member, reached⟩ kind
    obtain ⟨before, later, split⟩ := List.append_of_mem member
    have applied := (whole.resolved before report later split reached).1
    have read := (holds.resolved before report later split reached).1
    exact (passedLines_cString_iff (input kind)).mp (applied.passedLines_eq read kind)
  · intro uncut
    refine ⟨holds.order, ?_, holds.sticky⟩
    intro before report later split reached
    have same : allCalls (strings input) = allCalls input := by
      unfold allCalls fullCalls strings
      simp only [fun kind => (passedLines_cString_iff (input kind)).mpr
        (uncut ⟨report, by simp [split], reached⟩ kind)]
    obtain ⟨applied, clean⟩ := holds.resolved before report later split reached
    exact ⟨applied.trans same, clean⟩

/-- An option, and an anchor after a comment that ends with a NUL; no root hints. -/
def smallInputs : Input → Bytes
  | .config => [97, equalsSign, 98, newline]
  | .anchors => [32, 97, newline, hashSign, 0, newline]
  | .hints => []

/-- libunbound accepts everything, or fails to finalize the context. -/
def answering (finalize : Option UbError) : SetupEnv := ⟨true, fun _ => none, finalize, true⟩

/-- A query over unused slots that libunbound accepts without finalizing the context. -/
def firstQuery : StartArgs := ⟨.initial ⟨0, fun _ => 0⟩, true, .ok 1, [], false, false⟩

/-- A query is started, then a warmup fails. -/
def warmupFails : List SetupAction :=
  [.resolveStart (answering none) firstQuery, .warmup (answering (some .other)),
    .resolveStart (answering none) firstQuery, .warmup (answering none)]

theorem configuration_all_or_nothing_iff_warmupFails :
    ∃ s log, (setup smallInputs).run (setup smallInputs).initial warmupFails = some (s, log) ∧
      log.map Report.value = [1, -29, -29, -29] ∧ AllOrNothing smallInputs log := by
  obtain ⟨⟨s, log⟩, ran, values⟩ : ∃ final,
      (setup smallInputs).run (setup smallInputs).initial warmupFails = some final ∧
        final.2.map Report.value = [1, -29, -29, -29] := ⟨_, rfl, rfl⟩
  refine ⟨s, log, ran, values, ?_⟩
  refine (configuration_all_or_nothing_iff (Machine.reaches_of_run ran)).mpr ?_
  intro _ kind
  cases kind <;> decide

/-- Three anchors, with a NUL in the second. -/
def cutInputs : Input → Bytes
  | .anchors => [97, newline, 98, 0, newline, 99]
  | .config | .hints => []

/-- A query is started although the third anchor was not applied. -/
theorem configuration_cut_at_nul :
    ∃ s report,
      (setup cutInputs).run (setup cutInputs).initial [.resolveStart (answering none) firstQuery] =
        some (s, [report]) ∧
      report.resolved = true ∧
      report.calls = [⟨.anchors, .addTa [97], none⟩, ⟨.anchors, .addTa [98], none⟩] ∧
      passedLines (cutInputs .anchors) = [[97], [98, 0], [99]] ∧
      ¬ AllOrNothing cutInputs [report] := by
  refine ⟨_, _, rfl, rfl, rfl, rfl, ?_⟩
  intro holds
  have applied := (holds.resolved [] _ [] rfl rfl).1
  revert applied
  unfold AppliedInFull
  decide

end UnboundWasm.Guest
