import UnboundWasm.Host.Resolve.Batch

/-!
# Batches that a close interrupts

A batch that gives up before its queries are settled passes one error to all that
are left.  As long as the context, the event queue and the guest are not at fault,
that error is `ErrClosed`, perhaps wrapped by the call that found the module closed.
-/

namespace UnboundWasm.Host

open UnboundWasm.Lib

/-- `errors.Is(err, ErrClosed)`. -/
def Error.isClosed : Error → Bool
  | .errClosed => true
  | .wrap _ cause => cause.isClosed
  | .new _ | .errno _ _ | .bogus _ _ | .response _ _ | .foreign _ => false

/-- A guest block on a closed module. -/
theorem isClosed_of_guest {α : Type} {modDead : Bool} {fn : Except Error α} {err : Error}
    (failed : guest modDead fn = .error err) (fine : modDead = false → fn.isOk = true) :
    err.isClosed = true := by
  rw [guest] at failed
  split at failed
  · cases failed
    rfl
  next alive =>
    have isOk := fine (by simpa using alive)
    rw [failed] at isOk
    cases isOk

namespace Resolve

/-- The step in which the batch is let down by something other than a close: its
context ends, the event queue overflows, or an export it depends on fails or hands
out memory it does not have. -/
def State.faults (s : State) : Action → Bool
  | .ctxDone _ | .interfere (.fail _) => true
  | .call reply =>
      !s.inst.modDead &&
        match s.pc with
        | .allocName n => !(allocWrite false reply (s.nameAt n)).isOk
        | .callStart _ _ | .dispatch _ _ => !(call false reply).isOk
        | .allocResult => !(allocWrite false reply (List.replicate resultSize 0)).isOk
        | .poll _ p => !(fetchResult (asInt32 reply) p).isOk
        | .entry | .start _ | .freeName _ _ _ | .select _ | .closing _ _ _ | .free _ _
        | .cancel _ _ | .callCancel _ _ | .returned _ => false
  | .step | .done | .event _ | .eventsClosed | .interfere .close | .interfere .sweep
  | .interfere .failed => false

/-- An error that is the outcome of the one query. -/
inductive Verdict (parser : MessageParser) (query : Query) : Error → Prop where
  | name {err : Error} (rejected : normalizeName query.name = .error err) :
      Verdict parser query err
  | start (errno : Int) :
      Verdict parser query (.errno "unbound: resolve_start failed: wasi errno" errno)
  | result {modDead : Bool} {call : Except Error (Int × Memory)} {p : Nat} {qname : Bytes}
      {err : Error} (settled : pollResult parser modDead call p qname query.type = .failed err) :
      Verdict parser query err

/-- The error is the query's own, or says that the instance is closed. -/
def Accounted (parser : MessageParser) (query : Query) (err : Error) : Prop :=
  Verdict parser query err ∨ err.isClosed = true

/-- What a batch on an instance that is only ever closed carries. -/
structure Calm (parser : MessageParser) (s : State) : Prop where
  entries : ∀ e ∈ s.entries, ∀ err, e.err = some err → Accounted parser e.query err
  cause : s.inst.cause = none
  starting : ∀ n p err, s.pc = .freeName n p (.error err) → err.isClosed = true
  closing : ∀ stage err p, s.pc = .closing stage err p → err.isClosed = true

variable {parser : MessageParser} {queries : List Query} {s after : State}

theorem Calm.initial (queries : List Query) : Calm parser (State.initial queries) := by
  constructor
  case entries =>
    intro e member err failed
    simp only [State.initial, List.mem_map] at member
    obtain ⟨query, _, rfl⟩ := member
    cases failed
  case cause => rfl
  case starting => simp [State.initial]
  case closing => simp [State.initial]

variable {entries : List Entry} {err : Error} {p : Nat}

theorem accounted_fail
    (known : ∀ e ∈ entries, ∀ cause, e.err = some cause → Accounted parser e.query cause)
    (closed : err.isClosed = true) :
    ∀ e ∈ entries.map (Entry.fail err), ∀ cause, e.err = some cause →
      Accounted parser e.query cause := by
  intro e member cause failed
  rw [List.mem_map] at member
  obtain ⟨before, present, rfl⟩ := member
  rw [Entry.query_fail]
  rw [Entry.fail] at failed
  split at failed
  · cases failed
    exact .inr closed
  · exact known before present cause failed

theorem accounted_modify {n : Nat} {change : Entry → Entry}
    (known : ∀ e ∈ entries, ∀ cause, e.err = some cause → Accounted parser e.query cause)
    (changed : ∀ e, entries[n]? = some e → (change e).query = e.query ∧
      ∀ cause, (change e).err = some cause → e.err = some cause ∨
        Accounted parser e.query cause) :
    ∀ e ∈ entries.modify n change, ∀ cause, e.err = some cause →
      Accounted parser e.query cause := by
  intro e member cause failed
  obtain ⟨m, found⟩ := List.mem_iff_getElem?.mp member
  rcases getElem?_of_modify found with ⟨_, before, present, rfl⟩ | ⟨_, present⟩
  · obtain ⟨query, err⟩ := changed before present
    rw [query]
    rcases err cause failed with old | new
    · exact known before (List.mem_of_getElem? present) cause old
    · exact new
  · exact known e (List.mem_of_getElem? present) cause failed

/-- The step goes on to a place without an error of its own. -/
theorem Calm.to {pending : Int} {pc : Pc} {failed : List Export} (calm : Calm parser s)
    (known : ∀ e ∈ entries, ∀ err, e.err = some err → Accounted parser e.query err)
    (starting : ∀ n p err, pc = .freeName n p (.error err) → err.isClosed = true)
    (closing : ∀ stage err p, pc = .closing stage err p → err.isClosed = true) :
    Calm parser { s with entries := entries, pending := pending, pc := pc, failed := failed } :=
  ⟨known, calm.cause, starting, closing⟩

theorem Calm.failUnsettled {failed : List Export} (calm : Calm parser s)
    (closed : err.isClosed = true) :
    Calm parser ({ s with failed := failed }.failUnsettled err p) :=
  calm.to (accounted_fail calm.entries closed) (by simp) (by simp)

theorem Calm.kill {failed : List Export} (calm : Calm parser s) (closed : err.isClosed = true) :
    Calm parser { s with failed := failed, pc := .closing .swap err p } := by
  refine calm.to calm.entries (by simp) ?_
  intro stage cause q here
  cases here
  exact closed

theorem Calm.enter (calm : Calm parser s) : Calm parser s.enter := by
  rw [State.enter]
  split
  · split
    · exact calm.to calm.entries (by simp) (by simp)
    · exact calm.to (accounted_fail calm.entries rfl) (by simp) (by simp)
  · exact calm.to calm.entries (by simp) (by simp)

theorem Calm.startNext (calm : Calm parser s) (n : Nat) : Calm parser (s.startNext n) := by
  rw [State.startNext]
  split
  · split <;> exact calm.to calm.entries (by simp) (by simp)
  next e present =>
    split
    next err rejected =>
      refine calm.to (accounted_modify calm.entries ?_) (by simp) (by simp)
      intro found same
      rw [present, Option.some.injEq] at same
      rw [← same]
      refine ⟨rfl, fun cause failed => .inr ?_⟩
      cases failed
      exact .inl (.name rejected)
    · exact calm.to (accounted_modify calm.entries fun _ _ => ⟨rfl, fun _ old => .inl old⟩)
        (by simp) (by simp)

theorem Calm.started {failed : List Export} {n : Nat} {out : Except Error Int}
    (calm : Calm parser s) (closed : ∀ err, out = .error err → err.isClosed = true) :
    Calm parser ({ s with failed := failed }.started n out) := by
  cases out with
  | error err => exact calm.kill (closed err rfl)
  | ok rid =>
      rw [State.started]
      split
      · refine calm.to (accounted_modify calm.entries ?_) (by simp) (by simp)
        refine fun _ _ => ⟨rfl, fun cause failed => .inr ?_⟩
        cases failed
        exact .inl (.start _)
      · exact calm.to (accounted_modify calm.entries fun _ _ => ⟨rfl, fun _ old => .inl old⟩)
          (by simp) (by simp)

/-- A poll that is fatal found the module closed. -/
theorem isClosed_of_fatal {modDead : Bool} {call : Except Error (Int × Memory)} {qname : Bytes}
    {qtype : Nat} (fatal : pollResult parser modDead call p qname qtype = .fatal err)
    (fine : modDead = false → (fetchResult call p).isOk = true) : err.isClosed = true := by
  rw [pollResult] at fatal
  split at fatal
  next failed =>
    cases fatal
    exact isClosed_of_guest failed fine
  · split at fatal
    · cases fatal
    · split at fatal
      · cases fatal
      · rw [settle] at fatal
        split at fatal
        · cases fatal
        · dsimp only at fatal
          split at fatal
          · cases fatal
          · split at fatal
            · split at fatal <;> cases fatal
            · cases fatal

theorem Calm.polled {e : Entry} {failed : List Export} {n : Nat} {reply : Call}
    (calm : Calm parser s) (present : s.entries[n]? = some e)
    (fine : s.inst.modDead = false → (fetchResult (asInt32 reply) p).isOk = true) :
    Calm parser ({ s with failed := failed }.polled n p
      (pollResult parser s.inst.modDead (asInt32 reply) p e.name e.query.type)) := by
  cases poll : pollResult parser s.inst.modDead (asInt32 reply) p e.name e.query.type with
  | fatal err => exact calm.kill (isClosed_of_fatal poll fine)
  | pending => exact calm.to calm.entries (by simp) (by simp)
  | failed err =>
      refine calm.to (accounted_modify calm.entries ?_) (by simp) (by simp)
      intro found same
      rw [present, Option.some.injEq] at same
      rw [← same]
      refine ⟨rfl, fun cause failed => .inr (.inl ?_)⟩
      cases failed
      exact .result poll
  | ready res =>
      exact calm.to (accounted_modify calm.entries fun _ _ => ⟨rfl, fun _ old => .inl old⟩)
        (by simp) (by simp)

/-- The ordinary close records no cause. -/
theorem CloseStage.Moved.ordinary {i after : Instance} {stage : CloseStage}
    {next : Option CloseStage} (moved : stage.Moved i after next)
    (ordinary : i.cause = none) : after.cause = none := by
  cases moved with
  | begins => rfl
  | again | first | passes | tornDown | dead => exact ordinary

theorem Calm.closing_step {stage : CloseStage} (calm : Calm parser s)
    (here : s.pc = .closing stage err p) (closing : s.Closing stage err p after) :
    Calm parser after := by
  have closed := calm.closing stage err p here
  cases closing with
  | goesOn moved =>
      refine ⟨calm.entries, moved.ordinary calm.cause, by simp, ?_⟩
      intro _ other q there
      cases there
      exact closed
  | ends moved =>
      have known := accounted_fail calm.entries closed
      exact ⟨known, moved.ordinary calm.cause, fun _ _ _ there => (by cases there),
        fun _ _ _ there => (by cases there)⟩

theorem Calm.ran {action : Action} (calm : Calm parser s) (fine : s.faults action = false)
    (ran : State.Ran parser s action after) : Calm parser after := by
  cases ran with
  | enter here => exact calm.enter
  | startNext here => exact calm.startNext _
  | @nameRefused n reply _ _ here _ refused =>
      have isOk : s.inst.modDead = false → (allocWrite false reply (s.nameAt n)).isOk = true := by
        intro alive
        simpa [State.faults, here, alive] using fine
      exact calm.failUnsettled (isClosed_of_guest refused isOk)
  | @resultRefused reply _ _ here _ refused =>
      have isOk : s.inst.modDead = false →
          (allocWrite false reply (List.replicate resultSize 0)).isOk = true := by
        intro alive
        simpa [State.faults, here, alive] using fine
      exact calm.failUnsettled (isClosed_of_guest refused isOk)
  | allocName | allocResult | pollEnd | pollWait | pollSkip | event | dispatch | free
  | callCancel => exact calm.to calm.entries (by simp) (by simp)
  | @callStart _ _ reply _ here =>
      have isOk : s.inst.modDead = false → (call false reply).isOk = true := by
        intro alive
        simpa [State.faults, here, alive] using fine
      refine calm.to calm.entries ?_ (by simp)
      intro n p err there
      injection there with _ _ refused
      exact isClosed_of_guest refused isOk
  | @freeName n p out _ _ here =>
      apply calm.started
      rintro err rfl
      exact calm.starting n p err here
  | pollCall here _ present =>
      refine calm.polled present ?_
      intro alive
      simpa [State.faults, here, alive] using fine
  | ctxDone here err => cases fine
  | doneFailed here cause =>
      rw [calm.cause] at cause
      cases cause
  | done | eventsClosed => exact calm.failUnsettled rfl
  | @dispatchFailed _ _ reply _ err here _ called =>
      have isOk : s.inst.modDead = false → (call false reply).isOk = true := by
        intro alive
        simpa [State.faults, here, alive] using fine
      have closed : err.isClosed = true := isClosed_of_guest called isOk
      exact calm.kill closed
  | closing here closing => exact calm.closing_step here closing
  | cancelNext here =>
      rw [State.cancelNext]
      split
      · exact calm.to calm.entries (by simp) (by simp)
      · split <;> exact calm.to calm.entries (by simp) (by simp)

theorem Calm.interfere {what : Interference} (calm : Calm parser s)
    (fine : s.faults (.interfere what) = false) (stepped : s.interfere what = some after) :
    Calm parser after := by
  cases State.interfered_of_step stepped with
  | close moved | sweep moved =>
      exact ⟨calm.entries, moved.ordinary calm.cause, calm.starting, calm.closing⟩
  | fail cause => cases fine
  | failed => exact ⟨calm.entries, calm.cause, calm.starting, calm.closing⟩

theorem Calm.step {action : Action} (calm : Calm parser s) (fine : s.faults action = false)
    (stepped : s.step parser action = some after) : Calm parser after := by
  cases action with
  | interfere what => exact calm.interfere fine stepped
  | step | call | ctxDone | done | event | eventsClosed =>
      exact calm.ran fine (State.ran_of_resolveStep stepped)

/-- Every query has its result, an error of its own, or `ErrClosed`. -/
def Excused (parser : MessageParser) (queries : List Query) (ret : Returned) : Prop :=
  (ret = .errClosed ∧ queries = []) ∨ ∃ results err, ret = .batch results err ∧
    Contract queries results err ∧ ∀ failure ∈ err, Accounted parser failure.query failure.err

theorem Calm.returned {ret : Returned} (calm : Calm parser s) (tidy : Tidy queries s)
    (returned : s.pc = .returned ret) : Excused parser queries ret := by
  have progress := tidy.progress
  rw [Progress, returned] at progress
  rcases progress with ⟨closedReturn, empty, _⟩ | ⟨batch, settled⟩
  · left
    refine ⟨closedReturn, ?_⟩
    rw [← tidy.sound.queries, empty]
    rfl
  · right
    refine ⟨_, _, batch, Contract.of_settled tidy.sound settled, ?_⟩
    intro failure member
    rw [joinQueryErrors, List.mem_filterMap] at member
    obtain ⟨e, present, failed⟩ := member
    rw [Option.map_eq_some_iff] at failed
    obtain ⟨err, set, rfl⟩ := failed
    exact calm.entries e present err set

end Resolve

end UnboundWasm.Host
