import UnboundWasm.Lib.Machine
import UnboundWasm.Host.Errno
import UnboundWasm.Host.Name
import UnboundWasm.Host.Poll
import UnboundWasm.Host.Sockets.State

/-!
# Resolving a batch

`ResolveAll` of `runtime.go` with the helpers it calls, as one goroutine among
those that may shut the instance down meanwhile: a concurrent `Close`, the sweep
of `Runtime.Close`, and an event queue that overflows.

A guest call is one step, because it holds `guestMu` from the check of `modDead`
to the end of the reads that follow the call.  The guest is arbitrary: every
call may return anything, fail, and leave anything in its memory, so the
arguments it is given are not part of the model.
-/

namespace UnboundWasm.Host.Resolve

open UnboundWasm.Lib
open UnboundWasm.Host.Sockets (HostEvent)

/-- `Query`. -/
structure Query where
  name : Bytes
  type : Nat
  deriving DecidableEq, Repr

/-- `QueryError`. -/
structure QueryError where
  query : Query
  err : Error
  deriving DecidableEq, Repr

/-- How far `state.once` is. The `done` channel is closed from `closing` on. -/
inductive Once where
  | idle | closing | finished
  deriving DecidableEq, Repr

/-- The flags of an `Instance` and its `instanceState` that decide whether it is
usable. `cause` is `state.err`. -/
structure Instance where
  closed : Bool
  once : Once
  cause : Option Error
  modDead : Bool
  deriving DecidableEq, Repr

namespace Instance

/-- As `NewInstance` returns it. -/
def new : Instance := ⟨false, .idle, none, false⟩

/-- The function of `state.shutdown` begins. -/
def beginShutdown (i : Instance) (cause : Option Error) : Instance :=
  { i with once := .closing, cause := cause }

/-- Closed in every respect. -/
def Torn (i : Instance) : Prop := i.closed = true ∧ i.once = .finished ∧ i.modDead = true

instance (i : Instance) : Decidable i.Torn := inferInstanceAs (Decidable (_ ∧ _))

end Instance

/-- The steps of `Instance.Close`: the compare-and-swap, `once.Do`, the function
it runs, and `closeModule`. `Runtime.Close` takes the same steps from `shutdown`
on. -/
inductive CloseStage where
  | swap | shutdown | teardown | module
  deriving DecidableEq, Repr

/-- One step of a close, with the stage that follows it. `once.Do` waits for a
shutdown that another goroutine has begun. -/
def CloseStage.step (i : Instance) : CloseStage → Option (Instance × Option CloseStage)
  | .swap =>
      if i.closed then some (i, none) else some ({ i with closed := true }, some .shutdown)
  | .shutdown =>
      match i.once with
      | .idle => some (i.beginShutdown none, some .teardown)
      | .closing => none
      | .finished => some (i, some .module)
  | .teardown => some ({ i with once := .finished }, some .module)
  | .module => some ({ i with modDead := true }, none)

/-- What is closed stays closed. -/
structure Instance.Later (before after : Instance) : Prop where
  closed : before.closed = true → after.closed = true
  finished : before.once = .finished → after.once = .finished
  modDead : before.modDead = true → after.modDead = true

theorem Instance.Later.refl (i : Instance) : i.Later i := ⟨id, id, id⟩

theorem Instance.Later.torn {before after : Instance} (later : before.Later after)
    (torn : before.Torn) : after.Torn :=
  ⟨later.closed torn.1, later.finished torn.2.1, later.modDead torn.2.2⟩

/-- What a step of a close can be, by its stage. -/
inductive CloseStage.Moved (i : Instance) :
    CloseStage → Instance → Option CloseStage → Prop where
  | again (closed : i.closed = true) : Moved i .swap i none
  | first (isOpen : i.closed = false) : Moved i .swap { i with closed := true } (some .shutdown)
  | begins (idle : i.once = .idle) : Moved i .shutdown (i.beginShutdown none) (some .teardown)
  | passes (finished : i.once = .finished) : Moved i .shutdown i (some .module)
  | tornDown : Moved i .teardown { i with once := .finished } (some .module)
  | dead : Moved i .module { i with modDead := true } none

theorem CloseStage.moved_of_step {i after : Instance} {stage : CloseStage}
    {next : Option CloseStage} (stepped : stage.step i = some (after, next)) :
    stage.Moved i after next := by
  cases stage with
  | swap =>
      simp only [CloseStage.step] at stepped
      split at stepped
      next closed =>
        cases stepped
        exact .again closed
      next isOpen =>
        cases stepped
        exact .first (Bool.eq_false_iff.mpr isOpen)
  | shutdown =>
      simp only [CloseStage.step] at stepped
      split at stepped
      next idle =>
        cases stepped
        exact .begins idle
      · cases stepped
      next finished =>
        cases stepped
        exact .passes finished
  | teardown =>
      cases stepped
      exact .tornDown
  | module =>
      cases stepped
      exact .dead

theorem CloseStage.Moved.later {i after : Instance} {stage : CloseStage}
    {next : Option CloseStage} (moved : stage.Moved i after next) : i.Later after := by
  cases moved with
  | again | passes => exact .refl i
  | first => exact ⟨fun _ => rfl, id, id⟩
  | begins idle => exact ⟨id, fun finished => by simp [finished] at idle, id⟩
  | tornDown => exact ⟨id, fun _ => rfl, id⟩
  | dead => exact ⟨id, id, fun _ => rfl⟩

/-- One position of the batch, in the slices `queries`, `results`, `errs`, `names`
and `rids`. -/
structure Entry where
  query : Query
  result : Option Result
  err : Option Error
  name : Bytes
  rid : Int
  deriving DecidableEq, Repr

namespace Entry

/-- `make` of the four slices. -/
def new (query : Query) : Entry := ⟨query, none, none, [], 0⟩

/-- Neither a result nor an error yet. -/
def unsettled (e : Entry) : Bool := e.result.isNone && e.err.isNone

/-- The body of the loop in `failUnsettled`. -/
def fail (err : Error) (e : Entry) : Entry :=
  if e.unsettled then { e with err := some err } else e

end Entry

/-- `joinQueryErrors`; the empty list is the nil error. -/
def joinQueryErrors (entries : List Entry) : List QueryError :=
  entries.filterMap fun e => e.err.map (QueryError.mk e.query)

/-- What `ResolveAll` returns. -/
inductive Returned where
  | errClosed
  | batch (results : List (Option Result)) (err : List QueryError)
  deriving DecidableEq, Repr

/-- The return value made of the slices as they are. -/
def batchOf (entries : List Entry) : Returned :=
  .batch (entries.map Entry.result) (joinQueryErrors entries)

/-- What a guest export came to: its first return value and the memory after it. -/
abbrev Call := Except Error (Nat × Memory)

/-- `allocWrite` of `b`. -/
def allocWrite (modDead : Bool) (call : Call) (b : Bytes) : Except Error Nat :=
  guest modDead <|
    match call with
    | .error err => .error (.wrap "unbound: alloc" err)
    | .ok (out, memory) =>
        let p := out % 2 ^ 32
        if p = 0 then
          .error (.new "unbound: guest allocation failed")
        else if b ≠ [] ∧ memory.write p b = none then
          .error (.new "unbound: guest allocation outside memory")
        else
          .ok p

/-- A return value read as `int32`. -/
def asInt32 : Call → Except Error (Int × Memory)
  | .error err => .error err
  | .ok (out, memory) => .ok (toInt32 out, memory)

/-- `Instance.call`, for its first return value as `int32`. -/
def call (modDead : Bool) (reply : Call) : Except Error Int :=
  guest modDead <|
    match asInt32 reply with
    | .error err => .error err
    | .ok (out, _) => .ok out

/-- Where `ResolveAll` stands. `p` is the result buffer, 0 while there is none.
`closing` is a `kill` or `Close` followed by `failUnsettled`; from `free` on the
return value is fixed and the deferred functions run. -/
inductive Pc where
  | entry
  | start (n : Nat)
  | allocName (n : Nat)
  | callStart (n p : Nat)
  | freeName (n p : Nat) (out : Except Error Int)
  | allocResult
  | poll (n p : Nat)
  | select (p : Nat)
  | dispatch (p : Nat) (ev : HostEvent)
  | closing (stage : CloseStage) (err : Error) (p : Nat)
  | free (p : Nat) (ret : Returned)
  | cancel (n : Nat) (ret : Returned)
  | callCancel (n : Nat) (ret : Returned)
  | returned (ret : Returned)

/-- The guest exports `ResolveAll` invokes. -/
inductive Export where
  | alloc | resolveStart | ioReady | timerFired | resultGet | dealloc | resolveCancel
  deriving DecidableEq, Repr

/-- The export that delivers an event. -/
def deliver : HostEvent → Export
  | .io _ _ => .ioReady
  | .timer _ => .timerFired

/-- `other` and `sweep` are the `Close` and the `Runtime.Close` under way in other
goroutines, `failing` a shutdown after an overflow. `failed` records the exports
that were invoked and returned an error. -/
structure State where
  inst : Instance
  other : Option CloseStage
  sweep : Option CloseStage
  failing : Bool
  entries : List Entry
  pending : Int
  pc : Pc
  failed : List Export

/-- Steps of other goroutines: a `Close`, the sweep of `Runtime.Close`, and the
two ends of a shutdown after an overflow. -/
inductive Interference where
  | close
  | sweep
  | fail (cause : Error)
  | failed

/-- What happens next, and what the environment decides about it. -/
inductive Action where
  | step
  | call (reply : Call)
  | ctxDone (err : Error)
  | done
  | event (ev : HostEvent)
  | eventsClosed
  | interfere (what : Interference)

namespace State

/-- Go on at another place. -/
def goto (s : State) (pc : Pc) : State := { s with pc := pc }

/-- Change one position of the batch. -/
def onEntry (s : State) (n : Nat) (change : Entry → Entry) : State :=
  { s with entries := s.entries.modify n change }

/-- `return results, joinQueryErrors(queries, errs)`. -/
def finish (s : State) (p : Nat) : State := s.goto (.free p (batchOf s.entries))

/-- `return failUnsettled(err)`. -/
def failUnsettled (s : State) (err : Error) (p : Nat) : State :=
  { s with entries := s.entries.map (Entry.fail err) }.finish p

/-- Record an export that was invoked and failed. -/
def log (s : State) (fn : Export) (reply : Call) : State :=
  match s.inst.modDead, reply with
  | false, .error _ => { s with failed := s.failed ++ [fn] }
  | _, _ => s

/-- The log is all that changes. -/
theorem log_eq (s : State) (fn : Export) (reply : Call) :
    ∃ failed, s.log fn reply = { s with failed := failed } := by
  unfold log
  split
  · exact ⟨_, rfl⟩
  · exact ⟨s.failed, rfl⟩

/-- The check on entry. Nothing is deferred yet. -/
def enter (s : State) : State :=
  if s.inst.closed then
    if s.entries = [] then s.goto (.returned .errClosed)
    else
      let entries := s.entries.map (Entry.fail .errClosed)
      { s with entries := entries, pc := .returned (batchOf entries) }
  else
    s.goto (.start 0)

/-- The head of the first loop, and what follows the loop. -/
def startNext (s : State) (n : Nat) : State :=
  match s.entries[n]? with
  | none => if s.pending = 0 then s.finish 0 else s.goto .allocResult
  | some e =>
      match normalizeName e.query.name with
      | .error err =>
          (s.onEntry n fun e => { e with err := some err }).goto (.start (n + 1))
      | .ok name => (s.onEntry n fun e => { e with name := name }).goto (.allocName n)

/-- The name of a position. -/
def nameAt (s : State) (n : Nat) : Bytes := (s.entries[n]?.map Entry.name).getD []

def afterAllocName (s : State) (n : Nat) (reply : Call) : State :=
  match allocWrite s.inst.modDead reply (s.nameAt n) with
  | .error err => s.failUnsettled err 0
  | .ok p => s.goto (.callStart n p)

/-- The rest of the first loop's body, after the name was freed. -/
def started (s : State) (n : Nat) : Except Error Int → State
  | .error err => s.goto (.closing .swap (.wrap "unbound: resolve_start" err) 0)
  | .ok rid =>
      if rid < 0 then
        (s.onEntry n fun e =>
          { e with err := some (.errno "unbound: resolve_start failed: wasi errno" (-rid)) }).goto
            (.start (n + 1))
      else
        { s.onEntry n fun e => { e with rid := rid } with
          pending := s.pending + 1
          pc := .start (n + 1) }

def afterAllocResult (s : State) (reply : Call) : State :=
  match allocWrite s.inst.modDead reply (List.replicate resultSize 0) with
  | .error err => s.failUnsettled err 0
  | .ok p => s.goto (.poll 0 p)

/-- The switch on what a poll came to. -/
def polled (s : State) (n p : Nat) : Poll → State
  | .fatal err => s.goto (.closing .swap err p)
  | .failed err =>
      { s.onEntry n fun e => { e with err := some err } with
        pending := s.pending - 1
        pc := .poll (n + 1) p }
  | .ready res =>
      { s.onEntry n fun e => { e with result := some res } with
        pending := s.pending - 1
        pc := .poll (n + 1) p }
  | .pending => s.goto (.poll (n + 1) p)

/-- `rids[n] == 0 || results[n] != nil || errs[n] != nil`. -/
def skipped (e : Entry) : Bool := e.rid = 0 || !e.unsettled

/-- `case <-i.state.done`, with `stateErr`. -/
def stateErr (s : State) (p : Nat) : State :=
  match s.inst.cause with
  | some err => s.goto (.closing .swap err p)
  | none => s.failUnsettled .errClosed p

def dispatched (s : State) (p : Nat) (reply : Call) : State :=
  match call s.inst.modDead reply with
  | .error err => s.goto (.closing .swap (.wrap "unbound: dispatch event" err) p)
  | .ok _ => s.goto (.poll 0 p)

/-- A step of `kill` or `Close`; at its end the batch fails. -/
def closeStep (s : State) (stage : CloseStage) (err : Error) (p : Nat) : Option State :=
  match stage.step s.inst with
  | none => none
  | some (inst, some next) => some { s with inst := inst, pc := .closing next err p }
  | some (inst, none) => some ({ s with inst := inst }.failUnsettled err p)

/-- `free`, with the error of the call discarded. -/
def free (s : State) (p : Nat) (reply : Call) : State :=
  if p = 0 then s else s.log .dealloc reply

theorem free_eq (s : State) (p : Nat) (reply : Call) :
    ∃ failed, s.free p reply = { s with failed := failed } := by
  rw [free]
  split
  · exact ⟨s.failed, rfl⟩
  · exact s.log_eq .dealloc reply

/-- A position of the polling loop. -/
def pollNext (s : State) (n p : Nat) : Option State :=
  match s.entries[n]? with
  | none => some (if s.pending = 0 then s.finish p else s.goto (.select p))
  | some e => if skipped e then some (s.goto (.poll (n + 1) p)) else none

/-- A position of the polling loop that is polled. -/
def pollCall (parser : MessageParser) (s : State) (n p : Nat) (reply : Call) : Option State :=
  match s.entries[n]? with
  | none => none
  | some e =>
      if skipped e then none
      else
        some ((s.log .resultGet reply).polled n p
          (pollResult parser s.inst.modDead (asInt32 reply) p e.name e.query.type))

/-- A position of the deferred loop, up to the check in `cancel`. -/
def cancelNext (s : State) (n : Nat) (ret : Returned) : State :=
  match s.entries[n]? with
  | none => s.goto (.returned ret)
  | some e =>
      if e.rid > 0 ∧ s.inst.closed = false then s.goto (.callCancel n ret)
      else s.goto (.cancel (n + 1) ret)

/-- A step of `ResolveAll`. -/
def resolveStep (parser : MessageParser) (s : State) (action : Action) : Option State :=
  match s.pc, action with
  | .entry, .step => some s.enter
  | .start n, .step => some (s.startNext n)
  | .allocName n, .call reply => some ((s.log .alloc reply).afterAllocName n reply)
  | .callStart n p, .call reply =>
      some ((s.log .resolveStart reply).goto (.freeName n p (call s.inst.modDead reply)))
  | .freeName n p out, .call reply => some ((s.free p reply).started n out)
  | .allocResult, .call reply => some ((s.log .alloc reply).afterAllocResult reply)
  | .poll n p, .step => s.pollNext n p
  | .poll n p, .call reply => s.pollCall parser n p reply
  | .select p, .ctxDone err => some (s.goto (.closing .swap err p))
  | .select p, .done => if s.inst.once = .idle then none else some (s.stateErr p)
  | .select p, .event ev => some (s.goto (.dispatch p ev))
  | .select p, .eventsClosed => some (s.failUnsettled .errClosed p)
  | .dispatch p ev, .call reply => some ((s.log (deliver ev) reply).dispatched p reply)
  | .closing stage err p, .step => s.closeStep stage err p
  | .free p ret, .call reply => some ((s.free p reply).goto (.cancel 0 ret))
  | .cancel n ret, .step => some (s.cancelNext n ret)
  | .callCancel n ret, .call reply =>
      some ((s.log .resolveCancel reply).goto (.cancel (n + 1) ret))
  | _, _ => none

/-- What a step of the kill can be: it goes on, or the batch fails. -/
inductive Closing (s : State) (stage : CloseStage) (err : Error) (p : Nat) : State → Prop where
  | goesOn {inst : Instance} {next : CloseStage}
      (moved : stage.Moved s.inst inst (some next)) :
      Closing s stage err p { s with inst := inst, pc := .closing next err p }
  | ends {inst : Instance} (moved : stage.Moved s.inst inst none) :
      Closing s stage err p ({ s with inst := inst }.failUnsettled err p)

/-- What a step of `ResolveAll` can be, by the place it starts from and what it finds.
`failed` is the log after a call. -/
inductive Ran (parser : MessageParser) (s : State) : Action → State → Prop where
  | enter (here : s.pc = .entry) : Ran parser s .step s.enter
  | startNext {n : Nat} (here : s.pc = .start n) : Ran parser s .step (s.startNext n)
  | nameRefused {n : Nat} {reply : Call} {failed : List Export} {err : Error}
      (here : s.pc = .allocName n) (logged : s.log .alloc reply = { s with failed := failed })
      (refused : allocWrite s.inst.modDead reply (s.nameAt n) = .error err) :
      Ran parser s (.call reply) ({ s with failed := failed }.failUnsettled err 0)
  | allocName {n p : Nat} {reply : Call} {failed : List Export} (here : s.pc = .allocName n)
      (logged : s.log .alloc reply = { s with failed := failed })
      (allocated : allocWrite s.inst.modDead reply (s.nameAt n) = .ok p) :
      Ran parser s (.call reply) { s with failed := failed, pc := .callStart n p }
  | callStart {n p : Nat} {reply : Call} {failed : List Export} (here : s.pc = .callStart n p)
      (logged : s.log .resolveStart reply = { s with failed := failed }) :
      Ran parser s (.call reply)
        { s with failed := failed, pc := .freeName n p (call s.inst.modDead reply) }
  | freeName {n p : Nat} {out : Except Error Int} {reply : Call} {failed : List Export}
      (here : s.pc = .freeName n p out) (freed : s.free p reply = { s with failed := failed }) :
      Ran parser s (.call reply) ({ s with failed := failed }.started n out)
  | resultRefused {reply : Call} {failed : List Export} {err : Error}
      (here : s.pc = .allocResult) (logged : s.log .alloc reply = { s with failed := failed })
      (refused : allocWrite s.inst.modDead reply (List.replicate resultSize 0) = .error err) :
      Ran parser s (.call reply) ({ s with failed := failed }.failUnsettled err 0)
  | allocResult {p : Nat} {reply : Call} {failed : List Export} (here : s.pc = .allocResult)
      (logged : s.log .alloc reply = { s with failed := failed })
      (allocated : allocWrite s.inst.modDead reply (List.replicate resultSize 0) = .ok p) :
      Ran parser s (.call reply) { s with failed := failed, pc := .poll 0 p }
  | pollEnd {n p : Nat} (here : s.pc = .poll n p) (settled : s.pending = 0) :
      Ran parser s .step (s.finish p)
  | pollWait {n p : Nat} (here : s.pc = .poll n p) :
      Ran parser s .step (s.goto (.select p))
  | pollSkip {n p : Nat} (here : s.pc = .poll n p) :
      Ran parser s .step (s.goto (.poll (n + 1) p))
  | pollCall {n p : Nat} {e : Entry} {reply : Call} {failed : List Export}
      (here : s.pc = .poll n p) (logged : s.log .resultGet reply = { s with failed := failed })
      (present : s.entries[n]? = some e) (due : ¬ skipped e = true) :
      Ran parser s (.call reply) ({ s with failed := failed }.polled n p
        (pollResult parser s.inst.modDead (asInt32 reply) p e.name e.query.type))
  | ctxDone {p : Nat} (here : s.pc = .select p) (err : Error) :
      Ran parser s (.ctxDone err) (s.goto (.closing .swap err p))
  | doneFailed {p : Nat} {err : Error} (here : s.pc = .select p)
      (cause : s.inst.cause = some err) :
      Ran parser s .done (s.goto (.closing .swap err p))
  | done {p : Nat} (here : s.pc = .select p) (cause : s.inst.cause = none) :
      Ran parser s .done (s.failUnsettled .errClosed p)
  | event {p : Nat} (here : s.pc = .select p) (ev : HostEvent) :
      Ran parser s (.event ev) (s.goto (.dispatch p ev))
  | eventsClosed {p : Nat} (here : s.pc = .select p) :
      Ran parser s .eventsClosed (s.failUnsettled .errClosed p)
  | dispatchFailed {p : Nat} {ev : HostEvent} {reply : Call} {failed : List Export} {err : Error}
      (here : s.pc = .dispatch p ev)
      (logged : s.log (deliver ev) reply = { s with failed := failed })
      (called : call s.inst.modDead reply = .error err) :
      Ran parser s (.call reply) { s with
        failed := failed, pc := .closing .swap (.wrap "unbound: dispatch event" err) p }
  | dispatch {p : Nat} {ev : HostEvent} {reply : Call} {failed : List Export} {out : Int}
      (here : s.pc = .dispatch p ev)
      (logged : s.log (deliver ev) reply = { s with failed := failed })
      (called : call s.inst.modDead reply = .ok out) :
      Ran parser s (.call reply) { s with failed := failed, pc := .poll 0 p }
  | closing {stage : CloseStage} {err : Error} {p : Nat} {after : State}
      (here : s.pc = .closing stage err p) (closing : s.Closing stage err p after) :
      Ran parser s .step after
  | free {p : Nat} {ret : Returned} {reply : Call} {failed : List Export}
      (here : s.pc = .free p ret) (freed : s.free p reply = { s with failed := failed }) :
      Ran parser s (.call reply) { s with failed := failed, pc := .cancel 0 ret }
  | cancelNext {n : Nat} {ret : Returned} (here : s.pc = .cancel n ret) :
      Ran parser s .step (s.cancelNext n ret)
  | callCancel {n : Nat} {ret : Returned} {reply : Call} {failed : List Export}
      (here : s.pc = .callCancel n ret)
      (logged : s.log .resolveCancel reply = { s with failed := failed }) :
      Ran parser s (.call reply) { s with failed := failed, pc := .cancel (n + 1) ret }

section

variable {parser : MessageParser} {s after : State}

theorem ran_of_pollNext {n p : Nat} (here : s.pc = .poll n p)
    (stepped : s.pollNext n p = some after) : Ran parser s .step after := by
  unfold pollNext at stepped
  split at stepped
  · cases stepped
    split
    next settled => exact .pollEnd here settled
    next => exact .pollWait here
  · split at stepped
    · cases stepped
      exact .pollSkip here
    · cases stepped

theorem ran_of_pollCall {n p : Nat} {reply : Call} (here : s.pc = .poll n p)
    (stepped : s.pollCall parser n p reply = some after) : Ran parser s (.call reply) after := by
  obtain ⟨failed, logged⟩ := s.log_eq .resultGet reply
  unfold pollCall at stepped
  split at stepped
  · cases stepped
  next e present =>
    split at stepped
    · cases stepped
    next due =>
      cases stepped
      rw [logged]
      exact .pollCall here logged present due

theorem closing_of_closeStep {stage : CloseStage} {err : Error} {p : Nat}
    (stepped : s.closeStep stage err p = some after) : s.Closing stage err p after := by
  unfold closeStep at stepped
  split at stepped
  · cases stepped
  next advanced =>
    cases stepped
    exact .goesOn (CloseStage.moved_of_step advanced)
  next advanced =>
    cases stepped
    exact .ends (CloseStage.moved_of_step advanced)

theorem ran_stateErr {p : Nat} (here : s.pc = .select p) :
    Ran parser s .done (s.stateErr p) := by
  unfold stateErr
  split
  next cause => exact .doneFailed here cause
  next cause => exact .done here cause

theorem ran_afterAllocName {n : Nat} (here : s.pc = .allocName n) (reply : Call) :
    Ran parser s (.call reply) ((s.log .alloc reply).afterAllocName n reply) := by
  obtain ⟨failed, logged⟩ := s.log_eq .alloc reply
  rw [logged, afterAllocName]
  split
  next refused => exact .nameRefused here logged refused
  next allocated => exact .allocName here logged allocated

theorem ran_afterAllocResult (here : s.pc = .allocResult) (reply : Call) :
    Ran parser s (.call reply) ((s.log .alloc reply).afterAllocResult reply) := by
  obtain ⟨failed, logged⟩ := s.log_eq .alloc reply
  rw [logged, afterAllocResult]
  split
  next refused => exact .resultRefused here logged refused
  next allocated => exact .allocResult here logged allocated

theorem ran_dispatched {p : Nat} {ev : HostEvent} (here : s.pc = .dispatch p ev) (reply : Call) :
    Ran parser s (.call reply) ((s.log (deliver ev) reply).dispatched p reply) := by
  obtain ⟨failed, logged⟩ := s.log_eq (deliver ev) reply
  rw [logged, dispatched]
  split
  next called => exact .dispatchFailed here logged called
  next called => exact .dispatch here logged called

theorem ran_of_resolveStep {action : Action}
    (stepped : s.resolveStep parser action = some after) : Ran parser s action after := by
  unfold resolveStep at stepped
  split at stepped
  case h_7 here => exact ran_of_pollNext here stepped
  case h_8 here => exact ran_of_pollCall here stepped
  case h_10 here =>
    split at stepped
    · cases stepped
    · cases stepped
      exact ran_stateErr here
  case h_14 here => exact .closing here (closing_of_closeStep stepped)
  all_goals cases stepped
  case h_1 here => exact .enter here
  case h_2 here => exact .startNext here
  case h_3 reply here => exact ran_afterAllocName here reply
  case h_4 reply here =>
    obtain ⟨failed, logged⟩ := s.log_eq .resolveStart reply
    rw [logged]
    exact .callStart here logged
  case h_5 p _ reply here =>
    obtain ⟨failed, freed⟩ := s.free_eq p reply
    rw [freed]
    exact .freeName here freed
  case h_6 reply here => exact ran_afterAllocResult here reply
  case h_9 here => exact .ctxDone here _
  case h_11 here => exact .event here _
  case h_12 here => exact .eventsClosed here
  case h_13 reply here => exact ran_dispatched here reply
  case h_15 p _ reply here =>
    obtain ⟨failed, freed⟩ := s.free_eq p reply
    rw [freed]
    exact .free here freed
  case h_16 here => exact .cancelNext here
  case h_17 reply here =>
    obtain ⟨failed, logged⟩ := s.log_eq .resolveCancel reply
    rw [logged]
    exact .callCancel here logged

end

/-- A step of `ResolveAll` that changes its own variables only. A close it goes on to
is at its beginning. -/
def Own (s after : State) : Prop :=
  ∃ entries pending pc failed, after = { s with
    entries := entries, pending := pending, pc := pc, failed := failed } ∧
    ∀ stage err p, pc = .closing stage err p → stage = .swap

theorem own_goto (s : State) {pc : Pc}
    (begins : ∀ stage err p, pc = .closing stage err p → stage = .swap) : Own s (s.goto pc) :=
  ⟨_, _, _, _, rfl, begins⟩

theorem own_failUnsettled (s : State) (err : Error) (p : Nat) : Own s (s.failUnsettled err p) :=
  ⟨_, _, _, _, rfl, by simp⟩

theorem own_kill (s : State) (err : Error) (p : Nat) : Own s (s.goto (.closing .swap err p)) :=
  s.own_goto fun _ _ _ here => by cases here; rfl

theorem own_enter (s : State) : Own s s.enter := by
  unfold enter
  split
  · split <;> exact ⟨_, _, _, _, rfl, by simp⟩
  · exact s.own_goto (by simp)

theorem own_startNext (s : State) (n : Nat) : Own s (s.startNext n) := by
  unfold startNext
  split
  · split <;> exact ⟨_, _, _, _, rfl, by simp⟩
  · split <;> exact ⟨_, _, _, _, rfl, by simp⟩

theorem own_started (s : State) (n : Nat) (out : Except Error Int) : Own s (s.started n out) := by
  cases out with
  | error err => exact s.own_kill _ 0
  | ok rid =>
      simp only [started]
      split <;> exact ⟨_, _, _, _, rfl, by simp⟩

theorem own_polled (s : State) (n p : Nat) (poll : Poll) : Own s (s.polled n p poll) := by
  cases poll with
  | fatal err => exact s.own_kill err p
  | failed | ready | pending => exact ⟨_, _, _, _, rfl, by simp⟩

theorem Own.failed {s after : State} {failed : List Export}
    (own : Own { s with failed := failed } after) : Own s after := own

/-- Outside of a close, `ResolveAll` changes its own variables only. -/
theorem own_of_ran {parser : MessageParser} {s after : State} {action : Action}
    (ran : Ran parser s action after) :
    (Own s after ∧ ∀ stage err p, s.pc ≠ .closing stage err p) ∨
      ∃ stage err p, s.pc = .closing stage err p ∧ action = .step ∧
        s.Closing stage err p after := by
  cases ran with
  | closing here closing => exact .inr ⟨_, _, _, here, rfl, closing⟩
  | enter here => exact .inl ⟨s.own_enter, by simp [here]⟩
  | startNext here => exact .inl ⟨s.own_startNext _, by simp [here]⟩
  | freeName here => exact .inl ⟨Own.failed (own_started ..), by simp [here]⟩
  | pollCall here => exact .inl ⟨Own.failed (own_polled ..), by simp [here]⟩
  | ctxDone here | doneFailed here | dispatchFailed here =>
      exact .inl ⟨⟨_, _, _, _, rfl, fun _ _ _ begun => by cases begun; rfl⟩, by simp [here]⟩
  | done here | eventsClosed here => exact .inl ⟨own_failUnsettled .., by simp [here]⟩
  | nameRefused here | resultRefused here =>
      exact .inl ⟨Own.failed (own_failUnsettled ..), by simp [here]⟩
  | pollEnd here | pollWait here | pollSkip here | event here =>
      exact .inl ⟨own_goto _ (by simp), by simp [here]⟩
  | allocName here | callStart here | allocResult here | dispatch here | free here
  | callCancel here => exact .inl ⟨⟨_, _, _, _, rfl, by simp⟩, by simp [here]⟩
  | cancelNext here =>
      refine .inl ⟨?_, by simp [here]⟩
      unfold State.cancelNext
      split
      · exact own_goto _ (by simp)
      · split <;> exact own_goto _ (by simp)

/-- A step of another goroutine. A `Close` that has not begun is at its
compare-and-swap, a sweep at `state.close`. -/
def interfere (s : State) : Interference → Option State
  | .close =>
      match (s.other.getD .swap).step s.inst with
      | none => none
      | some (inst, next) => some { s with inst := inst, other := next }
  | .sweep =>
      match (s.sweep.getD .shutdown).step s.inst with
      | none => none
      | some (inst, next) => some { s with inst := inst, sweep := next }
  | .fail cause =>
      if s.inst.once = .idle then
        some { s with inst := s.inst.beginShutdown (some cause), failing := true }
      else
        none
  | .failed =>
      if s.failing then
        some { s with inst := { s.inst with once := .finished }, failing := false }
      else
        none

/-- What a step of another goroutine can be. -/
inductive Interfered (s : State) : Interference → State → Prop where
  | close {inst : Instance} {next : Option CloseStage}
      (moved : (s.other.getD .swap).Moved s.inst inst next) :
      Interfered s .close { s with inst := inst, other := next }
  | sweep {inst : Instance} {next : Option CloseStage}
      (moved : (s.sweep.getD .shutdown).Moved s.inst inst next) :
      Interfered s .sweep { s with inst := inst, sweep := next }
  | fail (cause : Error) (idle : s.inst.once = .idle) :
      Interfered s (.fail cause)
        { s with inst := s.inst.beginShutdown (some cause), failing := true }
  | failed (failing : s.failing = true) :
      Interfered s .failed
        { s with inst := { s.inst with once := .finished }, failing := false }

theorem interfered_of_step {s after : State} {what : Interference}
    (stepped : s.interfere what = some after) : Interfered s what after := by
  unfold interfere at stepped
  split at stepped
  case h_1 =>
    split at stepped
    · cases stepped
    next advanced =>
      cases stepped
      exact .close (CloseStage.moved_of_step advanced)
  case h_2 =>
    split at stepped
    · cases stepped
    next advanced =>
      cases stepped
      exact .sweep (CloseStage.moved_of_step advanced)
  case h_3 cause =>
    split at stepped
    next idle =>
      cases stepped
      exact .fail cause idle
    · cases stepped
  case h_4 =>
    split at stepped
    next failing =>
      cases stepped
      exact .failed failing
    · cases stepped

/-- Other goroutines only ever bring the instance closer to its end. -/
theorem interfere_eq {s after : State} {what : Interference}
    (stepped : s.interfere what = some after) :
    s.inst.Later after.inst ∧ ∃ inst other sweep failing, after = { s with
      inst := inst, other := other, sweep := sweep, failing := failing } := by
  cases interfered_of_step stepped with
  | close moved | sweep moved => exact ⟨moved.later, _, _, _, _, rfl⟩
  | fail cause idle =>
      exact ⟨⟨id, fun finished => by simp [finished] at idle, id⟩, _, _, _, _, rfl⟩
  | failed => exact ⟨⟨id, fun _ => rfl, id⟩, _, _, _, _, rfl⟩

/-- One step of the system. -/
def step (parser : MessageParser) (s : State) : Action → Option State
  | .interfere what => s.interfere what
  | action => s.resolveStep parser action

/-- `ResolveAll` is called. -/
def resolveAll (s : State) (queries : List Query) : State :=
  { s with entries := queries.map Entry.new, pending := 0, pc := .entry, failed := [] }

/-- The first call, on an instance nothing has happened to. -/
def initial (queries : List Query) : State :=
  ⟨.new, none, none, false, queries.map Entry.new, 0, .entry, []⟩

end State

/-- `ResolveAll` of a batch. -/
def machine (parser : MessageParser) (queries : List Query) : Machine State Action where
  initial := State.initial queries
  step := State.step parser

end UnboundWasm.Host.Resolve
