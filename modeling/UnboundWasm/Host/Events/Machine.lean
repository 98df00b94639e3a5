import UnboundWasm.Lib.Heap
import UnboundWasm.Host.Resolve.Machine

/-!
# The event channel

`enqueue` of `host.go` with any number of callers, against the `ResolveAll` that
receives from the channel and whatever else may shut the instance down.  The callers
are reader and dial goroutines, timers, and the guest's own imports.

A log beside the state records what went into the channel and out of it, what was
dropped, and every call of `shutdown` in the order they pass `once.Do`.
-/

namespace UnboundWasm.Host.Events

open UnboundWasm.Lib
open UnboundWasm.Host.Sockets (HostEvent)

/-- `errEventQueueOverflow`. -/
def errEventQueueOverflow : Error := .new "unbound: host event queue overflowed"

/-- Where a call of `enqueue` stands: at its select, at the `once.Do` of `fail`, in the
function that runs, or back. -/
inductive SenderPc where
  | select | fail | teardown | returned
  deriving DecidableEq, Repr

/-- A call of `enqueue`. -/
structure Sender where
  event : HostEvent
  pc : SenderPc
  deriving DecidableEq, Repr

/-- An instance with the `ResolveAll` under way on it. -/
structure State where
  resolve : Resolve.State
  events : List HostEvent
  senders : Heap Sender

/-- `enqueue` is called, one of its callers takes its next step, `ResolveAll` receives
an event or does something else, and a caller starts the next `ResolveAll`. -/
inductive Action where
  | enqueue (event : HostEvent)
  | sender (ref : Nat) (drop : Bool)
  | receive
  | resolve (action : Resolve.Action)
  | resolveAll (queries : List Resolve.Query)

namespace State

/-- The `done` channel is closed. -/
def done (s : State) : Bool := s.resolve.inst.once ≠ .idle

def senderGoto (s : State) (ref : Nat) (pc : SenderPc) : State :=
  { s with senders := s.senders.modify ref fun sender => { sender with pc := pc } }

/-- The send case of the select is taken: there is room, and with `done` closed as well
`drop` decides. -/
def sends (s : State) (drop : Bool) : Bool :=
  s.events.length < Sockets.State.eventCapacity && !(s.done && drop)

/-- The select of `enqueue`. -/
def select (s : State) (ref : Nat) (drop : Bool) : State :=
  if s.sends drop then
    { s with events := s.events ++ [(s.senders.get ref).event] }.senderGoto ref .returned
  else if s.done then
    s.senderGoto ref .returned
  else
    s.senderGoto ref .fail

/-- A caller of `enqueue` takes its next step. The first to get to `once.Do` runs the
function of `shutdown`; the others wait until it is through. -/
def senderStep (s : State) (ref : Nat) (drop : Bool) : Option State :=
  if ref < s.senders.size then
    match (s.senders.get ref).pc with
    | .select => some (s.select ref drop)
    | .fail =>
        match s.resolve.inst.once with
        | .idle =>
            match s.resolve.interfere (.fail errEventQueueOverflow) with
            | none => none
            | some resolve => some ({ s with resolve := resolve }.senderGoto ref .teardown)
        | .closing => none
        | .finished => some (s.senderGoto ref .returned)
    | .teardown =>
        match s.resolve.interfere .failed with
        | none => none
        | some resolve => some ({ s with resolve := resolve }.senderGoto ref .returned)
    | .returned => none
  else
    none

/-- `ResolveAll` receives from the channel. -/
def receive (parser : MessageParser) (s : State) : Option State :=
  match s.events with
  | [] => none
  | event :: rest =>
      match s.resolve.step parser (.event event) with
      | none => none
      | some resolve => some { s with resolve := resolve, events := rest }

/-- Any other step of `ResolveAll`, of a `Close` or of the sweep. Nobody closes the
channel of events, and an overflow is the business of `senderStep`. -/
def resolveStep (parser : MessageParser) (s : State) (action : Resolve.Action) : Option State :=
  match action with
  | .event _ | .eventsClosed | .interfere (.fail _) | .interfere .failed => none
  | .step | .call _ | .ctxDone _ | .done | .interfere .close | .interfere .sweep =>
      match s.resolve.step parser action with
      | none => none
      | some resolve => some { s with resolve := resolve }

def step (parser : MessageParser) (s : State) : Action → Option State
  | .enqueue event => some { s with senders := s.senders.alloc ⟨event, .select⟩ }
  | .sender ref drop => s.senderStep ref drop
  | .receive => s.receive parser
  | .resolve action => s.resolveStep parser action
  | .resolveAll queries =>
      match s.resolve.pc with
      | .returned _ => some { s with resolve := s.resolve.resolveAll queries }
      | _ => none

def initial (queries : List Resolve.Query) : State where
  resolve := .initial queries
  events := []
  senders := .empty ⟨.timer 0, .returned⟩

end State

/-- What the log records. -/
inductive Note where
  | enqueued (ref : Nat) (event : HostEvent)
  | dropped (ref : Nat) (event : HostEvent)
  | received (event : HostEvent)
  | shutdown (cause : Option Error)
  deriving DecidableEq, Repr

/-- A step calls `shutdown(nil)` and gets past `once.Do`. -/
def callsShutdown (s : Resolve.State) : Resolve.Action → Bool
  | .interfere .close => s.other = some .shutdown
  | .interfere .sweep => s.sweep.getD .shutdown = .shutdown
  | .step =>
      match s.pc with
      | .closing .shutdown _ _ => true
      | _ => false
  | _ => false

/-- What the log records about a step to `after`. An event is received when `ResolveAll` goes on
to dispatch it. -/
def State.noted (s : State) (action : Action) (after : State) : Option Note :=
  match action with
  | .sender ref drop =>
      match (s.senders.get ref).pc with
      | .select =>
          if s.sends drop then some (.enqueued ref (s.senders.get ref).event)
          else some (.dropped ref (s.senders.get ref).event)
      | .fail => some (.shutdown (some errEventQueueOverflow))
      | .teardown | .returned => none
  | .receive =>
      match after.resolve.pc with
      | .dispatch _ event => some (.received event)
      | _ => none
  | .resolve action => if callsShutdown s.resolve action then some (.shutdown none) else none
  | .enqueue _ | .resolveAll _ => none

/-- An instance from the first `ResolveAll` on. -/
def channel (parser : MessageParser) (queries : List Resolve.Query) : Machine State Action where
  initial := .initial queries
  step := State.step parser

/-- The same with its log. -/
def accounts (parser : MessageParser) (queries : List Resolve.Query) :
    Machine (State × List Note) Action :=
  (channel parser queries).logged ((channel parser queries).seen State.noted)

end UnboundWasm.Host.Events
