import UnboundWasm.Lib.Machine
import UnboundWasm.Host.Sockets.Imports

/-!
# Host sockets: the machine

The steps of every goroutine that touches an instance's sockets, interleaved at
the granularity of critical sections.  The guest is arbitrary: between imports
it may rewrite its memory, and it may call any import with any arguments.
-/

namespace UnboundWasm.Host.Sockets

open UnboundWasm.Lib

/-- What a read on a connection returns. -/
structure Input where
  data : Bytes
  source : AddrPort
  err : Option NetError
  deriving DecidableEq, Repr

/-- Which goroutine takes its next step, and what the environment decides. -/
inductive Action where
  | enter
  | dispatch
  | leave
  | compute (memory : Memory)
  | call (imp : Import)
  | guest (reply : Reply)
  | dial (ref : Nat) (reply : Reply)
  | reader (ref : Nat) (input : Input) (drop : Bool)
  | shutdown (pick : Nat)

/-- The step is none of the guest call. -/
def Action.isBackground : Action → Bool
  | .dial _ _ | .reader _ _ _ | .shutdown _ => true
  | .enter | .dispatch | .leave | .compute _ | .call _ | .guest _ => false

namespace State

/-- The guest import takes its next section. Sections under `socketsMu` wait for
a shutdown that is in its closing loop. -/
def guestStep (s : State) (reply : Reply) : Option State :=
  match s.guest with
  | .outside | .running => none
  | .openSocket af typ =>
      if s.shutdown.holdsSocketsMu then none else some (s.sockOpen af typ)
  | .lookup id op =>
      if s.shutdown.holdsSocketsMu then none else some (s.lookupSock id op)
  | .delete id =>
      if s.shutdown.holdsSocketsMu then none else some (s.sockDelete id)
  | .holding id sock op => some (s.onHolding id sock reply op)
  | .listen sock remote data => some (s.sockSendListen sock remote data reply)
  | .writeUdp conn remote data => some (s.writeUdp conn remote data reply)
  | .writeTcp conn data => some (s.writeTcp conn data reply)
  | .enqueue event result =>
      match s.enqueue event reply.drop with
      | (after, false) => some (after.ret result)
      | (after, true) => some (after.goto (.blocked result))
  | .blocked result =>
      if s.shutdown = .finished then some (s.ret result) else none
  | .close sock =>
      some ((s.markClosed sock).goto (.closeConns (toClose (s.socks.get sock))))
  | .closeConns [] => some (s.ret 0)
  | .closeConns (conn :: conns) => some ((s.closeConn conn).goto (.closeConns conns))

/-- Move a dial to its next section. -/
def dialGoto (s : State) (ref : Nat) (pc : DialPc) : State :=
  { s with dials := s.dials.modify ref fun dial => { dial with pc := pc } }

@[simp] theorem dialGoto_remote (s : State) (ref other : Nat) (pc : DialPc) :
    ((s.dialGoto ref pc).dials.get other).remote = (s.dials.get other).remote :=
  Heap.get_modify_frame s.dials ref other (fun dial => { dial with pc := pc })
    Dial.remote fun _ => rfl

/-- `DialContext` fails, and `connectTCP` takes its critical section. -/
def dialFailed (s : State) (ref : Nat) (err : NetError) : State :=
  let sock := (s.dials.get ref).sock
  if (s.socks.get sock).closed then
    s.dialGoto ref .done
  else
    (s.onSock sock fun sock => { sock with err := some err }).dialGoto ref
      (.enqueue (ioWrite ||| ioErr) none)

/-- `DialContext` succeeds, and `connectTCP` takes its critical section. -/
def dialSucceeded (s : State) (ref : Nat) (port : Nat) : State :=
  let dial := s.dials.get ref
  let conn := s.conns.size
  let dialed := s.allocConn ⟨dial.sock, .tcp, dial.remote, port, true⟩
  if (s.socks.get dial.sock).closed then
    dialed.dialGoto ref (.closing conn)
  else
    ((dialed.onSock dial.sock fun sock =>
      { sock with err := none, tcp := some conn }).observe (.established dial.sock)).dialGoto
        ref (.enqueue ioWrite (some conn))

/-- Where `connectTCP` goes on after its enqueue. -/
def afterDialEnqueue : Option Nat → DialPc
  | none => .done
  | some conn => .spawn conn

/-- A `connectTCP` goroutine takes its next section. -/
def dialStep (s : State) (ref : Nat) (reply : Reply) : Option State :=
  if ref < s.dials.size then
    let dial := s.dials.get ref
    match dial.pc with
    | .dialing =>
        match reply.err with
        | some err => some (s.dialFailed ref err)
        | none => some (s.dialSucceeded ref reply.port)
    | .closing conn => some ((s.closeConn conn).dialGoto ref .done)
    | .enqueue flags conn =>
        match s.enqueue (.io (s.socks.get dial.sock).id flags) reply.drop with
        | (after, false) => some (after.dialGoto ref (afterDialEnqueue conn))
        | (after, true) => some (after.dialGoto ref (.blocked (afterDialEnqueue conn)))
    | .spawn conn =>
        some ((s.startReader dial.sock conn).dialGoto ref .done)
    | .blocked next =>
        if s.shutdown = .finished then some (s.dialGoto ref next) else none
    | .done => none
  else
    none

/-- Move a reader to its next section. -/
def readerGoto (s : State) (ref : Nat) (pc : ReaderPc) : State :=
  { s with readers := s.readers.modify ref fun reader => { reader with pc := pc } }

/-- What a read returned decides where the reader goes on. A closed connection
fails the read; a read into the goroutine's buffer returns at most its size. -/
def readerInput (conn : Conn) (input : Input) : Option ReaderPc :=
  if conn.isOpen then
    match conn.typ, input.err with
    | .udp, some err => some (.readError err)
    | .udp, none =>
        if input.data.length ≤ 65535 then some (.push input.data input.source none)
        else none
    | .tcp, err =>
        if input.data.length > 32768 then none
        else if input.data = [] then
          some (match err with
            | some err => .readError err
            | none => .reading)
        else some (.source input.data err)
  else
    some (.readError .netClosed)

/-- The critical section of `push`. -/
def push (s : State) (sock : Nat) (packet : ReceivedPacket) : State :=
  if (s.socks.get sock).closed then
    s
  else
    (s.onSock sock fun sock => { sock with queue := sock.queue ++ [packet] }).observe
      (.queued sock)

/-- Where a reader goes on after `push`. -/
def afterPush : Option NetError → ReaderPc
  | some err => .readError err
  | none => .reading

/-- The critical section of `readError`. -/
def readErrorLocked (s : State) (sock : Nat) (err : NetError) : State :=
  if (s.socks.get sock).closed || err = .netClosed || err = .eof then
    s
  else
    s.onSock sock fun sock => { sock with err := some err }

/-- A reader goroutine enqueues an event and goes on at `next`. -/
def readerEnqueue (s : State) (ref : Nat) (flags : Nat) (drop : Bool)
    (next : ReaderPc) : State :=
  match s.enqueue (.io (s.socks.get (s.readers.get ref).sock).id flags) drop with
  | (after, false) => after.readerGoto ref next
  | (after, true) => after.readerGoto ref (.blocked next)

/-- A `readUDP` or `readTCP` goroutine takes its next section. -/
def readerStep (s : State) (ref : Nat) (input : Input) (drop : Bool) : Option State :=
  if ref < s.readers.size then
    let reader := s.readers.get ref
    match reader.pc with
    | .reading =>
        match readerInput (s.conns.get reader.conn) input with
        | some pc => some (s.readerGoto ref pc)
        | none => none
    | .source data err =>
        some (s.readerGoto ref (.push data (s.socks.get reader.sock).remote err))
    | .push data source err =>
        some ((s.push reader.sock ⟨data, source⟩).readerGoto ref (.pushEnqueue err))
    | .pushEnqueue err => some (s.readerEnqueue ref ioRead drop (afterPush err))
    | .readError err =>
        some ((s.readErrorLocked reader.sock err).readerGoto ref
          (if (s.socks.get reader.sock).closed then .done else .errorEnqueue))
    | .errorEnqueue => some (s.readerEnqueue ref ioErr drop .done)
    | .blocked next =>
        if s.shutdown = .finished then some (s.readerGoto ref next) else none
    | .done => none
  else
    none

/-- The sockets an instance holds entries for. -/
def entrySocks (s : State) : List Nat :=
  match s.sockets with
  | none => []
  | some entries => entries.entries.map fun entry => entry.2

/-- `shutdown` takes its next section. Starting it from here is an ordinary
close; `pick` is the entry the map iteration visits next. -/
def shutdownStep (s : State) (pick : Nat) : Option State :=
  match s.shutdown with
  | .idle => some (s.startShutdown none)
  | .timers => some { s with shutdown := .sockets }
  | .sockets => some { s with shutdown := .closing s.entrySocks }
  | .closing [] => some { s with sockets := none, shutdown := .finished }
  | .closing todo =>
      match todo[pick]? with
      | none => none
      | some sock =>
          some { s.markClosed sock with
            shutdown := .closeConns (toClose (s.socks.get sock)) (todo.eraseIdx pick) }
  | .closeConns [] todo => some { s with shutdown := .closing todo }
  | .closeConns (conn :: conns) todo =>
      some { s.closeConn conn with shutdown := .closeConns conns todo }
  | .finished => none

/-- One step. A guest export runs from `enter` or `dispatch` to `leave`. -/
def step (s : State) : Action → Option State
  | .enter => if s.guest = .outside then some (s.goto .running) else none
  | .dispatch =>
      match s.guest, s.events with
      | .outside, event :: events =>
          some (({ s with events := events }.observe (.dispatched event)).goto .running)
      | _, _ => none
  | .leave => if s.guest = .running then some (s.goto .outside) else none
  | .compute memory =>
      if s.guest = .running then some (s.store memory) else none
  | .call imp => if s.guest = .running then some (s.call imp) else none
  | .guest reply => s.guestStep reply
  | .dial ref reply => s.dialStep ref reply
  | .reader ref input drop => s.readerStep ref input drop
  | .shutdown pick => s.shutdownStep pick

/-- What a step of each goroutine can be. -/
inductive Moved (s : State) : Action → State → Prop where
  | enter (here : s.guest = .outside) : Moved s .enter (s.goto .running)
  | dispatch {event : HostEvent} {events : List HostEvent} (here : s.guest = .outside)
      (queue : s.events = event :: events) :
      Moved s .dispatch (({ s with events := events }.observe (.dispatched event)).goto .running)
  | leave (here : s.guest = .running) : Moved s .leave (s.goto .outside)
  | compute {memory : Memory} (here : s.guest = .running) :
      Moved s (.compute memory) (s.store memory)
  | call {imp : Import} (here : s.guest = .running) : Moved s (.call imp) (s.call imp)
  | openSocket {af : Family} {typ : SockType} {reply : Reply}
      (here : s.guest = .openSocket af typ) (unlocked : s.shutdown.holdsSocketsMu = false) :
      Moved s (.guest reply) (s.sockOpen af typ)
  | lookup {id : Int} {op : SockOp} {reply : Reply} (here : s.guest = .lookup id op)
      (unlocked : s.shutdown.holdsSocketsMu = false) :
      Moved s (.guest reply) (s.lookupSock id op)
  | delete {id : Int} {reply : Reply} (here : s.guest = .delete id)
      (unlocked : s.shutdown.holdsSocketsMu = false) : Moved s (.guest reply) (s.sockDelete id)
  | holding {id : Int} {sock : Nat} {op : SockOp} {reply : Reply}
      (here : s.guest = .holding id sock op) :
      Moved s (.guest reply) (s.onHolding id sock reply op)
  | listen {sock : Nat} {remote : AddrPort} {data : Bytes} {reply : Reply}
      (here : s.guest = .listen sock remote data) :
      Moved s (.guest reply) (s.sockSendListen sock remote data reply)
  | writeUdp {conn : Nat} {remote : AddrPort} {data : Bytes} {reply : Reply}
      (here : s.guest = .writeUdp conn remote data) :
      Moved s (.guest reply) (s.writeUdp conn remote data reply)
  | writeTcp {conn : Nat} {data : Bytes} {reply : Reply} (here : s.guest = .writeTcp conn data) :
      Moved s (.guest reply) (s.writeTcp conn data reply)
  | sent {event : HostEvent} {result : Int} {reply : Reply} {after : State}
      (here : s.guest = .enqueue event result)
      (enqueued : s.enqueue event reply.drop = (after, false)) :
      Moved s (.guest reply) (after.ret result)
  | stuck {event : HostEvent} {result : Int} {reply : Reply} {after : State}
      (here : s.guest = .enqueue event result)
      (enqueued : s.enqueue event reply.drop = (after, true)) :
      Moved s (.guest reply) (after.goto (.blocked result))
  | released {result : Int} {reply : Reply} (here : s.guest = .blocked result)
      (finished : s.shutdown = .finished) : Moved s (.guest reply) (s.ret result)
  | close {sock : Nat} {reply : Reply} (here : s.guest = .close sock) :
      Moved s (.guest reply)
        ((s.markClosed sock).goto (.closeConns (toClose (s.socks.get sock))))
  | closed {reply : Reply} (here : s.guest = .closeConns []) : Moved s (.guest reply) (s.ret 0)
  | closeConn {conn : Nat} {conns : List Nat} {reply : Reply}
      (here : s.guest = .closeConns (conn :: conns)) :
      Moved s (.guest reply) ((s.closeConn conn).goto (.closeConns conns))
  | dialFailed {ref : Nat} {reply : Reply} {err : NetError} (started : ref < s.dials.size)
      (here : (s.dials.get ref).pc = .dialing) (failed : reply.err = some err) :
      Moved s (.dial ref reply) (s.dialFailed ref err)
  | dialSucceeded {ref : Nat} {reply : Reply} (started : ref < s.dials.size)
      (here : (s.dials.get ref).pc = .dialing) (succeeded : reply.err = none) :
      Moved s (.dial ref reply) (s.dialSucceeded ref reply.port)
  | dialClose {ref : Nat} {reply : Reply} {conn : Nat} (started : ref < s.dials.size)
      (here : (s.dials.get ref).pc = .closing conn) :
      Moved s (.dial ref reply) ((s.closeConn conn).dialGoto ref .done)
  | dialEnqueue {ref : Nat} {reply : Reply} {flags : Nat} {conn : Option Nat} {after : State}
      {full : Bool} (started : ref < s.dials.size)
      (here : (s.dials.get ref).pc = .enqueue flags conn)
      (enqueued : s.enqueue (.io (s.socks.get (s.dials.get ref).sock).id flags) reply.drop =
        (after, full)) :
      Moved s (.dial ref reply) (after.dialGoto ref
        (if full then .blocked (afterDialEnqueue conn) else afterDialEnqueue conn))
  | dialSpawn {ref : Nat} {reply : Reply} {conn : Nat} (started : ref < s.dials.size)
      (here : (s.dials.get ref).pc = .spawn conn) :
      Moved s (.dial ref reply)
        ((s.startReader (s.dials.get ref).sock conn).dialGoto ref .done)
  | dialWoken {ref : Nat} {reply : Reply} {next : DialPc} (started : ref < s.dials.size)
      (here : (s.dials.get ref).pc = .blocked next) (finished : s.shutdown = .finished) :
      Moved s (.dial ref reply) (s.dialGoto ref next)
  | read {ref : Nat} {input : Input} {drop : Bool} {pc : ReaderPc}
      (started : ref < s.readers.size) (here : (s.readers.get ref).pc = .reading)
      (returned : readerInput (s.conns.get (s.readers.get ref).conn) input = some pc) :
      Moved s (.reader ref input drop) (s.readerGoto ref pc)
  | source {ref : Nat} {input : Input} {drop : Bool} {data : Bytes} {err : Option NetError}
      (started : ref < s.readers.size) (here : (s.readers.get ref).pc = .source data err) :
      Moved s (.reader ref input drop)
        (s.readerGoto ref (.push data (s.socks.get (s.readers.get ref).sock).remote err))
  | push {ref : Nat} {input : Input} {drop : Bool} {data : Bytes} {source : AddrPort}
      {err : Option NetError} (started : ref < s.readers.size)
      (here : (s.readers.get ref).pc = .push data source err) :
      Moved s (.reader ref input drop)
        ((s.push (s.readers.get ref).sock ⟨data, source⟩).readerGoto ref (.pushEnqueue err))
  | pushEnqueue {ref : Nat} {input : Input} {drop : Bool} {err : Option NetError}
      (started : ref < s.readers.size) (here : (s.readers.get ref).pc = .pushEnqueue err) :
      Moved s (.reader ref input drop) (s.readerEnqueue ref ioRead drop (afterPush err))
  | readError {ref : Nat} {input : Input} {drop : Bool} {err : NetError}
      (started : ref < s.readers.size) (here : (s.readers.get ref).pc = .readError err) :
      Moved s (.reader ref input drop)
        ((s.readErrorLocked (s.readers.get ref).sock err).readerGoto ref
          (if (s.socks.get (s.readers.get ref).sock).closed then .done else .errorEnqueue))
  | errorEnqueue {ref : Nat} {input : Input} {drop : Bool} (started : ref < s.readers.size)
      (here : (s.readers.get ref).pc = .errorEnqueue) :
      Moved s (.reader ref input drop) (s.readerEnqueue ref ioErr drop .done)
  | readerWoken {ref : Nat} {input : Input} {drop : Bool} {next : ReaderPc}
      (started : ref < s.readers.size) (here : (s.readers.get ref).pc = .blocked next)
      (finished : s.shutdown = .finished) :
      Moved s (.reader ref input drop) (s.readerGoto ref next)
  | shutdown {pick : Nat} (here : s.shutdown = .idle) :
      Moved s (.shutdown pick) (s.startShutdown none)
  | timers {pick : Nat} (here : s.shutdown = .timers) :
      Moved s (.shutdown pick) { s with shutdown := .sockets }
  | sockets {pick : Nat} (here : s.shutdown = .sockets) :
      Moved s (.shutdown pick) { s with shutdown := .closing s.entrySocks }
  | finish {pick : Nat} (here : s.shutdown = .closing []) :
      Moved s (.shutdown pick) { s with sockets := none, shutdown := .finished }
  | visit {pick sock : Nat} {todo : List Nat} (here : s.shutdown = .closing todo)
      (picked : todo[pick]? = some sock) :
      Moved s (.shutdown pick) { s.markClosed sock with
        shutdown := .closeConns (toClose (s.socks.get sock)) (todo.eraseIdx pick) }
  | visited {pick : Nat} {todo : List Nat} (here : s.shutdown = .closeConns [] todo) :
      Moved s (.shutdown pick) { s with shutdown := .closing todo }
  | sweep {pick conn : Nat} {conns todo : List Nat}
      (here : s.shutdown = .closeConns (conn :: conns) todo) :
      Moved s (.shutdown pick) { s.closeConn conn with shutdown := .closeConns conns todo }

theorem moved_of_guestStep {s t : State} {reply : Reply} (stepped : s.guestStep reply = some t) :
    Moved s (.guest reply) t := by
  unfold guestStep at stepped
  split at stepped
  case h_1 | h_2 => cases stepped
  case h_3 here =>
    obtain ⟨unlocked, made⟩ := Option.ite_none_left_eq_some.mp stepped
    cases made
    exact .openSocket here (by simpa using unlocked)
  case h_4 here =>
    obtain ⟨unlocked, made⟩ := Option.ite_none_left_eq_some.mp stepped
    cases made
    exact .lookup here (by simpa using unlocked)
  case h_5 here =>
    obtain ⟨unlocked, made⟩ := Option.ite_none_left_eq_some.mp stepped
    cases made
    exact .delete here (by simpa using unlocked)
  case h_6 here => cases stepped; exact .holding here
  case h_7 here => cases stepped; exact .listen here
  case h_8 here => cases stepped; exact .writeUdp here
  case h_9 here => cases stepped; exact .writeTcp here
  case h_10 here =>
    split at stepped
    next enqueued => cases stepped; exact .sent here enqueued
    next enqueued => cases stepped; exact .stuck here enqueued
  case h_11 here =>
    obtain ⟨finished, made⟩ := Option.ite_none_right_eq_some.mp stepped
    cases made
    exact .released here finished
  case h_12 here => cases stepped; exact .close here
  case h_13 here => cases stepped; exact .closed here
  case h_14 here => cases stepped; exact .closeConn here

theorem moved_of_dialStep {s t : State} {ref : Nat} {reply : Reply}
    (stepped : s.dialStep ref reply = some t) : Moved s (.dial ref reply) t := by
  obtain ⟨started, stepped⟩ := Option.ite_none_right_eq_some.mp stepped
  dsimp only at stepped
  split at stepped
  case h_1 here =>
    split at stepped
    next failed => cases stepped; exact .dialFailed started here failed
    next succeeded => cases stepped; exact .dialSucceeded started here succeeded
  case h_2 here => cases stepped; exact .dialClose started here
  case h_3 here =>
    split at stepped
    next enqueued => cases stepped; exact .dialEnqueue started here enqueued
    next enqueued => cases stepped; exact .dialEnqueue started here enqueued
  case h_4 here => cases stepped; exact .dialSpawn started here
  case h_5 here =>
    obtain ⟨finished, made⟩ := Option.ite_none_right_eq_some.mp stepped
    cases made
    exact .dialWoken started here finished
  case h_6 => cases stepped

theorem moved_of_readerStep {s t : State} {ref : Nat} {input : Input} {drop : Bool}
    (stepped : s.readerStep ref input drop = some t) : Moved s (.reader ref input drop) t := by
  obtain ⟨started, stepped⟩ := Option.ite_none_right_eq_some.mp stepped
  dsimp only at stepped
  split at stepped
  case h_1 here =>
    split at stepped
    next returned => cases stepped; exact .read started here returned
    next => cases stepped
  case h_2 here => cases stepped; exact .source started here
  case h_3 here => cases stepped; exact .push started here
  case h_4 here => cases stepped; exact .pushEnqueue started here
  case h_5 here => cases stepped; exact .readError started here
  case h_6 here => cases stepped; exact .errorEnqueue started here
  case h_7 here =>
    obtain ⟨finished, made⟩ := Option.ite_none_right_eq_some.mp stepped
    cases made
    exact .readerWoken started here finished
  case h_8 => cases stepped

theorem moved_of_shutdownStep {s t : State} {pick : Nat} (stepped : s.shutdownStep pick = some t) :
    Moved s (.shutdown pick) t := by
  unfold shutdownStep at stepped
  split at stepped
  case h_1 here => cases stepped; exact .shutdown here
  case h_2 here => cases stepped; exact .timers here
  case h_3 here => cases stepped; exact .sockets here
  case h_4 here => cases stepped; exact .finish here
  case h_5 here =>
    split at stepped
    next => cases stepped
    next picked => cases stepped; exact .visit here picked
  case h_6 here => cases stepped; exact .visited here
  case h_7 here => cases stepped; exact .sweep here
  case h_8 => cases stepped

theorem moved_of_step {s t : State} {action : Action} (stepped : s.step action = some t) :
    Moved s action t := by
  cases action with
  | enter =>
      obtain ⟨here, made⟩ := Option.ite_none_right_eq_some.mp stepped
      cases made
      exact .enter here
  | dispatch =>
      simp only [step] at stepped
      split at stepped
      next here queue => cases stepped; exact .dispatch here queue
      next => cases stepped
  | leave =>
      obtain ⟨here, made⟩ := Option.ite_none_right_eq_some.mp stepped
      cases made
      exact .leave here
  | compute memory =>
      obtain ⟨here, made⟩ := Option.ite_none_right_eq_some.mp stepped
      cases made
      exact .compute here
  | call imp =>
      obtain ⟨here, made⟩ := Option.ite_none_right_eq_some.mp stepped
      cases made
      exact .call here
  | guest reply => exact moved_of_guestStep stepped
  | dial ref reply => exact moved_of_dialStep stepped
  | reader ref input drop => exact moved_of_readerStep stepped
  | shutdown pick => exact moved_of_shutdownStep stepped

end State

/-- One instance's sockets, from its creation on. -/
def machine : Machine State Action where
  initial := .initial
  step := State.step

end UnboundWasm.Host.Sockets
