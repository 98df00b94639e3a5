import Mathlib.Data.List.AList
import UnboundWasm.Lib.Heap
import UnboundWasm.Lib.Memory
import UnboundWasm.Host.Errno
import UnboundWasm.Host.Egress

/-!
# Host sockets: the shared state

The part of `instanceState` behind the socket imports (`sockets.go`, `host.go`)
together with the goroutines that work on it: the guest call in progress, the
background dials, the readers, and the one shutdown.

Each goroutine stands between two critical sections.  Its program counter says
which section comes next and holds the locals that section reads, so a step of
the machine is one critical section, one channel operation, or one call into the
network stack.  `replay` is nil throughout: the hooks are a test facility.
The timers `shutdown` also stops belong to another lock and are not part of this
state.
-/

namespace UnboundWasm.Host.Sockets

open UnboundWasm.Lib

abbrev Bytes := List UInt8

/-- Address family of a socket, 4 or 6 in the ABI. -/
inductive Family where
  | inet4 | inet6
  deriving DecidableEq, Repr

/-- `socketUDP` and `socketTCP`. -/
inductive SockType where
  | udp | tcp
  deriving DecidableEq, Repr

/-- `ioRead`, `ioWrite` and `ioErr`, combined by bitwise or. -/
def ioRead : Nat := 1
def ioWrite : Nat := 2
def ioErr : Nat := 4

/-- `hostEvent`. -/
inductive HostEvent where
  | io (sid : Int) (flags : Nat)
  | timer (tid : Nat)
  deriving DecidableEq, Repr

/-- Why an instance was shut down; an ordinary close has no cause. -/
inductive Cause where
  | eventQueueOverflow
  deriving DecidableEq, Repr

/-- `receivedPacket`. -/
structure ReceivedPacket where
  data : Bytes
  source : AddrPort
  deriving DecidableEq, Repr

/-- `hostSocket`. The `udp` and `tcp` fields refer to operating-system sockets. -/
structure HostSocket where
  id : Int
  af : Family
  typ : SockType
  bindPort : Nat
  udp : Option Nat
  tcp : Option Nat
  remote : AddrPort
  queue : List ReceivedPacket
  err : Option NetError
  closed : Bool
  deriving DecidableEq, Repr

/-- `&hostSocket{state: s, id: id, af: af, typ: typ}`. -/
def HostSocket.new (id : Int) (af : Family) (typ : SockType) : HostSocket where
  id := id
  af := af
  typ := typ
  bindPort := 0
  udp := none
  tcp := none
  remote := .zero
  queue := []
  err := none
  closed := false

/-- An operating-system socket: a `net.UDPConn`, or a `net.Conn` dialed to
`peer`. `owner` is the host socket it was created for. -/
structure Conn where
  owner : Nat
  typ : SockType
  peer : AddrPort
  localPort : Nat
  isOpen : Bool
  deriving DecidableEq, Repr

/-- What an import does with the socket it has looked up. -/
inductive SockOp where
  | bind (port : Nat)
  | connect (remote : AddrPort)
  | send (data : Bytes)
  | sendTo (remote : AddrPort) (data : Bytes)
  | recv (ptr capacity : Nat) (fromOut : Option (Nat × Nat))
  | error
  | localPort
  deriving DecidableEq, Repr

/-- Where the guest call stands. `running` is guest code between two imports;
the others are imports about to enter the section they are named after. -/
inductive GuestPc where
  | outside
  | running
  | openSocket (af : Family) (typ : SockType)
  | lookup (id : Int) (op : SockOp)
  | holding (id : Int) (sock : Nat) (op : SockOp)
  | listen (sock : Nat) (remote : AddrPort) (data : Bytes)
  | writeUdp (conn : Nat) (remote : AddrPort) (data : Bytes)
  | writeTcp (conn : Nat) (data : Bytes)
  | enqueue (event : HostEvent) (result : Int)
  | blocked (result : Int)
  | delete (id : Int)
  | close (sock : Nat)
  | closeConns (conns : List Nat)
  deriving DecidableEq, Repr

/-- Where a `connectTCP` goroutine stands. -/
inductive DialPc where
  | dialing
  | closing (conn : Nat)
  | enqueue (flags : Nat) (conn : Option Nat)
  | spawn (conn : Nat)
  | blocked (next : DialPc)
  | done
  deriving DecidableEq, Repr

/-- A `connectTCP` goroutine. -/
structure Dial where
  sock : Nat
  af : Family
  bindPort : Nat
  remote : AddrPort
  pc : DialPc
  deriving DecidableEq, Repr

/-- Where a `readUDP` or `readTCP` goroutine stands. A TCP read may return both
data and the error that ends the stream. -/
inductive ReaderPc where
  | reading
  | source (data : Bytes) (err : Option NetError)
  | push (data : Bytes) (source : AddrPort) (err : Option NetError)
  | pushEnqueue (err : Option NetError)
  | readError (err : NetError)
  | errorEnqueue
  | blocked (next : ReaderPc)
  | done
  deriving DecidableEq, Repr

/-- A reader goroutine of one connection. -/
structure Reader where
  sock : Nat
  conn : Nat
  pc : ReaderPc
  deriving DecidableEq, Repr

/-- Where the body of `shutdown` stands. From `closing` on it holds `socketsMu`,
with the sockets it has not closed yet. -/
inductive ShutdownPc where
  | idle
  | timers
  | sockets
  | closing (todo : List Nat)
  | closeConns (conns todo : List Nat)
  | finished
  deriving DecidableEq, Repr

/-- `socketsMu` is held across the whole closing loop. -/
def ShutdownPc.holdsSocketsMu : ShutdownPc → Bool
  | .closing _ | .closeConns _ _ => true
  | .idle | .timers | .sockets | .finished => false

/-- What happened, newest first: network operations, the readiness conditions
that became true, and the traffic through the event channel. -/
inductive Obs where
  | udpWrite (conn : Nat) (dest : AddrPort) (data : Bytes)
  | tcpDial (dest : AddrPort)
  | tcpWrite (conn : Nat) (data : Bytes)
  | queued (sock : Nat)
  | established (sock : Nat)
  | enqueued (event : HostEvent)
  | dropped (event : HostEvent)
  | dispatched (event : HostEvent)
  deriving DecidableEq, Repr

/-- `map[int32]*hostSocket`, with references for the pointers. -/
abbrev Entries := AList fun _ : Int => Nat

/-- The instance as the socket imports see it. -/
structure State where
  sockets : Option Entries
  nextSocket : Int
  socks : Heap HostSocket
  conns : Heap Conn
  events : List HostEvent
  done : Bool
  err : Option Cause
  memory : Memory
  guest : GuestPc
  returned : Int
  dials : Heap Dial
  readers : Heap Reader
  shutdown : ShutdownPc
  trace : List Obs

/-- `newInstanceState`, before any guest call. -/
def State.initial : State where
  sockets := some ∅
  nextSocket := 1
  socks := .empty (.new 0 .inet4 .udp)
  conns := .empty ⟨0, .udp, .zero, 0, false⟩
  events := []
  done := false
  err := none
  memory := ⟨0, fun _ => 0⟩
  guest := .outside
  returned := 0
  dials := .empty ⟨0, .inet4, 0, .zero, .done⟩
  readers := .empty ⟨0, 0, .done⟩
  shutdown := .idle
  trace := []

namespace State

/-- `maxSocketsPerInstance`. -/
def maxSocketsPerInstance : Nat := 256

/-- Capacity of the event channel. -/
def eventCapacity : Nat := 1024

/-- The entry for a socket id; the map is nil once the instance is shut down. -/
def socket (s : State) (id : Int) : Option Nat :=
  s.sockets.bind fun entries => entries.lookup id

/-- The import returns `result` to the guest. -/
def ret (s : State) (result : Int) : State :=
  { s with guest := .running, returned := result }

/-- Move the guest call to its next section. -/
def goto (s : State) (pc : GuestPc) : State := { s with guest := pc }

/-- Record an observation. -/
def observe (s : State) (obs : Obs) : State := { s with trace := obs :: s.trace }

/-- Update one host socket. -/
def onSock (s : State) (sock : Nat) (update : HostSocket → HostSocket) : State :=
  { s with socks := s.socks.modify sock update }

/-- Replace the guest's memory. -/
def store (s : State) (memory : Memory) : State := { s with memory := memory }

/-- The network stack hands out a new operating-system socket. -/
def allocConn (s : State) (conn : Conn) : State :=
  { s with conns := s.conns.alloc conn }

/-- `conn.Close()`. -/
def closeConn (s : State) (conn : Nat) : State :=
  { s with conns := s.conns.modify conn fun c => { c with isOpen := false } }

@[simp] theorem closeConn_typ (s : State) (conn other : Nat) :
    ((s.closeConn conn).conns.get other).typ = (s.conns.get other).typ :=
  Heap.get_modify_frame s.conns conn other (fun c => { c with isOpen := false })
    Conn.typ fun _ => rfl

@[simp] theorem closeConn_peer (s : State) (conn other : Nat) :
    ((s.closeConn conn).conns.get other).peer = (s.conns.get other).peer :=
  Heap.get_modify_frame s.conns conn other (fun c => { c with isOpen := false })
    Conn.peer fun _ => rfl

/-- `go sock.connectTCP(...)`. -/
def startDial (s : State) (dial : Dial) : State :=
  { s with dials := s.dials.alloc dial }.observe (.tcpDial dial.remote)

/-- `go sock.readUDP(conn)` or `go sock.readTCP(conn)`. -/
def startReader (s : State) (sock conn : Nat) : State :=
  { s with readers := s.readers.alloc ⟨sock, conn, .reading⟩ }

/-- The entry of `shutdown`: `once.Do` lets the first caller through, which
records the cause and closes `done`. -/
def startShutdown (s : State) (cause : Option Cause) : State :=
  match s.shutdown with
  | .idle => { s with err := cause, done := true, shutdown := .timers }
  | _ => s

/-- `enqueue`, one select: the second component reports that the buffer was
full, in which case the caller runs `shutdown` or waits for the one running.
With `done` closed and room in the buffer either case of the select may be
taken, which `drop` decides. -/
def enqueue (s : State) (event : HostEvent) (drop : Bool) : State × Bool :=
  if s.events.length < eventCapacity && !(s.done && drop) then
    ({ s with events := s.events ++ [event], trace := .enqueued event :: s.trace }, false)
  else if s.done then
    (s.observe (.dropped event), false)
  else
    ((s.observe (.dropped event)).startShutdown (some .eventQueueOverflow), true)

end State

end UnboundWasm.Host.Sockets
