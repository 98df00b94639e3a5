import UnboundWasm.Host.Sockets.Ids

/-!
# Host sockets: what a caller of the imports depends on

The code that calls the socket imports sees the entries, who a socket is and where it
is connected to, which operating-system sockets belong to it, its own memory, and where
the import in progress stands.  Dials, readers and the shutdown run beside it and change
little of that: a connection appears, or the entries go.  `Move` lists what the section
of an import can do to the view; everything the caller relies on is derived from it.
-/

namespace UnboundWasm.Host.Sockets

open UnboundWasm.Lib

/-- A host socket without what readers and the shutdown change. -/
structure Face where
  id : Int
  af : Family
  typ : SockType
  remote : AddrPort
  udp : Option Nat
  tcp : Option Nat
  deriving DecidableEq, Repr

def HostSocket.face (sock : HostSocket) : Face :=
  ⟨sock.id, sock.af, sock.typ, sock.remote, sock.udp, sock.tcp⟩

/-- The state as a caller of the imports sees it. `owners` holds the host socket each
operating-system socket was created for. -/
structure View where
  entries : Option Entries
  next : Int
  socks : Heap Face
  owners : Heap Nat
  memory : Memory
  guest : GuestPc
  returned : Int

def State.view (s : State) : View where
  entries := s.sockets
  next := s.nextSocket
  socks := s.socks.map HostSocket.face
  owners := s.conns.map Conn.owner
  memory := s.memory
  guest := s.guest
  returned := s.returned

namespace View

def ret (v : View) (result : Int) : View := { v with guest := .running, returned := result }

def goto (v : View) (pc : GuestPc) : View := { v with guest := pc }

def store (v : View) (memory : Memory) : View := { v with memory := memory }

def socket (v : View) (id : Int) : Option Nat := v.entries.bind fun entries => entries.lookup id

/-- `sock_open` adds an entry. -/
def opened (v : View) (entries : Entries) (af : Family) (typ : SockType) : View :=
  { v with
    entries := some (entries.insert v.next v.socks.size)
    next := toInt32 (v.next + 1)
    socks := v.socks.alloc ⟨v.next, af, typ, .zero, none, none⟩ }.ret v.next

def erase (v : View) (id : Int) : View := { v with entries := v.entries.map (AList.erase id) }

/-- `sock.remote = remote`. -/
def connect (v : View) (sock : Nat) (remote : AddrPort) : View :=
  { v with socks := v.socks.modify sock fun face => { face with remote := remote } }

/-- A UDP socket is opened for the host socket. -/
def listen (v : View) (sock : Nat) : View :=
  { v with
    socks := v.socks.modify sock fun face => { face with udp := some v.owners.size }
    owners := v.owners.alloc sock }

/-- A dial succeeds. -/
def attach (v : View) (sock : Nat) : View :=
  { v with
    socks := v.socks.modify sock fun face => { face with tcp := some v.owners.size }
    owners := v.owners.alloc sock }

/-- What dials, readers and the shutdown do to the view. -/
inductive Beside (v : View) : View → Prop where
  | same : Beside v v
  | shut : Beside v { v with entries := none }
  | spare (sock : Nat) : Beside v { v with owners := v.owners.alloc sock }
  | attach (sock : Nat) : Beside v (v.attach sock)

/-- What the section of an import at a program counter does to the view. -/
inductive Move (v : View) : GuestPc → View → Prop where
  | refused {af : Family} {typ : SockType} {result : Int} (negative : result < 0)
      (full : result = -wasiEMFILE →
        ∃ entries, v.entries = some entries ∧ State.maxSocketsPerInstance ≤ entries.keys.length) :
      Move v (.openSocket af typ) (v.ret result)
  | opened {af : Family} {typ : SockType} {entries : Entries}
      (registered : v.entries = some entries) :
      Move v (.openSocket af typ) (v.opened entries af typ)
  | unknown {id : Int} {op : SockOp} (missing : v.socket id = none) :
      Move v (.lookup id op) (v.ret (State.unknownSocket op))
  | found {id : Int} {sock : Nat} {op : SockOp} (found : v.socket id = some sock) :
      Move v (.lookup id op) (v.goto (.holding id sock op))
  | gone {id : Int} : Move v (.delete id) ((v.erase id).ret 0)
  | leaving {id : Int} {sock : Nat} : Move v (.delete id) ((v.erase id).goto (.close sock))
  | closing {sock : Nat} {conns : List Nat} : Move v (.close sock) (v.goto (.closeConns conns))
  | closeNext {conns more : List Nat} : Move v (.closeConns conns) (v.goto (.closeConns more))
  | closed {conns : List Nat} : Move v (.closeConns conns) (v.ret 0)
  | failed {id : Int} {sock : Nat} {op : SockOp} {result : Int} (negative : result < 0) :
      Move v (.holding id sock op) (v.ret result)
  | bound {id : Int} {sock port : Nat} : Move v (.holding id sock (.bind port)) (v.ret 0)
  | boundNew {id : Int} {sock port : Nat} :
      Move v (.holding id sock (.bind port)) ((v.listen sock).ret 0)
  | connectFailed {id : Int} {sock : Nat} {remote : AddrPort} {result : Int} (negative : result < 0)
      (typ : (v.socks.get sock).typ = .udp) (udp : (v.socks.get sock).udp = none) :
      Move v (.holding id sock (.connect remote)) ((v.connect sock remote).ret result)
  | connectUdp {id : Int} {sock : Nat} {remote : AddrPort}
      (udp : (v.socks.get sock).udp.isSome = true) :
      Move v (.holding id sock (.connect remote))
        ((v.connect sock remote).goto (.enqueue (.io id ioWrite) 0))
  | connectNew {id : Int} {sock : Nat} {remote : AddrPort} :
      Move v (.holding id sock (.connect remote))
        (((v.connect sock remote).listen sock).goto (.enqueue (.io id ioWrite) 0))
  | connectTcp {id : Int} {sock : Nat} {remote : AddrPort} (typ : (v.socks.get sock).typ = .tcp) :
      Move v (.holding id sock (.connect remote)) ((v.connect sock remote).ret 0)
  | sends {id : Int} {sock : Nat} {data : Bytes} :
      Move v (.holding id sock (.send data))
        (v.goto (.lookup id (.sendTo (v.socks.get sock).remote data)))
  | sendListen {id : Int} {sock : Nat} {remote : AddrPort} {data : Bytes} :
      Move v (.holding id sock (.sendTo remote data)) (v.goto (.listen sock remote data))
  | sendUdp {id : Int} {sock conn : Nat} {remote : AddrPort} {data : Bytes}
      (udp : (v.socks.get sock).udp = some conn) :
      Move v (.holding id sock (.sendTo remote data)) (v.goto (.writeUdp conn remote data))
  | sendTcp {id : Int} {sock conn : Nat} {remote : AddrPort} {data : Bytes}
      (tcp : (v.socks.get sock).tcp = some conn) :
      Move v (.holding id sock (.sendTo remote data)) (v.goto (.writeTcp conn data))
  | received {id : Int} {sock ptr capacity : Nat} {fromOut : Option (Nat × Nat)} {memory : Memory}
      {result : Int} :
      Move v (.holding id sock (.recv ptr capacity fromOut)) ((v.store memory).ret result)
  | receivedMore {id : Int} {sock ptr capacity : Nat} {fromOut : Option (Nat × Nat)}
      {memory : Memory} {result : Int} :
      Move v (.holding id sock (.recv ptr capacity fromOut))
        ((v.store memory).goto (.enqueue (.io id ioRead) result))
  | error {id : Int} {sock : Nat} {result : Int} : Move v (.holding id sock .error) (v.ret result)
  | localPort {id : Int} {sock : Nat} {result : Int} :
      Move v (.holding id sock .localPort) (v.ret result)
  | listenFailed {sock : Nat} {remote : AddrPort} {data : Bytes} {result : Int}
      (negative : result < 0) : Move v (.listen sock remote data) (v.ret result)
  | listened {sock conn : Nat} {remote : AddrPort} {data : Bytes}
      (udp : (v.socks.get sock).udp = some conn) :
      Move v (.listen sock remote data) (v.goto (.writeUdp conn remote data))
  | listenedNew {sock : Nat} {remote : AddrPort} {data : Bytes} :
      Move v (.listen sock remote data) ((v.listen sock).goto (.writeUdp v.owners.size remote data))
  | wroteUdp {conn : Nat} {remote : AddrPort} {data : Bytes} {result : Int} :
      Move v (.writeUdp conn remote data) (v.ret result)
  | wroteTcp {conn : Nat} {data : Bytes} {result : Int} :
      Move v (.writeTcp conn data) (v.ret result)
  | enqueued {event : HostEvent} {result : Int} : Move v (.enqueue event result) (v.ret result)
  | stuck {event : HostEvent} {result : Int} :
      Move v (.enqueue event result) (v.goto (.blocked result))
  | released {result : Int} : Move v (.blocked result) (v.ret result)

end View

/-! ## The steps seen through the view -/

namespace State

variable {s t : State}

@[simp] theorem view_ret (result : Int) : (s.ret result).view = s.view.ret result := rfl

@[simp] theorem view_goto (pc : GuestPc) : (s.goto pc).view = s.view.goto pc := rfl

@[simp] theorem view_store (memory : Memory) : (s.store memory).view = s.view.store memory := rfl

@[simp] theorem view_observe (obs : Obs) : (s.observe obs).view = s.view := rfl

@[simp] theorem view_startReader (sock conn : Nat) : (s.startReader sock conn).view = s.view := rfl

@[simp] theorem view_startDial (dial : Dial) : (s.startDial dial).view = s.view := rfl

@[simp] theorem view_dialGoto (ref : Nat) (pc : DialPc) : (s.dialGoto ref pc).view = s.view := rfl

@[simp] theorem view_readerGoto (ref : Nat) (pc : ReaderPc) : (s.readerGoto ref pc).view = s.view :=
  rfl

@[simp] theorem view_startShutdown (cause : Option Cause) :
    (s.startShutdown cause).view = s.view := by
  unfold startShutdown
  split <;> rfl

/-- An update of fields the view leaves out. -/
theorem view_onSock_frame {sock : Nat} {update : HostSocket → HostSocket}
    (untouched : ∀ value, (update value).face = value.face) :
    (s.onSock sock update).view = s.view := by
  simp only [view, onSock]
  rw [Heap.map_modify_frame _ _ _ _ (untouched _)]

theorem view_connect (sock : Nat) (remote : AddrPort) :
    (s.onSock sock fun sock => { sock with remote := remote }).view =
      s.view.connect sock remote := by
  simp only [view, onSock, View.connect, View.mk.injEq, true_and, and_true]
  exact Heap.map_modify _ _ _ _ fun _ => rfl

@[simp] theorem view_closeConn (conn : Nat) : (s.closeConn conn).view = s.view := by
  simp only [view, closeConn]
  rw [Heap.map_modify_frame]
  rfl

@[simp] theorem view_markClosed (sock : Nat) : (s.markClosed sock).view = s.view :=
  view_onSock_frame fun _ => rfl

theorem view_of_enqueue {event : HostEvent} {drop full : Bool}
    (sent : s.enqueue event drop = (t, full)) : t.view = s.view := by
  unfold enqueue at sent
  split at sent
  · cases sent
    rfl
  · split at sent
    · cases sent
      rfl
    · cases sent
      rw [view_startShutdown, view_observe]

/-- `listenUDPLocked` fails, finds the socket open, or opens it. -/
theorem view_of_listen {sock : Nat} {reply : Reply} {err : Option NetError}
    (listened : s.listenUDPLocked sock reply = (t, err)) :
    (err.isSome = true ∧ (s.socks.get sock).udp = none ∧ t.view = s.view) ∨
      (err = none ∧ (s.socks.get sock).udp.isSome = true ∧ t = s) ∨
      (err = none ∧ (s.socks.get sock).udp = none ∧ t.view = s.view.listen sock ∧
        (t.socks.get sock).udp = some s.view.owners.size) := by
  unfold listenUDPLocked at listened
  split at listened
  next udp =>
    cases listened
    exact .inr (.inl ⟨rfl, by rw [udp]; rfl, rfl⟩)
  next udp _ =>
    cases listened
    exact .inl ⟨rfl, udp, rfl⟩
  next udp _ =>
    cases listened
    have opened : ((s.allocConn ⟨sock, .udp, .zero, reply.port, true⟩).onSock sock fun sock =>
        { sock with udp := some s.conns.size, bindPort := reply.port % 65536 }).view =
        s.view.listen sock := by
      simp only [view, onSock, allocConn, View.listen, Heap.map_alloc, View.mk.injEq, true_and,
        and_true]
      exact Heap.map_modify _ _ _ _ fun _ => rfl
    refine .inr (.inr ⟨rfl, udp, opened, ?_⟩)
    simp [startReader, onSock, allocConn, view]

section Beside

open View

theorem beside_of_view (same : t.view = s.view) : Beside s.view t.view := by
  rw [same]
  exact .same

theorem beside_dialSucceeded (ref port : Nat) :
    Beside s.view (s.dialSucceeded ref port).view := by
  unfold dialSucceeded
  dsimp only
  split
  · rw [view_dialGoto]
    have spare :
        (s.allocConn ⟨(s.dials.get ref).sock, .tcp, (s.dials.get ref).remote, port, true⟩).view =
        { s.view with owners := s.view.owners.alloc (s.dials.get ref).sock } := by
      simp only [view, allocConn, Heap.map_alloc]
    rw [spare]
    exact .spare _
  · rw [view_dialGoto, view_observe]
    have attached : ((s.allocConn ⟨(s.dials.get ref).sock, .tcp, (s.dials.get ref).remote, port,
        true⟩).onSock (s.dials.get ref).sock fun sock =>
          { sock with err := none, tcp := some s.conns.size }).view =
        s.view.attach (s.dials.get ref).sock := by
      simp only [view, onSock, allocConn, View.attach, Heap.map_alloc, View.mk.injEq, true_and,
        and_true]
      exact Heap.map_modify _ _ _ _ fun _ => rfl
    rw [attached]
    exact .attach _

theorem view_readerEnqueue (ref flags : Nat) (drop : Bool) (next : ReaderPc) :
    (s.readerEnqueue ref flags drop next).view = s.view := by
  unfold readerEnqueue
  split
  all_goals
    next sent => rw [view_readerGoto, view_of_enqueue sent]

theorem view_dialFailed (ref : Nat) (err : NetError) : (s.dialFailed ref err).view = s.view := by
  unfold dialFailed
  dsimp only
  split
  · rfl
  · rw [view_dialGoto]
    exact view_onSock_frame fun _ => rfl

theorem view_push (sock : Nat) (packet : ReceivedPacket) : (s.push sock packet).view = s.view := by
  unfold push
  split
  · rfl
  · rw [view_observe]
    exact view_onSock_frame fun _ => rfl

theorem view_readErrorLocked (sock : Nat) (err : NetError) :
    (s.readErrorLocked sock err).view = s.view := by
  unfold readErrorLocked
  split
  · rfl
  · exact view_onSock_frame fun _ => rfl

/-- Every step beside the guest call is one of the moves beside it. -/
theorem beside_of_step {action : Action} (stepped : s.step action = some t)
    (background : action.isBackground = true) : Beside s.view t.view := by
  cases moved_of_step stepped with
  | dialFailed => exact beside_of_view (view_dialFailed _ _)
  | dialSucceeded => exact beside_dialSucceeded _ _
  | dialClose => exact beside_of_view (by rw [view_dialGoto, view_closeConn])
  | dialEnqueue _ _ enqueued =>
      exact beside_of_view (by rw [view_dialGoto, view_of_enqueue enqueued])
  | push => exact beside_of_view (by rw [view_readerGoto, view_push])
  | readError => exact beside_of_view (by rw [view_readerGoto, view_readErrorLocked])
  | pushEnqueue | errorEnqueue => exact beside_of_view (view_readerEnqueue _ _ _ _)
  | shutdown => exact beside_of_view (view_startShutdown none)
  | finish => exact .shut
  | @visit _ sock => exact beside_of_view (s.view_markClosed sock)
  | @sweep _ conn => exact beside_of_view (s.view_closeConn conn)
  | dialSpawn | dialWoken | read | source | readerWoken | timers | sockets | visited => exact .same
  | _ => cases background

end Beside

section Move

open View

theorem negative_wasiErrno (err : NetError) : -wasiErrno err < 0 := by
  have positive : 0 < wasiErrno err := wasiSuccess_lt_wasiErrno err
  omega

theorem move_bind (id : Int) (sock port : Nat) (reply : Reply) :
    Move s.view (.holding id sock (.bind port)) (s.sockBind sock port reply).view := by
  unfold sockBind
  dsimp only
  split
  · exact .failed (show -wasiEBADF < 0 by decide)
  · split
    · exact .failed (show -wasiEINVAL < 0 by decide)
    · have bound : (s.onSock sock fun sock => { sock with bindPort := port }).view = s.view :=
        view_onSock_frame fun _ => rfl
      split
      · rw [view_ret, bound]
        exact .bound
      · split
        next err listened =>
          rcases view_of_listen listened with
            ⟨-, -, same⟩ | ⟨impossible, -, -⟩ | ⟨impossible, -, -, -⟩
          · rw [view_ret, same, bound]
            exact .failed (negative_wasiErrno err)
          · cases impossible
          · cases impossible
        next listened =>
          rcases view_of_listen listened with ⟨impossible, -, -⟩ | ⟨-, -, same⟩ | ⟨-, -, opened, -⟩
          · cases impossible
          · rw [view_ret, same, bound]
            exact .bound
          · rw [view_ret, opened, bound]
            exact .boundNew

theorem move_connect (id : Int) (sock : Nat) (remote : AddrPort) (reply : Reply) :
    Move s.view (.holding id sock (.connect remote))
      (s.sockConnectLocked id sock remote reply).view := by
  unfold sockConnectLocked
  dsimp only
  split
  · exact .failed (show -wasiEBADF < 0 by decide)
  · have kept : ((s.onSock sock fun sock => { sock with remote := remote }).socks.get sock).udp =
        (s.socks.get sock).udp := by
      simp [onSock]
    split
    next typ =>
      split
      next err listened =>
        rcases view_of_listen listened with
          ⟨-, none, same⟩ | ⟨impossible, -, -⟩ | ⟨impossible, -, -, -⟩
        · rw [view_ret, same, view_connect]
          exact .connectFailed (negative_wasiErrno err) typ (kept.symm.trans none)
        · cases impossible
        · cases impossible
      next listened =>
        rcases view_of_listen listened with
          ⟨impossible, -, -⟩ | ⟨-, found, same⟩ | ⟨-, -, opened, -⟩
        · cases impossible
        · rw [view_goto, same, view_connect]
          rw [kept] at found
          exact .connectUdp found
        · rw [view_goto, opened, view_connect]
          exact .connectNew
    next typ =>
      split
      · rw [view_ret, view_connect]
        exact .connectTcp typ
      · rw [view_ret, view_startDial, view_connect]
        exact .connectTcp typ

theorem move_send (id : Int) (sock : Nat) (data : Bytes) :
    Move s.view (.holding id sock (.send data)) (s.sockSendLocked id sock data).view := by
  unfold sockSendLocked sockSendTo
  dsimp only
  split
  · split
    · exact .failed (show -wasiEINVAL < 0 by decide)
    · split
      · exact .sends
      · exact .failed (show -wasiEACCES < 0 by decide)
  · exact .failed (show -wasiENOTCONN < 0 by decide)

theorem move_sendTo (id : Int) (sock : Nat) (remote : AddrPort) (data : Bytes) :
    Move s.view (.holding id sock (.sendTo remote data))
      (s.sockSendToLocked sock remote data).view := by
  unfold sockSendToLocked
  dsimp only
  split
  · exact .failed (show -wasiEBADF < 0 by decide)
  · split
    next => exact .sendListen
    next udp => exact .sendUdp udp
    next => exact .failed (show -wasiEAGAIN < 0 by decide)
    next tcp => exact .sendTcp tcp

theorem move_recv (id : Int) (sock ptr capacity : Nat) (fromOut : Option (Nat × Nat)) :
    Move s.view (.holding id sock (.recv ptr capacity fromOut))
      (s.sockRecvLocked id sock ptr capacity fromOut).view := by
  unfold sockRecvLocked
  dsimp only
  split
  · have cleared : (s.onSock sock fun sock => { sock with err := none }).view = s.view :=
      view_onSock_frame fun _ => rfl
    split
    next err _ =>
      rw [view_ret, cleared]
      exact .failed (negative_wasiErrno err)
    next =>
      rw [view_ret, cleared]
      exact .failed (show -wasiEAGAIN < 0 by decide)
  next chunk rest _ =>
    have popped : ((s.onSock sock fun sock => { sock with queue := rest }).observe
        (.queued sock)).view = s.view := by
      rw [view_observe]
      exact view_onSock_frame fun _ => rfl
    split
    · rw [view_ret, view_store, popped]
      exact .received
    · split
      · rw [view_ret, view_store, popped]
        exact .received
      · rw [view_goto, view_store, popped]
        exact .receivedMore

theorem move_onHolding (id : Int) (sock : Nat) (op : SockOp) (reply : Reply) :
    Move s.view (.holding id sock op) (s.onHolding id sock reply op).view := by
  cases op with
  | bind port => exact move_bind id sock port reply
  | connect remote => exact move_connect id sock remote reply
  | send data => exact move_send id sock data
  | sendTo remote data => exact move_sendTo id sock remote data
  | recv ptr capacity fromOut => exact move_recv id sock ptr capacity fromOut
  | error =>
      simp only [onHolding, sockErrorLocked]
      split
      · exact .error
      · have cleared : (s.onSock sock fun sock => { sock with err := none }).view = s.view :=
          view_onSock_frame fun _ => rfl
        rw [view_ret, cleared]
        exact .error
  | localPort =>
      simp only [onHolding, sockLocalPortLocked]
      split <;> exact .localPort

theorem move_listen (sock : Nat) (remote : AddrPort) (data : Bytes) (reply : Reply) :
    Move s.view (.listen sock remote data) (s.sockSendListen sock remote data reply).view := by
  unfold sockSendListen
  split
  next err listened =>
    rcases view_of_listen listened with ⟨-, -, same⟩ | ⟨impossible, -, -⟩ | ⟨impossible, -, -, -⟩
    · rw [view_ret, same]
      exact .listenFailed (negative_wasiErrno err)
    · cases impossible
    · cases impossible
  next listened =>
    rcases view_of_listen listened with ⟨impossible, -, -⟩ | ⟨-, found, same⟩ | ⟨-, -, opened, udp⟩
    · cases impossible
    · subst same
      split
      next none =>
        rw [none] at found
        cases found
      next udp => exact .listened udp
    · rw [udp]
      rw [view_goto, opened]
      exact .listenedNew

theorem move_open (af : Family) (typ : SockType) :
    Move s.view (.openSocket af typ) (s.sockOpen af typ).view := by
  unfold sockOpen
  split
  next =>
    exact .refused (show -wasiEBADF < 0 by decide) fun impossible => by cases impossible
  next entries registered =>
    split
    next many =>
      exact .refused (show -wasiEMFILE < 0 by decide) fun _ => ⟨entries, registered, many⟩
    next =>
      have added : ({ s with
          nextSocket := toInt32 (s.nextSocket + 1)
          sockets := some (entries.insert s.nextSocket s.socks.size)
          socks := s.socks.alloc (.new s.nextSocket af typ) }.ret s.nextSocket).view =
          s.view.opened entries af typ := by
        rw [view_ret]
        simp only [View.opened, view, Heap.map_alloc]
        rfl
      rw [added]
      exact .opened registered

/-- Every section of an import is one of the moves. -/
theorem move_of_guestStep {reply : Reply} (stepped : s.guestStep reply = some t) :
    Move s.view s.guest t.view := by
  cases moved_of_guestStep stepped with
  | openSocket here =>
      rw [here]
      exact move_open _ _
  | lookup here =>
      rw [here]
      unfold lookupSock
      split
      next missing => exact .unknown missing
      next found => exact .found found
  | delete here =>
      rw [here]
      unfold sockDelete
      dsimp only
      split
      · exact .gone
      · exact .leaving
  | holding here =>
      rw [here]
      exact move_onHolding _ _ _ _
  | listen here =>
      rw [here]
      exact move_listen _ _ _ _
  | writeUdp here =>
      rw [here]
      exact .wroteUdp
  | writeTcp here =>
      rw [here]
      exact .wroteTcp
  | sent here enqueued =>
      rw [here, view_ret, view_of_enqueue enqueued]
      exact .enqueued
  | stuck here enqueued =>
      rw [here, view_goto, view_of_enqueue enqueued]
      exact .stuck
  | released here =>
      rw [here]
      exact .released
  | close here =>
      rw [here, view_goto, view_markClosed]
      exact .closing
  | closed here =>
      rw [here]
      exact .closed
  | closeConn here =>
      rw [here, view_goto, view_closeConn]
      exact .closeNext

end Move

end State

/-! ## Numbers and owners -/

namespace View

/-- Sockets are numbered in the order they were opened, as long as the counter has not wrapped, and
an operating-system socket belongs to the host socket that refers to it. -/
structure Sound (v : View) : Prop where
  next : v.next = toInt32 (v.socks.size + 1)
  ids : ∀ ref < v.socks.size, (v.socks.get ref).id = toInt32 (ref + 1)
  entry : v.socks.size < 2 ^ 31 - 1 → ∀ id sock, v.socket id = some sock →
    id = sock + 1 ∧ sock < v.socks.size
  udp : ∀ ref conn, (v.socks.get ref).udp = some conn →
    conn < v.owners.size ∧ v.owners.get conn = ref
  tcp : ∀ ref conn, (v.socks.get ref).tcp = some conn →
    conn < v.owners.size ∧ v.owners.get conn = ref

variable {v after : View}

/-- An entry that is left was there before. -/
theorem socket_of_erase {id other : Int} {sock : Nat}
    (found : (v.erase id).socket other = some sock) : v.socket other = some sock := by
  cases present : v.entries with
  | none => simp [socket, erase, present] at found
  | some entries =>
      simp only [socket, erase, present, Option.map_some, Option.bind_some] at found ⊢
      by_cases same : other = id
      · rw [same, AList.lookup_erase] at found
        cases found
      · rw [AList.lookup_erase_ne same] at found
        exact found

namespace Sound

theorem ret (sound : v.Sound) (result : Int) : (v.ret result).Sound :=
  ⟨sound.next, sound.ids, sound.entry, sound.udp, sound.tcp⟩

theorem goto (sound : v.Sound) (pc : GuestPc) : (v.goto pc).Sound :=
  ⟨sound.next, sound.ids, sound.entry, sound.udp, sound.tcp⟩

theorem store (sound : v.Sound) (memory : Memory) : (v.store memory).Sound :=
  ⟨sound.next, sound.ids, sound.entry, sound.udp, sound.tcp⟩

theorem erase (sound : v.Sound) (id : Int) : (v.erase id).Sound :=
  ⟨sound.next, sound.ids, fun few _ _ found => sound.entry few _ _ (socket_of_erase found),
    sound.udp, sound.tcp⟩

theorem connect (sound : v.Sound) (sock : Nat) (remote : AddrPort) :
    (v.connect sock remote).Sound where
  next := sound.next
  ids := by
    intro ref allocated
    have kept := Heap.get_modify_frame v.socks sock ref (fun face => { face with remote := remote })
      Face.id fun _ => rfl
    exact kept.trans (sound.ids ref allocated)
  entry := sound.entry
  udp := by
    intro ref conn found
    have kept := Heap.get_modify_frame v.socks sock ref (fun face => { face with remote := remote })
      Face.udp fun _ => rfl
    exact sound.udp ref conn (kept.symm.trans found)
  tcp := by
    intro ref conn found
    have kept := Heap.get_modify_frame v.socks sock ref (fun face => { face with remote := remote })
      Face.tcp fun _ => rfl
    exact sound.tcp ref conn (kept.symm.trans found)

theorem spare (sound : v.Sound) (sock : Nat) :
    { v with owners := v.owners.alloc sock }.Sound where
  next := sound.next
  ids := sound.ids
  entry := sound.entry
  udp := by
    intro ref conn found
    obtain ⟨allocated, owner⟩ := sound.udp ref conn found
    exact ⟨Nat.lt_succ_of_lt allocated, (v.owners.get_alloc_of_lt conn sock allocated).trans owner⟩
  tcp := by
    intro ref conn found
    obtain ⟨allocated, owner⟩ := sound.tcp ref conn found
    exact ⟨Nat.lt_succ_of_lt allocated, (v.owners.get_alloc_of_lt conn sock allocated).trans owner⟩

theorem listen (sound : v.Sound) (sock : Nat) : (v.listen sock).Sound where
  next := sound.next
  ids := by
    intro ref allocated
    have kept := Heap.get_modify_frame v.socks sock ref
      (fun face => { face with udp := some v.owners.size }) Face.id fun _ => rfl
    exact kept.trans (sound.ids ref allocated)
  entry := sound.entry
  udp := by
    intro ref conn found
    simp only [View.listen, Heap.get_modify] at found
    split at found
    next same =>
      cases found
      exact ⟨Nat.lt_succ_self _, by simp [View.listen, same]⟩
    next => exact (sound.spare sock).udp ref conn found
  tcp := by
    intro ref conn found
    have kept := Heap.get_modify_frame v.socks sock ref
      (fun face => { face with udp := some v.owners.size }) Face.tcp fun _ => rfl
    exact (sound.spare sock).tcp ref conn (kept.symm.trans found)

theorem attach (sound : v.Sound) (sock : Nat) : (v.attach sock).Sound where
  next := sound.next
  ids := by
    intro ref allocated
    have kept := Heap.get_modify_frame v.socks sock ref
      (fun face => { face with tcp := some v.owners.size }) Face.id fun _ => rfl
    exact kept.trans (sound.ids ref allocated)
  entry := sound.entry
  udp := by
    intro ref conn found
    have kept := Heap.get_modify_frame v.socks sock ref
      (fun face => { face with tcp := some v.owners.size }) Face.udp fun _ => rfl
    exact (sound.spare sock).udp ref conn (kept.symm.trans found)
  tcp := by
    intro ref conn found
    simp only [View.attach, Heap.get_modify] at found
    split at found
    next same =>
      cases found
      exact ⟨Nat.lt_succ_self _, by simp [View.attach, same]⟩
    next => exact (sound.spare sock).tcp ref conn found

theorem next_eq (sound : v.Sound) (few : v.socks.size < 2 ^ 31 - 1) :
    v.next = v.socks.size + 1 := by
  rw [sound.next]
  exact @toInt32_of_lt (v.socks.size + 1) (by omega)

theorem opened (sound : v.Sound) {entries : Entries} (registered : v.entries = some entries)
    (af : Family) (typ : SockType) : (v.opened entries af typ).Sound where
  next := by
    show toInt32 (v.next + 1) = toInt32 ((v.socks.size + 1 : Nat) + 1)
    rw [sound.next, State.toInt32_succ]
    rfl
  ids := by
    intro ref allocated
    rcases Heap.eq_or_lt_of_alloc allocated with rfl | old
    · simp only [View.opened, View.ret, Heap.get_alloc_size]
      exact sound.next
    · simp only [View.opened, View.ret, Heap.get_alloc_of_lt _ _ _ old]
      exact sound.ids ref old
  entry := by
    intro few id sock found
    have few : v.socks.size + 1 < 2 ^ 31 - 1 := few
    have next := sound.next_eq (Nat.lt_of_succ_lt few)
    simp only [View.socket, View.opened, View.ret, Option.bind_some] at found
    by_cases same : id = v.next
    · subst same
      rw [AList.lookup_insert] at found
      cases found
      exact ⟨next, Nat.lt_succ_self _⟩
    · rw [AList.lookup_insert_ne same] at found
      obtain ⟨number, old⟩ :=
        sound.entry (by omega) id sock (by rw [View.socket, registered]; exact found)
      exact ⟨number, Nat.lt_succ_of_lt old⟩
  udp := by
    intro ref conn found
    simp only [View.opened, View.ret, Heap.get_alloc] at found
    split at found
    · cases found
    · exact sound.udp ref conn found
  tcp := by
    intro ref conn found
    simp only [View.opened, View.ret, Heap.get_alloc] at found
    split at found
    · cases found
    · exact sound.tcp ref conn found

theorem beside (sound : v.Sound) (beside : Beside v after) : after.Sound := by
  cases beside with
  | same => exact sound
  | shut => exact ⟨sound.next, sound.ids, fun _ _ _ found => (by cases found), sound.udp, sound.tcp⟩
  | spare sock => exact sound.spare sock
  | attach sock => exact sound.attach sock

theorem move (sound : v.Sound) {pc : GuestPc} (move : Move v pc after) : after.Sound := by
  cases move with
  | opened registered => exact sound.opened registered _ _
  | gone => exact (sound.erase _).ret _
  | leaving => exact (sound.erase _).goto _
  | boundNew => exact (sound.listen _).ret _
  | connectFailed | connectTcp => exact (sound.connect _ _).ret _
  | connectUdp => exact (sound.connect _ _).goto _
  | connectNew => exact ((sound.connect _ _).listen _).goto _
  | received => exact (sound.store _).ret _
  | receivedMore => exact (sound.store _).goto _
  | listenedNew => exact (sound.listen _).goto _
  | found | closing | closeNext | sends | sendListen | sendUdp | sendTcp | listened | stuck =>
      exact sound.goto _
  | _ => exact sound.ret _

end Sound

end View

theorem State.view_of_entered {s t : State} (entered : Entered s t) :
    (∃ result, t.view = s.view.ret result) ∨ ∃ pc, t.view = s.view.goto pc := by
  cases entered with
  | ret result => exact .inl ⟨result, rfl⟩
  | openSocket af typ => exact .inr ⟨_, rfl⟩
  | lookup id op _ => exact .inr ⟨_, rfl⟩
  | delete id => exact .inr ⟨_, rfl⟩

theorem State.sound_step {s t : State} {action : Action} (sound : s.view.Sound)
    (stepped : s.step action = some t) : t.view.Sound := by
  cases action with
  | guest reply => exact sound.move (move_of_guestStep stepped)
  | dial | reader | shutdown => exact sound.beside (beside_of_step stepped rfl)
  | enter | dispatch | leave =>
      cases moved_of_step stepped
      exact sound.goto _
  | compute memory =>
      cases moved_of_step stepped
      exact sound.store memory
  | call imp =>
      cases moved_of_step stepped
      rcases view_of_entered (s.entered_call imp) with ⟨result, same⟩ | ⟨pc, same⟩
      · rw [same]
        exact sound.ret result
      · rw [same]
        exact sound.goto pc

theorem State.sound_initial : State.initial.view.Sound where
  next := show 1 = toInt32 (0 + 1) by decide
  ids := fun _ allocated => absurd allocated (Nat.not_lt_zero _)
  entry := by
    intro _ id sock found
    simp [State.initial, view, View.socket] at found
  udp := fun _ _ found => by cases found
  tcp := fun _ _ found => by cases found

theorem State.sound_of_reachable {s : State} (reachable : machine.Reachable s) : s.view.Sound := by
  have preserved : ∀ before action after, before.view.Sound →
      machine.step before action = some after → after.view.Sound :=
    fun _ _ _ sound stepped => sound_step sound stepped
  have reached := Machine.Reachable.invariant preserved reachable sound_initial
  exact reached

end UnboundWasm.Host.Sockets
