import UnboundWasm.Host.Sockets.Machine

/-!
# Egress safety

Whatever the guest passes to the imports, and in whatever order dials complete,
the host only talks to destinations the egress policy allows.  A destination
reaches the network from four places: the argument of a call, the remote a
socket remembers, an established connection, and a dial that finishes later.
`Permitted` is the invariant on all of them.
-/

namespace UnboundWasm.Host.Sockets

open UnboundWasm.Lib

namespace State

/-- The policy admits a destination, and the host has dialed it. -/
def Dialed (s : State) (dest : AddrPort) : Prop :=
  egressAllowed dest = true ∧ Obs.tcpDial dest ∈ s.trace

/-- A reference to a connection that was dialed. -/
def IsTcp (s : State) (conn : Nat) : Prop :=
  conn < s.conns.size ∧ (s.conns.get conn).typ = .tcp

/-- `OpPermitted` for a whole import, including the connection it is about to
write to. -/
def GuestPermitted (s : State) : GuestPc → Prop
  | .lookup _ op | .holding _ _ op => OpPermitted op
  | .listen _ remote _ | .writeUdp _ remote _ => egressAllowed remote = true
  | .writeTcp conn _ => s.IsTcp conn
  | _ => True

/-- A network operation the policy admits. -/
def ObsPermitted (s : State) : Obs → Prop
  | .udpWrite _ dest _ | .tcpDial dest => egressAllowed dest = true
  | .tcpWrite conn _ => s.IsTcp conn
  | _ => True

/-- Every destination the instance holds on to has passed the policy. -/
structure Permitted (s : State) : Prop where
  dials : ∀ ref < s.dials.size, s.Dialed (s.dials.get ref).remote
  conns : ∀ conn < s.conns.size, (s.conns.get conn).typ = .tcp →
    s.Dialed (s.conns.get conn).peer
  tcp : ∀ sock conn, (s.socks.get sock).tcp = some conn → s.IsTcp conn
  guest : s.GuestPermitted s.guest
  trace : ∀ obs ∈ s.trace, s.ObsPermitted obs

namespace Permitted

variable {s : State}

theorem initial : Permitted State.initial where
  dials := by simp [State.initial]
  conns := by simp [State.initial]
  tcp := by simp [State.initial, Heap.empty, HostSocket.new]
  guest := trivial
  trace := by simp [State.initial]

/-! ## The parts a section is made of -/

theorem ret (permitted : s.Permitted) (result : Int) : (s.ret result).Permitted :=
  { permitted with guest := trivial }

theorem goto (permitted : s.Permitted) {pc : GuestPc} (carried : s.GuestPermitted pc) :
    (s.goto pc).Permitted :=
  { permitted with guest := carried }

theorem store (permitted : s.Permitted) (memory : Memory) : (s.store memory).Permitted :=
  { permitted with }

theorem startReader (permitted : s.Permitted) (sock conn : Nat) :
    (s.startReader sock conn).Permitted :=
  { permitted with }

theorem observe (permitted : s.Permitted) (obs : Obs) (admitted : s.ObsPermitted obs) :
    (s.observe obs).Permitted where
  dials ref allocated :=
    ⟨(permitted.dials ref allocated).1, List.mem_cons_of_mem _ (permitted.dials ref allocated).2⟩
  conns conn allocated dialed :=
    ⟨(permitted.conns conn allocated dialed).1,
      List.mem_cons_of_mem _ (permitted.conns conn allocated dialed).2⟩
  tcp := permitted.tcp
  guest := permitted.guest
  trace := by
    intro other member
    rcases List.mem_cons.mp member with equal | earlier
    · subst other
      exact admitted
    · exact permitted.trace other earlier

/-- Sections that set a socket's connection to a dialed one, or leave it alone. -/
theorem onSock (permitted : s.Permitted) (sock : Nat) (update : HostSocket → HostSocket)
    (keeps : ∀ value conn, (update value).tcp = some conn →
      value.tcp = some conn ∨ s.IsTcp conn) :
    (s.onSock sock update).Permitted where
  dials := permitted.dials
  conns := permitted.conns
  tcp := by
    intro other conn held
    rw [State.onSock, Heap.get_modify] at held
    split at held
    next =>
      rcases keeps _ conn held with before | dialed
      · exact permitted.tcp sock conn before
      · exact dialed
    next => exact permitted.tcp other conn held
  guest := permitted.guest
  trace := permitted.trace

/-- What the rest of the invariant says about connections only depends on which
of them were dialed and where to. -/
theorem withConns (permitted : s.Permitted) {conns : Heap Conn}
    (isTcp : ∀ conn, s.IsTcp conn → { s with conns := conns }.IsTcp conn)
    (dialed : ∀ conn < conns.size, (conns.get conn).typ = .tcp →
      s.Dialed (conns.get conn).peer) :
    { s with conns := conns }.Permitted := by
  constructor
  · exact permitted.dials
  · exact dialed
  · exact fun sock conn held => isTcp conn (permitted.tcp sock conn held)
  · have carried := permitted.guest
    change { s with conns := conns }.GuestPermitted s.guest
    cases pc : s.guest <;> rw [pc] at carried <;> first | exact carried | exact isTcp _ carried
  · intro obs member
    have admitted := permitted.trace obs member
    cases obs <;> first | exact admitted | exact isTcp _ admitted

theorem closeConn (permitted : s.Permitted) (conn : Nat) : (s.closeConn conn).Permitted := by
  apply permitted.withConns
  · exact fun other held => ⟨held.1, (s.closeConn_typ conn other).trans held.2⟩
  · intro other allocated dialed
    change s.Dialed ((s.closeConn conn).conns.get other).peer
    rw [s.closeConn_peer conn other]
    exact permitted.conns other allocated ((s.closeConn_typ conn other).symm.trans dialed)

/-- Creating an operating-system socket; a dialed one goes to a destination that
was dialed. -/
theorem allocConn (permitted : s.Permitted) (conn : Conn)
    (dialed : conn.typ = .tcp → s.Dialed conn.peer) : (s.allocConn conn).Permitted := by
  apply permitted.withConns
  · intro other held
    refine ⟨Nat.lt_succ_of_lt held.1, ?_⟩
    change ((s.conns.alloc conn).get other).typ = .tcp
    rw [Heap.get_alloc_of_lt s.conns other conn held.1]
    exact held.2
  · intro other allocated
    rw [Heap.get_alloc]
    split
    next => exact dialed
    next notFresh =>
      rw [Heap.size_alloc] at allocated
      exact permitted.conns other (by omega)

theorem startShutdown (permitted : s.Permitted) (cause : Option Cause) :
    (s.startShutdown cause).Permitted := by
  unfold State.startShutdown
  split
  · exact { permitted with }
  · exact permitted

theorem enqueue (permitted : s.Permitted) (event : HostEvent) (drop : Bool) :
    (s.enqueue event drop).1.Permitted := by
  unfold State.enqueue
  split
  · have observed := permitted.observe (.enqueued event) trivial
    exact { observed with }
  · split
    · exact permitted.observe (.dropped event) trivial
    · exact (permitted.observe (.dropped event) trivial).startShutdown _

/-- Starting a dial to an admitted destination. -/
theorem startDial (permitted : s.Permitted) (dial : Dial)
    (admitted : egressAllowed dial.remote = true) : (s.startDial dial).Permitted := by
  have observed := permitted.observe (.tcpDial dial.remote) admitted
  refine ⟨?_, observed.conns, observed.tcp, observed.guest, observed.trace⟩
  intro ref allocated
  change State.Dialed _ ((s.dials.alloc dial).get ref).remote
  rw [Heap.get_alloc]
  split
  next => exact ⟨admitted, List.mem_cons_self⟩
  next notFresh =>
    have older : ref < s.dials.size + 1 := allocated
    exact observed.dials ref (by change ref < s.dials.size; omega)

theorem dialGoto (permitted : s.Permitted) (ref : Nat) (pc : DialPc) :
    (s.dialGoto ref pc).Permitted := by
  refine ⟨?_, permitted.conns, permitted.tcp, permitted.guest, permitted.trace⟩
  intro other allocated
  rw [dialGoto_remote]
  exact permitted.dials other allocated

theorem readerGoto (permitted : s.Permitted) (ref : Nat) (pc : ReaderPc) :
    (s.readerGoto ref pc).Permitted :=
  { permitted with }

/-! ## The sections -/

theorem entered {t : State} (permitted : s.Permitted) (entered : Entered s t) :
    t.Permitted := by
  cases entered with
  | ret result => exact permitted.ret result
  | openSocket | delete => exact permitted.goto trivial
  | lookup id op carried => exact permitted.goto carried

theorem sockOpen (permitted : s.Permitted) (af : Family) (typ : SockType) :
    (s.sockOpen af typ).Permitted := by
  unfold State.sockOpen
  split
  · exact permitted.ret _
  · split
    · exact permitted.ret _
    · apply ret
      refine ⟨permitted.dials, permitted.conns, ?_, permitted.guest, permitted.trace⟩
      intro sock conn held
      change ((s.socks.alloc _).get sock).tcp = some conn at held
      rw [Heap.get_alloc] at held
      split at held
      · simp [HostSocket.new] at held
      · exact permitted.tcp sock conn held

theorem lookupSock (permitted : s.Permitted) (id : Int) (op : SockOp)
    (carried : OpPermitted op) : (s.lookupSock id op).Permitted := by
  unfold State.lookupSock
  split
  · exact permitted.ret _
  · exact permitted.goto carried

theorem listenUDPLocked (permitted : s.Permitted) (sock : Nat) (reply : Reply) :
    (s.listenUDPLocked sock reply).1.Permitted := by
  unfold State.listenUDPLocked
  split
  · exact permitted
  · exact permitted
  · apply startReader
    apply onSock
    · exact permitted.allocConn _ (by simp)
    · exact fun value conn held => .inl held

theorem sockBind (permitted : s.Permitted) (sock port : Nat) (reply : Reply) :
    (s.sockBind sock port reply).Permitted := by
  have bound := permitted.onSock sock (fun sock => { sock with bindPort := port })
    fun value conn held => .inl held
  have listened := bound.listenUDPLocked sock reply
  simp only [State.sockBind]
  split
  · exact permitted.ret _
  · split
    · exact permitted.ret _
    · split
      · exact bound.ret _
      · split
        next equal => exact (equal ▸ listened).ret _
        next equal => exact (equal ▸ listened).ret _

theorem sockConnectLocked (permitted : s.Permitted) (id : Int) (sock : Nat)
    (remote : AddrPort) (reply : Reply) (admitted : egressAllowed remote = true) :
    (s.sockConnectLocked id sock remote reply).Permitted := by
  have connected := permitted.onSock sock (fun sock => { sock with remote := remote })
    fun value conn held => .inl held
  have listened := connected.listenUDPLocked sock reply
  simp only [State.sockConnectLocked]
  split
  · exact permitted.ret _
  · split
    · split
      next equal => exact (equal ▸ listened).ret _
      next equal => exact (equal ▸ listened).goto trivial
    · split
      · exact connected.ret _
      · exact (connected.startDial _ admitted).ret _

theorem sockSendLocked (permitted : s.Permitted) (id : Int) (sock : Nat) (data : Bytes) :
    (s.sockSendLocked id sock data).Permitted := by
  simp only [State.sockSendLocked]
  split
  · exact permitted.entered (s.entered_sockSendTo id _ _ data)
  · exact permitted.ret _

theorem sockSendToLocked (permitted : s.Permitted) (sock : Nat) (remote : AddrPort)
    (data : Bytes) (admitted : egressAllowed remote = true) :
    (s.sockSendToLocked sock remote data).Permitted := by
  simp only [State.sockSendToLocked]
  split
  · exact permitted.ret _
  · split
    · exact permitted.goto admitted
    · exact permitted.goto admitted
    · exact permitted.ret _
    next conn _ held => exact permitted.goto (permitted.tcp sock conn held)

theorem sockSendListen (permitted : s.Permitted) (sock : Nat) (remote : AddrPort)
    (data : Bytes) (reply : Reply) (admitted : egressAllowed remote = true) :
    (s.sockSendListen sock remote data reply).Permitted := by
  have listened := permitted.listenUDPLocked sock reply
  simp only [State.sockSendListen]
  split
  next equal => exact (equal ▸ listened).ret _
  next equal =>
    split
    · exact (equal ▸ listened).ret _
    · exact (equal ▸ listened).goto admitted

theorem sockRecvLocked (permitted : s.Permitted) (id : Int) (sock ptr capacity : Nat)
    (fromOut : Option (Nat × Nat)) :
    (s.sockRecvLocked id sock ptr capacity fromOut).Permitted := by
  simp only [State.sockRecvLocked]
  split
  · have cleared := permitted.onSock sock (fun sock => { sock with err := none })
      fun value conn held => .inl held
    split <;> exact cleared.ret _
  next chunk rest taken =>
    have popped := (permitted.onSock sock (fun sock => { sock with queue := rest })
      fun value conn held => .inl held).observe (.queued sock) trivial
    split
    · exact (popped.store _).ret _
    · split
      · exact (popped.store _).ret _
      · exact (popped.store _).goto trivial

theorem onHolding (permitted : s.Permitted) (id : Int) (sock : Nat) (reply : Reply)
    (op : SockOp) (carried : OpPermitted op) :
    (s.onHolding id sock reply op).Permitted := by
  cases op with
  | bind port => exact permitted.sockBind sock port reply
  | connect remote => exact permitted.sockConnectLocked id sock remote reply carried
  | send data => exact permitted.sockSendLocked id sock data
  | sendTo remote data => exact permitted.sockSendToLocked sock remote data carried
  | recv ptr capacity fromOut => exact permitted.sockRecvLocked id sock ptr capacity fromOut
  | error =>
      simp only [State.onHolding, State.sockErrorLocked]
      split
      · exact permitted.ret _
      · exact (permitted.onSock sock (fun sock => { sock with err := none })
          fun value conn held => .inl held).ret _
  | localPort =>
      simp only [State.onHolding, State.sockLocalPortLocked]
      split <;> exact permitted.ret _

theorem sockDelete (permitted : s.Permitted) (id : Int) : (s.sockDelete id).Permitted := by
  have deleted : { s with sockets := s.sockets.map (AList.erase id) }.Permitted :=
    { permitted with }
  simp only [State.sockDelete]
  split
  · exact deleted.ret _
  · exact deleted.goto trivial

theorem markClosed (permitted : s.Permitted) (sock : Nat) : (s.markClosed sock).Permitted :=
  permitted.onSock sock _ fun _ _ held => .inl held

/-! ## The steps -/

theorem dialFailed (permitted : s.Permitted) (ref : Nat) (err : NetError) :
    (s.dialFailed ref err).Permitted := by
  rw [State.dialFailed]
  split
  · exact permitted.dialGoto ref _
  · exact (permitted.onSock _ (fun sock => { sock with err := some err })
      fun value conn held => .inl held).dialGoto ref _

theorem dialSucceeded (permitted : s.Permitted) {ref : Nat} (started : ref < s.dials.size)
    (port : Nat) : (s.dialSucceeded ref port).Permitted := by
  simp only [State.dialSucceeded]
  have dialed := permitted.allocConn
    ⟨(s.dials.get ref).sock, .tcp, (s.dials.get ref).remote, port, true⟩
    fun _ => permitted.dials ref started
  split
  · exact dialed.dialGoto ref _
  · refine dialGoto (observe (onSock dialed _ _ ?_) (.established _) trivial) ref _
    intro value conn held
    right
    cases held
    exact ⟨Nat.lt_succ_self _, by simp [State.allocConn]⟩

theorem push (permitted : s.Permitted) (sock : Nat) (packet : ReceivedPacket) :
    (s.push sock packet).Permitted := by
  rw [State.push]
  split
  · exact permitted
  · refine observe (onSock permitted _ _ ?_) (.queued _) trivial
    exact fun value conn held => .inl held

theorem readErrorLocked (permitted : s.Permitted) (sock : Nat) (err : NetError) :
    (s.readErrorLocked sock err).Permitted := by
  rw [State.readErrorLocked]
  split
  · exact permitted
  · exact permitted.onSock _ _ fun value conn held => .inl held

theorem readerEnqueue (permitted : s.Permitted) (ref flags : Nat) (drop : Bool)
    (next : ReaderPc) : (s.readerEnqueue ref flags drop next).Permitted := by
  have enqueued := permitted.enqueue
    (.io (s.socks.get (s.readers.get ref).sock).id flags) drop
  unfold State.readerEnqueue
  split
  next equal => exact (equal ▸ enqueued).readerGoto ref _
  next equal => exact (equal ▸ enqueued).readerGoto ref _

/-- Every step of every goroutine keeps the invariant. -/
theorem step {t : State} {action : Action} (permitted : s.Permitted)
    (stepped : s.step action = some t) : t.Permitted := by
  have carried {pc : GuestPc} (here : s.guest = pc) : s.GuestPermitted pc :=
    here ▸ permitted.guest
  cases moved_of_step stepped with
  | enter | leave => exact permitted.goto trivial
  | @dispatch event =>
      have observed := permitted.observe (.dispatched event) trivial
      exact { observed with guest := trivial }
  | compute => exact permitted.store _
  | call => exact permitted.entered (s.entered_call _)
  | openSocket => exact permitted.sockOpen _ _
  | lookup here => exact permitted.lookupSock _ _ (carried here)
  | delete => exact permitted.sockDelete _
  | holding here => exact permitted.onHolding _ _ _ _ (carried here)
  | listen here => exact permitted.sockSendListen _ _ _ _ (carried here)
  | @writeUdp conn remote data _ here =>
      exact (permitted.observe (.udpWrite conn remote data) (carried here)).ret _
  | @writeTcp conn data _ here =>
      exact (permitted.observe (.tcpWrite conn data) (carried here)).ret _
  | @sent event _ reply _ _ enqueued =>
      exact (enqueued ▸ permitted.enqueue event reply.drop).ret _
  | @stuck event _ reply _ _ enqueued =>
      exact (enqueued ▸ permitted.enqueue event reply.drop).goto trivial
  | released | closed => exact permitted.ret _
  | close => exact (permitted.markClosed _).goto trivial
  | closeConn => exact (permitted.closeConn _).goto trivial
  | dialFailed => exact permitted.dialFailed _ _
  | dialSucceeded started => exact permitted.dialSucceeded started _
  | dialClose => exact (permitted.closeConn _).dialGoto _ _
  | @dialEnqueue ref reply flags _ _ _ _ _ enqueued =>
      exact (enqueued ▸ permitted.enqueue (.io (s.socks.get (s.dials.get ref).sock).id flags)
        reply.drop).dialGoto _ _
  | dialSpawn => exact (permitted.startReader _ _).dialGoto _ _
  | dialWoken => exact permitted.dialGoto _ _
  | read | source | readerWoken => exact permitted.readerGoto _ _
  | push => exact (permitted.push _ _).readerGoto _ _
  | pushEnqueue | errorEnqueue => exact permitted.readerEnqueue _ _ _ _
  | readError => exact (permitted.readErrorLocked _ _).readerGoto _ _
  | shutdown => exact permitted.startShutdown none
  | timers | sockets | finish | visited => exact { permitted with }
  | visit => exact { permitted.markClosed _ with }
  | sweep => exact { permitted.closeConn _ with }

end Permitted

end State

/-- The invariant holds in every run. -/
theorem permitted_of_reachable {s : State} (reachable : machine.Reachable s) : s.Permitted :=
  reachable.invariant (fun _ _ _ held stepped => held.step stepped) State.Permitted.initial

/-- Egress safety: in every state of every run, each datagram that was written
and each dial that was made went to a public DNS server, and each TCP write went
to a connection that had been dialed to one, whatever address the guest passed
along with the data. -/
theorem egress_safety (s : State) (reachable : machine.Reachable s) :
    (∀ conn dest data, Obs.udpWrite conn dest data ∈ s.trace →
      egressAllowed dest = true ∧ PublicServer dest) ∧
    (∀ dest, Obs.tcpDial dest ∈ s.trace → egressAllowed dest = true ∧ PublicServer dest) ∧
    (∀ conn data, Obs.tcpWrite conn data ∈ s.trace →
      conn < s.conns.size ∧ (s.conns.get conn).typ = .tcp ∧
        Obs.tcpDial (s.conns.get conn).peer ∈ s.trace ∧
        egressAllowed (s.conns.get conn).peer = true ∧
        PublicServer (s.conns.get conn).peer) := by
  have permitted := permitted_of_reachable reachable
  refine ⟨?_, ?_, ?_⟩
  · intro conn dest data member
    have allowed : egressAllowed dest = true := permitted.trace _ member
    exact ⟨allowed, (egressAllowed_eq_true dest).mp allowed⟩
  · intro dest member
    have allowed : egressAllowed dest = true := permitted.trace _ member
    exact ⟨allowed, (egressAllowed_eq_true dest).mp allowed⟩
  · intro conn data member
    have isTcp : s.IsTcp conn := permitted.trace _ member
    have dialed := permitted.conns conn isTcp.1 isTcp.2
    exact ⟨isTcp.1, isTcp.2, dialed.2, dialed.1, (egressAllowed_eq_true _).mp dialed.1⟩

/-- A guest opens a UDP socket and sends one byte to 8.8.8.8 without binding it
first. -/
def sendOnce : List Action :=
  [.enter, .compute ⟨5, fun _ => 8⟩, .call (.sockOpen 4 1), .guest {},
   .call (.sockSendTo 1 0 4 53 4 1), .guest {}, .guest {}, .guest {}, .guest {}]

theorem egress_safety_sendOnce :
    ∃ s, machine.run machine.initial sendOnce = some s ∧
      Obs.udpWrite 0 ⟨.v4 (ip4 8 8 8 8), 53⟩ [8] ∈ s.trace ∧
      PublicServer ⟨.v4 (ip4 8 8 8 8), 53⟩ := by
  obtain ⟨s, ran, wrote⟩ : ∃ s, machine.run machine.initial sendOnce = some s ∧
      Obs.udpWrite 0 ⟨.v4 (ip4 8 8 8 8), 53⟩ [8] ∈ s.trace :=
    ⟨_, rfl, List.mem_cons_self⟩
  exact ⟨s, ran, wrote, ((egress_safety s (Machine.reaches_of_run ran)).1 0 _ [8] wrote).2⟩

end UnboundWasm.Host.Sockets
