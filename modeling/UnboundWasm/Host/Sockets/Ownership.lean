import UnboundWasm.Host.Sockets.LedgerInvariant
import UnboundWasm.Host.Sockets.Machine

/-!
# The socket machine keeps the ledger

Every step of the socket machine that avoids the three slips of the ledger is
matched by ledger moves.  The slips are conditions on the guest's next section,
decided by the state before the step.
-/

namespace UnboundWasm.Host.Sockets

open UnboundWasm.Lib

/-- What a guest call answers for at its program counter. -/
def GuestPc.role : GuestPc → Role
  | .holding _ sock _ => .holding sock
  | .listen sock _ _ => .listening sock
  | .close sock => .leaving sock
  | .closeConns conns => .closing conns
  | .outside | .running | .openSocket _ _ | .lookup _ _ | .writeUdp _ _ _ | .writeTcp _ _
  | .enqueue _ _ | .blocked _ | .delete _ => .free

/-- What a dial goroutine answers for at its program counter. -/
def DialPc.flight : DialPc → Flight
  | .dialing => .inFlight
  | .closing conn => .closing conn
  | .blocked next => next.flight
  | .enqueue _ _ | .spawn _ | .done => .landed

def HostSocket.owner (sock : HostSocket) : Owner :=
  ⟨sock.id, sock.typ, sock.udp, sock.tcp, sock.closed⟩

def Conn.link (conn : Conn) : Link := ⟨conn.owner, conn.isOpen⟩

def Dial.attempt (dial : Dial) : Attempt := ⟨dial.sock, dial.pc.flight⟩

namespace State

/-- The ledger of a state. -/
def ledger (s : State) : Ledger where
  entries := s.sockets
  socks := s.socks.map HostSocket.owner
  links := s.conns.map Conn.link
  attempts := s.dials.map Dial.attempt
  role := s.guest.role
  shutdown := s.shutdown

/-- No dial for the socket is in flight. -/
def NoDial (s : State) (sock : Nat) : Prop :=
  ∀ ref < s.dials.size, (s.dials.get ref).sock = sock → (s.dials.get ref).pc.flight ≠ .inFlight

instance (s : State) (sock : Nat) : Decidable (s.NoDial sock) :=
  inferInstanceAs (Decidable (∀ ref < s.dials.size, _))

/-- The guest's next section makes none of the slips: `sock_open` takes an id
that is not in use, `sock_connect` does not dial a socket with a dial in flight,
and `sock_send_to` does not open a UDP socket for a host socket closed since its
first section. -/
def regularSection (s : State) : GuestPc → Bool
  | .openSocket _ _ => (s.socket s.nextSocket).isNone
  | .holding _ sock (.connect _) => (s.socks.get sock).closed || s.NoDial sock
  | .listen sock _ _ => !(s.socks.get sock).closed
  | _ => true

/-- A step that makes none of the slips. -/
def Regular (s : State) : Action → Prop
  | .guest _ => s.regularSection s.guest = true
  | _ => True

instance (s : State) : (action : Action) → Decidable (s.Regular action)
  | .guest _ => inferInstanceAs (Decidable (_ = true))
  | .enter | .dispatch | .leave | .compute _ | .call _ | .dial _ _ | .reader _ _ _
  | .shutdown _ => inferInstanceAs (Decidable True)

/-- `sock_open` would add an entry. -/
def admits (s : State) : Bool :=
  match s.sockets with
  | none => false
  | some entries => entries.keys.length < maxSocketsPerInstance

/-- The step runs the critical section of `sock_open` and adds an entry. -/
def opens (s : State) : Action → Bool
  | .guest _ =>
      match s.guest with
      | .openSocket _ _ => s.admits
      | _ => false
  | _ => false

/-- The socket that the step takes out of the map: that of the section of
`sock_close`. -/
def parting (s : State) : Action → Option Nat
  | .guest _ =>
      match s.guest with
      | .delete id => s.socket id
      | _ => none
  | _ => none

section Moves

variable {leaves : Ledger → Nat → Prop} {s t : State}

/-- Ledger moves from one state to another. -/
def Moves (leaves : Ledger → Nat → Prop) (s t : State) : Prop :=
  Relation.ReflTransGen (Ledger.Move leaves) s.ledger t.ledger

namespace Moves

theorem refl (s : State) : Moves leaves s s := Relation.ReflTransGen.refl

theorem trans {u : State} (first : Moves leaves s t) (second : Moves leaves t u) :
    Moves leaves s u :=
  Relation.ReflTransGen.trans first second

theorem of_eq (same : t.ledger = s.ledger) : Moves leaves s t := by
  unfold Moves
  rw [same]

theorem single {L : Ledger} (move : Ledger.Move leaves s.ledger L) (after : t.ledger = L) :
    Moves leaves s t := by
  unfold Moves
  rw [after]
  exact .single move

end Moves

theorem ledger_goto (pc : GuestPc) :
    (s.goto pc).ledger = { s.ledger with role := pc.role } := rfl

theorem ledger_shutdown {L : Ledger} (viewed : s.ledger = L) (pc : ShutdownPc) :
    State.ledger { s with shutdown := pc } = { L with shutdown := pc } := by
  rw [← viewed]
  rfl

theorem Moves.goto (moves : Moves leaves s t) (quiet : t.guest.role.Quiet) {pc : GuestPc}
    (still : pc.role.Quiet) (ok : pc.role.Ok t.ledger.socks) : Moves leaves s (t.goto pc) :=
  moves.trans (.single (.turn pc.role quiet still ok) rfl)

theorem Moves.ret (moves : Moves leaves s t) (quiet : t.guest.role.Quiet) (result : Int) :
    Moves leaves s (t.ret result) :=
  moves.trans (.single (.turn .free quiet trivial trivial) rfl)

/-- An update of fields the ledger does not record. -/
theorem ledger_onSock {sock : Nat} {update : HostSocket → HostSocket}
    (untouched : ∀ value, (update value).owner = value.owner) :
    (s.onSock sock update).ledger = s.ledger := by
  simp only [ledger, onSock]
  rw [Heap.map_modify_frame _ _ _ _ (untouched _)]

/-- Nothing the ledger records changes, except that a full event channel may
start the shutdown. -/
structure Passive (s t : State) : Prop where
  sockets : t.sockets = s.sockets
  socks : t.socks.map HostSocket.owner = s.socks.map HostSocket.owner
  conns : t.conns = s.conns
  dials : t.dials = s.dials
  guest : t.guest = s.guest
  shutdown : t.shutdown = s.shutdown ∨ s.shutdown = .idle ∧ t.shutdown = .timers

theorem passive_startShutdown (cause : Option Cause) : Passive s (s.startShutdown cause) := by
  unfold startShutdown
  split
  next idle => exact ⟨rfl, rfl, rfl, rfl, rfl, .inr ⟨idle, rfl⟩⟩
  next => exact ⟨rfl, rfl, rfl, rfl, rfl, .inl rfl⟩

theorem passive_enqueue {event : HostEvent} {drop full : Bool}
    (enqueued : s.enqueue event drop = (t, full)) : Passive s t := by
  unfold enqueue at enqueued
  split at enqueued
  · cases enqueued
    exact ⟨rfl, rfl, rfl, rfl, rfl, .inl rfl⟩
  · split at enqueued
    · cases enqueued
      exact ⟨rfl, rfl, rfl, rfl, rfl, .inl rfl⟩
    · cases enqueued
      exact { passive_startShutdown (s := s.observe (.dropped event)) _ with }

theorem Passive.moves (passive : Passive s t) : Moves leaves s t := by
  have viewed : t.ledger = { s.ledger with shutdown := t.shutdown } := by
    simp only [ledger, passive.sockets, passive.socks, passive.conns, passive.dials,
      passive.guest]
  rcases passive.shutdown with same | ⟨idle, timers⟩
  · exact .of_eq (by rw [viewed, same]; rfl)
  · exact .single (.beginShutdown idle) (by rw [viewed, timers])

theorem Moves.startDial (moves : Moves leaves s t) (quiet : t.guest.role.Quiet) {dial : Dial}
    (dialing : dial.pc = .dialing) (allocated : dial.sock < t.socks.size)
    (unclosed : (t.socks.get dial.sock).closed = false) (typ : (t.socks.get dial.sock).typ = .tcp)
    (tcp : (t.socks.get dial.sock).tcp = none) (single : t.NoDial dial.sock) :
    Moves leaves s (t.startDial dial) := by
  refine moves.trans (.single (.dial dial.sock quiet allocated unclosed typ tcp single) ?_)
  simp only [State.startDial, observe, ledger, Heap.map_alloc, Dial.attempt, dialing, DialPc.flight]

theorem ledger_dialGoto (ref : Nat) (pc : DialPc) :
    (s.dialGoto ref pc).ledger = { s.ledger with
      attempts := s.ledger.attempts.modify ref fun attempt =>
        { attempt with flight := pc.flight } } := by
  simp only [dialGoto, ledger, Ledger.mk.injEq, true_and, and_true]
  exact Heap.map_modify _ _ _ _ fun _ => rfl

/-- Moving a dial on without a change in what it answers for. -/
theorem Moves.dialGoto (moves : Moves leaves s t) {ref : Nat} {pc : DialPc}
    (same : pc.flight = (t.dials.get ref).pc.flight) : Moves leaves s (t.dialGoto ref pc) := by
  refine moves.trans (.of_eq ?_)
  simp only [State.dialGoto, ledger]
  rw [Heap.map_modify_frame]
  simp only [Dial.attempt, same]

theorem ledger_allocConn (conn : Conn) :
    (s.allocConn conn).ledger =
      { s.ledger with links := s.ledger.links.alloc conn.link } := by
  simp only [allocConn, ledger, Heap.map_alloc]

theorem ledger_closeConn (conn : Nat) :
    (s.closeConn conn).ledger = { s.ledger with
      links := s.ledger.links.modify conn fun link => { link with isOpen := false } } := by
  simp only [closeConn, ledger, Ledger.mk.injEq, true_and, and_true]
  exact Heap.map_modify _ _ _ _ fun _ => rfl

theorem ledger_markClosed (sock : Nat) :
    (s.markClosed sock).ledger = { s.ledger with
      socks := s.ledger.socks.modify sock fun owner => { owner with closed := true } } := by
  simp only [markClosed, onSock, ledger, Ledger.mk.injEq, true_and, and_true]
  exact Heap.map_modify _ _ _ _ fun _ => rfl

/-- `listenUDPLocked` on an open UDP socket. -/
theorem Moves.listen (moves : Moves leaves s t) (quiet : t.guest.role.Quiet) {sock : Nat}
    (allocated : sock < t.socks.size) (unclosed : (t.socks.get sock).closed = false)
    (typ : (t.socks.get sock).typ = .udp) {reply : Reply} {after : State} {err : Option NetError}
    (listened : t.listenUDPLocked sock reply = (after, err)) :
    Moves leaves s after ∧ after.guest.role.Quiet := by
  unfold listenUDPLocked at listened
  split at listened
  next =>
    cases listened
    exact ⟨moves, quiet⟩
  next =>
    cases listened
    exact ⟨moves, quiet⟩
  next udp _ =>
    cases listened
    refine ⟨moves.trans (.single (.listen sock quiet allocated unclosed typ udp) ?_), quiet⟩
    simp only [startReader, onSock, allocConn, ledger, Heap.map_alloc, Ledger.mk.injEq, true_and,
      and_true, Conn.link]
    exact Heap.map_modify _ _ _ _ fun _ => rfl

theorem moves_sockBind (quiet : s.guest.role.Quiet) {sock : Nat}
    (allocated : sock < s.socks.size) (port : Nat) (reply : Reply) :
    Moves leaves s (s.sockBind sock port reply) := by
  simp only [sockBind]
  split
  · exact (Moves.refl s).ret quiet _
  next unclosed =>
    split
    · exact (Moves.refl s).ret quiet _
    · have bound : Moves leaves s (s.onSock sock fun sock => { sock with bindPort := port }) :=
        .of_eq (ledger_onSock fun _ => rfl)
      split
      · exact bound.ret quiet _
      next typ =>
        split
        all_goals
          next listened =>
            obtain ⟨moves, still⟩ := bound.listen quiet allocated
              (by simpa [onSock] using unclosed) (by simpa [onSock] using typ) listened
            exact moves.ret still _

theorem moves_sockConnectLocked (quiet : s.guest.role.Quiet) {sock : Nat}
    (allocated : sock < s.socks.size)
    (single : (s.socks.get sock).closed = false → s.NoDial sock) (id : Int)
    (remote : AddrPort) (reply : Reply) :
    Moves leaves s (s.sockConnectLocked id sock remote reply) := by
  simp only [sockConnectLocked]
  split
  · exact (Moves.refl s).ret quiet _
  next unclosed =>
    have connected : Moves leaves s (s.onSock sock fun sock => { sock with remote := remote }) :=
      .of_eq (ledger_onSock fun _ => rfl)
    split
    next typ =>
      split
      all_goals
        next listened =>
          obtain ⟨moves, still⟩ := connected.listen quiet allocated
            (by simpa [onSock] using unclosed) (by simpa [onSock] using typ) listened
          first
          | exact moves.ret still _
          | exact moves.goto still trivial trivial
    next typ =>
      split
      · exact connected.ret quiet _
      next tcp =>
        refine (connected.startDial quiet ?_ allocated ?_ ?_ ?_ ?_).ret quiet _
        · rfl
        · simpa [onSock] using unclosed
        · simpa [onSock] using typ
        · simpa [onSock] using tcp
        · exact single (by simpa using unclosed)

theorem moves_entered (quiet : s.guest.role.Quiet) (entered : Entered s t) :
    Moves leaves s t := by
  cases entered with
  | ret result => exact (Moves.refl s).ret quiet result
  | openSocket | lookup | delete => exact (Moves.refl s).goto quiet trivial trivial

theorem moves_sockSendLocked (quiet : s.guest.role.Quiet) (id : Int) (sock : Nat)
    (data : Bytes) : Moves leaves s (s.sockSendLocked id sock data) := by
  simp only [sockSendLocked]
  split
  · exact moves_entered quiet (s.entered_sockSendTo id _ _ data)
  · exact (Moves.refl s).ret quiet _

theorem moves_sockSendToLocked (quiet : s.guest.role.Quiet) {sock : Nat}
    (allocated : sock < s.socks.size) (remote : AddrPort) (data : Bytes) :
    Moves leaves s (s.sockSendToLocked sock remote data) := by
  simp only [sockSendToLocked]
  split
  · exact (Moves.refl s).ret quiet _
  · split
    next typ _ => exact (Moves.refl s).goto quiet trivial ⟨allocated, typ⟩
    · exact (Moves.refl s).goto quiet trivial trivial
    · exact (Moves.refl s).ret quiet _
    · exact (Moves.refl s).goto quiet trivial trivial

theorem moves_sockSendListen (quiet : s.guest.role.Quiet) {sock : Nat}
    (allocated : sock < s.socks.size) (unclosed : (s.socks.get sock).closed = false)
    (typ : (s.socks.get sock).typ = .udp) (remote : AddrPort) (data : Bytes) (reply : Reply) :
    Moves leaves s (s.sockSendListen sock remote data reply) := by
  unfold sockSendListen
  split
  next listened =>
    obtain ⟨moves, still⟩ := (Moves.refl s).listen quiet allocated unclosed typ listened
    exact moves.ret still _
  next listened =>
    obtain ⟨moves, still⟩ := (Moves.refl s).listen quiet allocated unclosed typ listened
    split
    · exact moves.ret still _
    · exact moves.goto still trivial trivial

theorem moves_sockRecvLocked (quiet : s.guest.role.Quiet) (id : Int)
    (sock ptr capacity : Nat) (fromOut : Option (Nat × Nat)) :
    Moves leaves s (s.sockRecvLocked id sock ptr capacity fromOut) := by
  simp only [sockRecvLocked]
  split
  · have cleared : Moves leaves s (s.onSock sock fun sock => { sock with err := none }) :=
      .of_eq (ledger_onSock fun _ => rfl)
    split
    · exact cleared.ret quiet _
    · exact cleared.ret quiet _
  next rest _ =>
    have popped : Moves leaves s (s.onSock sock fun sock => { sock with queue := rest }) :=
      .of_eq (ledger_onSock fun _ => rfl)
    have stored : ∀ memory, Moves leaves s (((s.onSock sock fun sock =>
        { sock with queue := rest }).observe (.queued sock)).store memory) :=
      fun _ => popped.trans (.of_eq rfl)
    split
    · exact (stored _).ret quiet _
    · split
      · exact (stored _).ret quiet _
      · exact (stored _).goto quiet trivial trivial

theorem moves_sockErrorLocked (quiet : s.guest.role.Quiet) (sock : Nat) :
    Moves leaves s (s.sockErrorLocked sock) := by
  unfold sockErrorLocked
  split
  · exact (Moves.refl s).ret quiet _
  · have cleared : Moves leaves s (s.onSock sock fun sock => { sock with err := none }) :=
      .of_eq (ledger_onSock fun _ => rfl)
    exact cleared.ret quiet _

theorem moves_sockLocalPortLocked (quiet : s.guest.role.Quiet) (sock : Nat) :
    Moves leaves s (s.sockLocalPortLocked sock) := by
  simp only [sockLocalPortLocked]
  split <;> exact (Moves.refl s).ret quiet _

theorem moves_onHolding (quiet : s.guest.role.Quiet) {sock : Nat}
    (allocated : sock < s.socks.size) (id : Int) (op : SockOp)
    (regular : s.regularSection (.holding id sock op) = true) (reply : Reply) :
    Moves leaves s (s.onHolding id sock reply op) := by
  cases op with
  | bind port => exact moves_sockBind quiet allocated port reply
  | connect remote =>
      have single : (s.socks.get sock).closed = false → s.NoDial sock := by
        intro unclosed
        simpa [regularSection, unclosed] using regular
      exact moves_sockConnectLocked quiet allocated single id remote reply
  | send data => exact moves_sockSendLocked quiet id sock data
  | sendTo remote data => exact moves_sockSendToLocked quiet allocated remote data
  | recv ptr capacity fromOut => exact moves_sockRecvLocked quiet id sock ptr capacity fromOut
  | error => exact moves_sockErrorLocked quiet sock
  | localPort => exact moves_sockLocalPortLocked quiet sock

theorem moves_sockOpen (quiet : s.guest.role.Quiet)
    (unlocked : s.shutdown.holdsSocketsMu = false) (unused : s.socket s.nextSocket = none)
    (af : Family) (typ : SockType) :
    Moves leaves s (s.sockOpen af typ) := by
  unfold sockOpen
  split
  · exact (Moves.refl s).ret quiet _
  next entries registered =>
    split
    · exact (Moves.refl s).ret quiet _
    next few =>
      have opened : Moves leaves s { s with
          nextSocket := toInt32 (s.nextSocket + 1)
          sockets := some (entries.insert s.nextSocket s.socks.size)
          socks := s.socks.alloc (.new s.nextSocket af typ) } := by
        refine .single (.openSocket entries s.nextSocket typ quiet unlocked registered
          (by simpa using few) unused) ?_
        simp only [ledger, Heap.map_alloc, Heap.size_map]
        rfl
      exact opened.ret quiet _

theorem moves_lookupSock (owned : s.ledger.Owned) (quiet : s.guest.role.Quiet) (id : Int)
    (op : SockOp) : Moves leaves s (s.lookupSock id op) := by
  unfold lookupSock
  split
  · exact (Moves.refl s).ret quiet _
  next sock found => exact (Moves.refl s).goto quiet trivial (owned.entry id sock found).1

theorem moves_sockDelete (quiet : s.guest.role.Quiet)
    (unlocked : s.shutdown.holdsSocketsMu = false) (id : Int)
    (parting : ∀ sock, s.socket id = some sock → leaves s.ledger sock) :
    Moves leaves s (s.sockDelete id) := by
  simp only [sockDelete]
  split
  next absent =>
    have same : s.sockets.map (AList.erase id) = s.sockets := by
      cases registered : s.sockets with
      | none => rfl
      | some entries =>
          have missing : id ∉ entries := by
            simpa [socket, registered, AList.lookup_eq_none] using absent
          exact congrArg some (AList.ext (List.kerase_of_notMem_keys missing))
    rw [same]
    exact (Moves.refl s).ret quiet _
  next sock found =>
    obtain ⟨entries, registered, -⟩ := Option.bind_eq_some_iff.mp found
    refine .single (.erase entries id sock quiet unlocked registered found
      (parting sock found)) ?_
    simp [ledger, goto, registered, GuestPc.role]

theorem moves_dialFailed {ref : Nat} (allocated : ref < s.dials.size)
    (dialing : (s.dials.get ref).pc = .dialing) (err : NetError) :
    Moves leaves s (s.dialFailed ref err) := by
  have flying : (s.ledger.attempts.get ref).flight = .inFlight := by
    simp [ledger, Dial.attempt, dialing, DialPc.flight]
  simp only [dialFailed]
  split
  · exact .single (.miss ref allocated flying) (ledger_dialGoto ref .done)
  · have noted : Moves leaves s (s.onSock (s.dials.get ref).sock fun sock =>
        { sock with err := some err }) :=
      .of_eq (ledger_onSock fun _ => rfl)
    exact noted.trans (.single (.miss ref allocated flying) (ledger_dialGoto ref _))

theorem moves_dialSucceeded {ref : Nat} (allocated : ref < s.dials.size)
    (dialing : (s.dials.get ref).pc = .dialing) (port : Nat) :
    Moves leaves s (s.dialSucceeded ref port) := by
  have flying : (s.ledger.attempts.get ref).flight = .inFlight := by
    simp [ledger, Dial.attempt, dialing, DialPc.flight]
  simp only [dialSucceeded]
  split
  next closed =>
    refine .single (.landUnwanted ref allocated flying closed) ?_
    rw [ledger_dialGoto, ledger_allocConn]
    rfl
  next unclosed =>
    have wanted : (s.ledger.socks.get (s.ledger.attempts.get ref).sock).closed = false := by
      simpa [ledger, HostSocket.owner, Dial.attempt] using unclosed
    refine .single (.land ref allocated flying wanted) ?_
    rw [ledger_dialGoto]
    simp only [observe, onSock, allocConn, ledger, Heap.map_alloc, Ledger.mk.injEq, true_and,
      and_true]
    exact ⟨Heap.map_modify _ _ _ _ fun _ => rfl, rfl, rfl⟩

theorem passive_readerEnqueue (ref flags : Nat) (drop : Bool) (next : ReaderPc) :
    Passive s (s.readerEnqueue ref flags drop next) := by
  unfold readerEnqueue
  split
  all_goals
    next enqueued => exact { passive_enqueue enqueued with }

theorem passive_readerGoto (ref : Nat) (pc : ReaderPc) : Passive s (s.readerGoto ref pc) :=
  ⟨rfl, rfl, rfl, rfl, rfl, .inl rfl⟩

/-- Readers change nothing the ledger records. -/
theorem passive_readerStep {ref : Nat} {input : Input} {drop : Bool}
    (stepped : s.readerStep ref input drop = some t) : Passive s t := by
  cases moved_of_readerStep stepped with
  | read | source | readerWoken => exact passive_readerGoto _ _
  | pushEnqueue | errorEnqueue => exact passive_readerEnqueue _ _ _ _
  | push =>
      unfold push
      split
      · exact passive_readerGoto _ _
      · exact ⟨rfl, Heap.map_modify_frame _ _ _ _ rfl, rfl, rfl, rfl, .inl rfl⟩
  | readError =>
      unfold readErrorLocked
      split
      · exact passive_readerGoto _ _
      · exact ⟨rfl, Heap.map_modify_frame _ _ _ _ rfl, rfl, rfl, rfl, .inl rfl⟩

/-- Every regular step is matched by ledger moves. -/
theorem moves_step {action : Action} (owned : s.ledger.Owned) (regular : s.Regular action)
    (parting : ∀ sock, s.parting action = some sock → leaves s.ledger sock)
    (stepped : s.step action = some t) : Moves leaves s t := by
  have ok {pc : GuestPc} (here : s.guest = pc) : pc.role.Ok s.ledger.socks := here ▸ owned.role
  cases moved_of_step stepped with
  | enter here | leave here =>
      exact (Moves.refl s).goto (by rw [here]; trivial) trivial trivial
  | dispatch here =>
      refine Moves.goto (.of_eq rfl) (?_ : s.guest.role.Quiet) trivial trivial
      rw [here]
      trivial
  | compute => exact .of_eq rfl
  | call here => exact moves_entered (by rw [here]; trivial) (s.entered_call _)
  | openSocket here unlocked =>
      rw [Regular, here] at regular
      exact moves_sockOpen (by rw [here]; trivial) unlocked
        (by simpa [regularSection] using regular) _ _
  | lookup here => exact moves_lookupSock owned (by rw [here]; trivial) _ _
  | delete here unlocked =>
      simp only [State.parting, here] at parting
      exact moves_sockDelete (by rw [here]; trivial) unlocked _ parting
  | holding here =>
      rw [Regular, here] at regular
      exact moves_onHolding (by rw [here]; trivial) (ok here) _ _ regular _
  | listen here =>
      rw [Regular, here] at regular
      exact moves_sockSendListen (by rw [here]; trivial) (ok here).1
        (by simpa [regularSection] using regular) (ok here).2 _ _ _
  | writeUdp here | writeTcp here =>
      exact Moves.ret (t := s.observe _) (.of_eq rfl) (by rw [observe, here]; trivial) _
  | sent here enqueued =>
      have passive := passive_enqueue enqueued
      exact passive.moves.ret (by rw [passive.guest, here]; trivial) _
  | stuck here enqueued =>
      have passive := passive_enqueue enqueued
      exact passive.moves.goto (by rw [passive.guest, here]; trivial) trivial trivial
  | released here | closed here => exact (Moves.refl s).ret (by rw [here]; trivial) _
  | @close sock _ here =>
      have leaving : s.ledger.role = .leaving sock := by rw [ledger, here]; rfl
      apply Moves.single (.retire sock leaving)
      rw [ledger_goto, ledger_markClosed]
      rfl
  | @closeConn conn conns _ here =>
      have closing : s.ledger.role = .closing (conn :: conns) := by rw [ledger, here]; rfl
      apply Moves.single (.closeOne conn conns closing)
      rw [ledger_goto, ledger_closeConn]
      rfl
  | dialFailed started here => exact moves_dialFailed started here _
  | dialSucceeded started here => exact moves_dialSucceeded started here _
  | @dialClose ref _ conn started here =>
      have flight : (s.ledger.attempts.get ref).flight = .closing conn := by
        simp [ledger, Dial.attempt, here, DialPc.flight]
      apply Moves.single (.discard ref conn started flight)
      rw [ledger_dialGoto, ledger_closeConn]
      rfl
  | @dialEnqueue _ _ _ conn _ full _ here enqueued =>
      have passive := passive_enqueue enqueued
      apply passive.moves.dialGoto
      rw [passive.dials, here]
      cases full <;> cases conn <;> rfl
  | @dialSpawn ref _ conn _ here =>
      have started : Moves leaves s (s.startReader (s.dials.get ref).sock conn) := .of_eq rfl
      exact started.dialGoto (by simp [startReader, here, DialPc.flight])
  | dialWoken _ here => exact (Moves.refl s).dialGoto (by simp [here, DialPc.flight])
  | read | source | push | pushEnqueue | readError | errorEnqueue | readerWoken =>
      exact (passive_readerStep stepped).moves
  | shutdown => exact (passive_startShutdown none).moves
  | timers here => exact .single (.stopTimers here) rfl
  | sockets here =>
      apply Moves.single (.takeEntries s.entrySocks here _) rfl
      exact fun sock live => Ledger.mem_entrySocks.mpr live
  | finish here => exact .single (.finish here) rfl
  | @visit pick sock todo here picked =>
      exact .single (.visit todo pick sock here picked) (ledger_shutdown (ledger_markClosed sock) _)
  | visited here => exact .single (.visited _ here) rfl
  | @sweep _ conn conns todo here =>
      exact .single (.sweep conn conns todo here) (ledger_shutdown (ledger_closeConn conn) _)

end Moves

theorem owned_initial : initial.ledger.Owned where
  entry := by simp [initial, ledger, Ledger.lookup]
  live := by simp [initial, ledger]
  held := by simp [initial, ledger]
  pending := by simp [initial, ledger, Ledger.Pending, GuestPc.role, ShutdownPc.conns, Heap.Any]
  udp := by simp [initial, ledger, Heap.empty, HostSocket.new, HostSocket.owner]
  tcp := by simp [initial, ledger, Heap.empty, HostSocket.new, HostSocket.owner]
  owner := by simp [initial, ledger]
  attempt := by simp [initial, ledger]
  role := trivial
  shutdown := trivial
  oneLink := by simp [initial, ledger]
  oneFlight := by simp [initial, ledger]
  linkOrFlight := by simp [initial, ledger]

end State

/-- What ledger moves keep holds at the end of every regular run, with what holds of
the sockets it takes out. -/
theorem ledger_of_regular {leaves : Ledger → Nat → Prop} (holds : Ledger → Prop)
    (kept : ∀ L M, L.Owned → Ledger.Move leaves L M → holds L → holds M) {s : State}
    (reaches : machine.Reaches
      (fun s action => s.Regular action ∧ ∀ sock ∈ s.parting action, leaves s.ledger sock)
      machine.initial s)
    (base : holds State.initial.ledger) : s.ledger.Owned ∧ holds s.ledger := by
  refine reaches.simulation State.ledger (fun L => L.Owned ∧ holds L)
    (fun L M held move => ⟨move.owned held.1, kept L M held.1 move held.2⟩) ?_
    ⟨State.owned_initial, base⟩
  intro before action after held meets stepped
  exact State.moves_step held.1 meets.1 meets.2 stepped

/-- Regular runs keep every operating-system socket owned. -/
theorem owned_of_regular {s : State}
    (reaches : machine.Reaches State.Regular machine.initial s) : s.ledger.Owned := by
  refine reaches.simulation State.ledger Ledger.Owned
    (fun L M owned (move : L.Move (fun _ _ => True) M) => move.owned owned) ?_ State.owned_initial
  intro before action after owned regular stepped
  exact State.moves_step owned regular (fun _ _ => trivial) stepped

end UnboundWasm.Host.Sockets
