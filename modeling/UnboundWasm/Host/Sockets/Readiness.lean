import UnboundWasm.Host.Sockets.Machine

/-!
# Readiness and the event channel

The host announces readiness by events, once for every change: a packet that is
queued, a connection that is established, a packet that is left after a
`sock_recv`.  Between a change and its event another goroutine may run, so a
change is accounted for when its event is in the channel or somebody is about to
put it there, until the event is dispatched.
-/

namespace UnboundWasm.Host.Sockets

open UnboundWasm.Lib

/-- The two conditions an event may wait for. -/
inductive Readiness where
  | read | write
  deriving DecidableEq, Repr

/-- The flag that announces a condition. -/
def Readiness.flag : Readiness → Nat
  | .read => ioRead
  | .write => ioWrite

/-- The event announces the condition for the socket. -/
def HostEvent.carries (sid : Int) (readiness : Readiness) : HostEvent → Bool
  | .io id flags => id = sid && flags &&& readiness.flag ≠ 0
  | .timer _ => false

/-- What an observation means for a condition of a socket: that it has changed, or
that the change was announced to the guest. -/
def Obs.edge (sock : Nat) (sid : Int) (readiness : Readiness) : Obs → Option Bool
  | .queued other => if other = sock ∧ readiness = .read then some true else none
  | .established other => if other = sock ∧ readiness = .write then some true else none
  | .dispatched event => if event.carries sid readiness then some false else none
  | .udpWrite _ _ _ | .tcpDial _ | .tcpWrite _ _ | .enqueued _ | .dropped _ => none

/-- No event that announces the condition was dispatched since it last changed. -/
def undelivered (trace : List Obs) (sock : Nat) (sid : Int) (readiness : Readiness) : Bool :=
  (trace.findSome? (Obs.edge sock sid readiness)).getD true

/-- The event a goroutine is about to enqueue. -/
def ReaderPc.outbox (sid : Int) : ReaderPc → Option HostEvent
  | .pushEnqueue _ => some (.io sid ioRead)
  | .errorEnqueue => some (.io sid ioErr)
  | .reading | .source _ _ | .push _ _ _ | .readError _ | .blocked _ | .done => none

def DialPc.outbox (sid : Int) : DialPc → Option HostEvent
  | .enqueue flags _ => some (.io sid flags)
  | .dialing | .closing _ | .spawn _ | .blocked _ | .done => none

def GuestPc.outbox : GuestPc → Option HostEvent
  | .enqueue event _ => some event
  | .outside | .running | .openSocket _ _ | .lookup _ _ | .holding _ _ _ | .listen _ _ _
  | .writeUdp _ _ _ | .writeTcp _ _ | .blocked _ | .delete _ | .close _ | .closeConns _ => none

/-- The part of a socket that readiness is about. -/
def HostSocket.edge (sock : HostSocket) : Int × List ReceivedPacket × Option Nat :=
  (sock.id, sock.queue, sock.tcp)

namespace State

/-- The condition is true of the socket. -/
def ready (s : State) (sock : Nat) : Readiness → Bool
  | .read => !(s.socks.get sock).queue.isEmpty
  | .write => (s.socks.get sock).tcp.isSome

/-- The id under which the socket is announced. -/
def sid (s : State) (sock : Nat) : Int := (s.socks.get sock).id

/-- The condition of the socket was announced, or will be without any further
activity on the network. -/
inductive Promised (s : State) (sock : Nat) (readiness : Readiness) : Prop where
  | closed (done : s.done = true)
  | queued {event : HostEvent} (member : event ∈ s.events)
      (carries : event.carries (s.sid sock) readiness = true)
  | reader {ref : Nat} {event : HostEvent} (started : ref < s.readers.size)
      (own : (s.readers.get ref).sock = sock)
      (outbox : (s.readers.get ref).pc.outbox (s.sid sock) = some event)
      (carries : event.carries (s.sid sock) readiness = true)
  | dial {ref : Nat} {event : HostEvent} (started : ref < s.dials.size)
      (own : (s.dials.get ref).sock = sock)
      (outbox : (s.dials.get ref).pc.outbox (s.sid sock) = some event)
      (carries : event.carries (s.sid sock) readiness = true)
  | guest {event : HostEvent} (outbox : s.guest.outbox = some event)
      (carries : event.carries (s.sid sock) readiness = true)

/-- The entries of the map, and the import that has looked one up, know the
sockets by their ids; a shutdown begins by closing `done`. -/
structure Coherent (s : State) : Prop where
  entry : ∀ id sock, s.socket id = some sock → sock < s.socks.size ∧ s.sid sock = id
  holding : ∀ id sock op, s.guest = .holding id sock op → sock < s.socks.size ∧ s.sid sock = id
  begun : s.shutdown ≠ .idle → s.done = true

/-- Every change of a condition is accounted for. -/
structure Accounted (s : State) : Prop where
  coherent : s.Coherent
  promised : ∀ sock < s.socks.size, ∀ readiness, s.ready sock readiness = true →
    undelivered s.trace sock (s.sid sock) readiness = true → s.Promised sock readiness

/-- What every part of a step does for readiness, the dispatch and the ends of an
export apart. The conditions in `debt` have changed and are still to be announced. -/
structure Owing (debt : Nat → Readiness → Prop) (s t : State) : Prop where
  size : s.socks.size ≤ t.socks.size
  ids : ∀ sock < s.socks.size, t.sid sock = s.sid sock
  coherent : s.Coherent → t.Coherent
  grows : ∀ event ∈ s.events, event ∈ t.events
  done : s.done = true → t.done = true
  outside : t.guest = .outside → s.guest = .outside
  keeps : ∀ sock < s.socks.size, ∀ readiness,
    s.Promised sock readiness → t.Promised sock readiness
  news : ∀ sock < t.socks.size, ∀ readiness, t.ready sock readiness = true →
    undelivered t.trace sock (t.sid sock) readiness = true →
    (sock < s.socks.size ∧ s.ready sock readiness = true ∧
      undelivered s.trace sock (s.sid sock) readiness = true) ∨
    t.Promised sock readiness ∨ debt sock readiness

/-- Whatever has changed is announced. -/
abbrev Advance : State → State → Prop := Owing fun _ _ => False

variable {s t u : State} {debt : Nat → Readiness → Prop}

theorem Advance.refl (s : State) : Advance s s where
  size := Nat.le_refl _
  ids := fun _ _ => rfl
  coherent := fun coherent => coherent
  grows := fun _ member => member
  done := fun done => done
  outside := fun outside => outside
  keeps := fun _ _ _ promised => promised
  news := fun _ inside _ ready due => .inl ⟨inside, ready, due⟩

theorem Owing.trans (first : Owing debt s t) (second : Advance t u) : Owing debt s u := by
  constructor
  case size => exact Nat.le_trans first.size second.size
  case ids =>
    intro sock inside
    exact (second.ids sock (Nat.lt_of_lt_of_le inside first.size)).trans (first.ids sock inside)
  case coherent => exact fun coherent => second.coherent (first.coherent coherent)
  case grows => exact fun event member => second.grows event (first.grows event member)
  case done => exact fun done => second.done (first.done done)
  case outside => exact fun outside => first.outside (second.outside outside)
  case keeps =>
    intro sock inside readiness promised
    exact second.keeps sock (Nat.lt_of_lt_of_le inside first.size) readiness
      (first.keeps sock inside readiness promised)
  case news =>
    intro sock inside readiness ready due
    rcases second.news sock inside readiness ready due with
      ⟨before, ready, due⟩ | promised | impossible
    · rcases first.news sock before readiness ready due with old | promised | owed
      · exact .inl old
      · exact .inr (.inl (second.keeps sock before readiness promised))
      · exact .inr (.inr owed)
    · exact .inr (.inl promised)
    · exact impossible.elim

/-- The debt is paid. -/
theorem Owing.settle (owing : Owing debt s t)
    (paid : ∀ sock readiness, debt sock readiness → t.ready sock readiness = true →
      t.Promised sock readiness) : Advance s t := by
  refine ⟨owing.size, owing.ids, owing.coherent, owing.grows, owing.done, owing.outside,
    owing.keeps, ?_⟩
  intro sock inside readiness ready due
  rcases owing.news sock inside readiness ready due with old | promised | owed
  · exact .inl old
  · exact .inr (.inl promised)
  · exact .inr (.inl (paid sock readiness owed ready))

theorem Owing.accounted (advance : Advance s t) (accounted : s.Accounted) : t.Accounted := by
  refine ⟨advance.coherent accounted.coherent, ?_⟩
  intro sock inside readiness ready due
  rcases advance.news sock inside readiness ready due with
    ⟨old, before, undelivered⟩ | promised | impossible
  · apply advance.keeps sock old readiness
    exact accounted.promised sock old readiness before undelivered
  · exact promised
  · exact impossible.elim

/-- The event reached the channel, or the instance is closed. -/
def Sent (s : State) (event : HostEvent) : Prop := s.done = true ∨ event ∈ s.events

/-- What somebody was about to put into the channel still is, or was sent. -/
structure Onward (s t : State) : Prop where
  done : s.done = true → t.done = true
  events : ∀ event ∈ s.events, event ∈ t.events
  readers : ∀ ref < s.readers.size, ∀ event,
    (s.readers.get ref).pc.outbox (s.sid (s.readers.get ref).sock) = some event →
    t.Sent event ∨ ref < t.readers.size ∧ t.readers.get ref = s.readers.get ref
  dials : ∀ ref < s.dials.size, ∀ event,
    (s.dials.get ref).pc.outbox (s.sid (s.dials.get ref).sock) = some event →
    t.Sent event ∨ ref < t.dials.size ∧ t.dials.get ref = s.dials.get ref
  guest : ∀ event, s.guest.outbox = some event → t.Sent event ∨ t.guest.outbox = some event

theorem Onward.refl (s : State) : Onward s s where
  done := fun done => done
  events := fun _ member => member
  readers := fun _ started _ _ => .inr ⟨started, rfl⟩
  dials := fun _ started _ _ => .inr ⟨started, rfl⟩
  guest := fun _ outbox => .inr outbox

variable {readiness : Readiness} {pc : GuestPc} {ref : Nat} {err : Option NetError}

theorem Sent.promised {event : HostEvent} {sock : Nat} (sent : s.Sent event)
    (carries : event.carries (s.sid sock) readiness = true) : s.Promised sock readiness := by
  rcases sent with done | member
  · exact .closed done
  · exact .queued member carries

theorem Promised.onward {sock : Nat} (promised : s.Promised sock readiness) (onward : Onward s t)
    (sid : t.sid sock = s.sid sock) : t.Promised sock readiness := by
  cases promised with
  | closed done => exact .closed (onward.done done)
  | queued member carries => exact .queued (onward.events _ member) (by rw [sid]; exact carries)
  | @reader ref event started own outbox carries =>
      rcases onward.readers ref started event (own ▸ outbox) with sent | ⟨still, same⟩
      · exact sent.promised (by rw [sid]; exact carries)
      · exact .reader still (by rw [same]; exact own) (by rw [same, sid]; exact outbox)
          (by rw [sid]; exact carries)
  | @dial ref event started own outbox carries =>
      rcases onward.dials ref started event (own ▸ outbox) with sent | ⟨still, same⟩
      · exact sent.promised (by rw [sid]; exact carries)
      · exact .dial still (by rw [same]; exact own) (by rw [same, sid]; exact outbox)
          (by rw [sid]; exact carries)
  | guest outbox carries =>
      rcases onward.guest _ outbox with sent | still
      · exact sent.promised (by rw [sid]; exact carries)
      · exact .guest still (by rw [sid]; exact carries)

/-! ## The parts a step is made of -/

/-- A change that readiness does not depend on. -/
structure Calm (s t : State) : Prop where
  edges : t.socks.map HostSocket.edge = s.socks.map HostSocket.edge
  entries : ∀ id sock, t.socket id = some sock → s.socket id = some sock
  guest : t.guest = s.guest
  readers : ∀ ref < s.readers.size, ref < t.readers.size ∧ t.readers.get ref = s.readers.get ref
  dials : ∀ ref < s.dials.size, ref < t.dials.size ∧ t.dials.get ref = s.dials.get ref
  events : ∀ event ∈ s.events, event ∈ t.events
  done : s.done = true → t.done = true
  begun : (s.shutdown ≠ .idle → s.done = true) → t.shutdown ≠ .idle → t.done = true
  trace : ∀ sock sid readiness,
    undelivered t.trace sock sid readiness = undelivered s.trace sock sid readiness

theorem Calm.refl (s : State) : Calm s s where
  edges := rfl
  entries := fun _ _ found => found
  guest := rfl
  readers := fun _ started => ⟨started, rfl⟩
  dials := fun _ started => ⟨started, rfl⟩
  events := fun _ member => member
  done := fun done => done
  begun := fun begun => begun
  trace := fun _ _ _ => rfl

theorem edge_get (edges : t.socks.map HostSocket.edge = s.socks.map HostSocket.edge)
    (sock : Nat) : (t.socks.get sock).edge = (s.socks.get sock).edge := by
  have same := congrArg (fun heap => heap.get sock) edges
  exact same

theorem sid_of_edges (edges : t.socks.map HostSocket.edge = s.socks.map HostSocket.edge)
    (sock : Nat) : t.sid sock = s.sid sock :=
  congrArg Prod.fst (edge_get edges sock)

theorem ready_of_edges (edges : t.socks.map HostSocket.edge = s.socks.map HostSocket.edge)
    (sock : Nat) (readiness : Readiness) : t.ready sock readiness = s.ready sock readiness := by
  have same := congrArg Prod.snd (edge_get edges sock)
  cases readiness with
  | read => exact congrArg (fun pair => !pair.1.isEmpty) same
  | write => exact congrArg (fun pair => pair.2.isSome) same

theorem size_of_edges (edges : t.socks.map HostSocket.edge = s.socks.map HostSocket.edge) :
    t.socks.size = s.socks.size := by
  have same := congrArg (fun heap => heap.size) edges
  exact same

theorem Calm.advance (calm : Calm s t) : Advance s t := by
  have sid := sid_of_edges calm.edges
  have size := size_of_edges calm.edges
  constructor
  case size => exact Nat.le_of_eq size.symm
  case ids => exact fun sock _ => sid sock
  case coherent =>
    intro coherent
    constructor
    case entry =>
      intro id sock found
      rw [size, sid]
      exact coherent.entry id sock (calm.entries id sock found)
    case holding =>
      intro id sock op holding
      rw [size, sid]
      exact coherent.holding id sock op (calm.guest ▸ holding)
    case begun => exact calm.begun coherent.begun
  case grows => exact calm.events
  case done => exact calm.done
  case outside =>
    rw [calm.guest]
    exact fun outside => outside
  case keeps =>
    intro sock _ readiness promised
    apply promised.onward _ (sid sock)
    constructor
    case done => exact calm.done
    case events => exact calm.events
    case readers => exact fun ref started _ _ => .inr (calm.readers ref started)
    case dials => exact fun ref started _ _ => .inr (calm.dials ref started)
    case guest => exact fun _ outbox => .inr (calm.guest ▸ outbox)
  case news =>
    intro sock inside readiness ready due
    left
    rw [ready_of_edges calm.edges] at ready
    rw [calm.trace, sid] at due
    exact ⟨size ▸ inside, ready, due⟩

theorem edges_onSock {sock : Nat} {update : HostSocket → HostSocket}
    (untouched : ∀ value, (update value).edge = value.edge) :
    (s.onSock sock update).socks.map HostSocket.edge = s.socks.map HostSocket.edge :=
  Heap.map_modify_frame _ _ _ _ (untouched _)

theorem calm_onSock {sock : Nat} {update : HostSocket → HostSocket}
    (untouched : ∀ value, (update value).edge = value.edge) : Calm s (s.onSock sock update) :=
  { Calm.refl s with edges := edges_onSock untouched }

theorem advance_onSock {sock : Nat} {update : HostSocket → HostSocket}
    (untouched : ∀ value, (update value).edge = value.edge) : Advance s (s.onSock sock update) :=
  (calm_onSock untouched).advance

/-- What happens to connections, memory and the progress of a shutdown. -/
theorem Calm.frame {sockets : Option Entries} {conns : Heap Conn} {memory : Memory}
    {shutdown : ShutdownPc} {err : Option Cause} {done : Bool}
    (entries : ∀ id sock, (sockets.bind fun entries => entries.lookup id) = some sock →
      s.socket id = some sock) (mono : s.done = true → done = true)
    (begun : (s.shutdown ≠ .idle → s.done = true) → shutdown ≠ .idle → done = true) :
    Calm s { s with
      sockets := sockets, conns := conns, memory := memory, shutdown := shutdown, err := err
      done := done } :=
  { Calm.refl s with
    entries := entries
    done := mono
    begun := begun }

theorem calm_observe {obs : Obs}
    (unrelated : ∀ sock sid readiness, obs.edge sock sid readiness = none) :
    Calm s (s.observe obs) :=
  { Calm.refl s with
    trace := fun sock sid readiness => by
      simp only [observe, undelivered, List.findSome?_cons, unrelated] }

theorem calm_allocConn (conn : Conn) : Calm s (s.allocConn conn) :=
  Calm.frame (fun _ _ found => found) (fun done => done) fun begun => begun

theorem calm_closeConn (conn : Nat) : Calm s (s.closeConn conn) :=
  Calm.frame (fun _ _ found => found) (fun done => done) fun begun => begun

theorem calm_store (memory : Memory) : Calm s (s.store memory) :=
  Calm.frame (fun _ _ found => found) (fun done => done) fun begun => begun

theorem calm_startShutdown (cause : Option Cause) : Calm s (s.startShutdown cause) := by
  rw [startShutdown]
  split
  · exact Calm.frame (fun _ _ found => found) (fun _ => rfl) fun _ _ => rfl
  · exact Calm.frame (fun _ _ found => found) (fun done => done) fun begun => begun

theorem calm_startReader (sock conn : Nat) : Calm s (s.startReader sock conn) :=
  { Calm.refl s with
    readers := fun _ started =>
      ⟨Nat.lt_succ_of_lt started, Heap.get_alloc_of_lt _ _ _ started⟩ }

theorem calm_startDial (dial : Dial) : Calm s (s.startDial dial) :=
  { Calm.refl s with
    dials := fun _ started =>
      ⟨Nat.lt_succ_of_lt started, Heap.get_alloc_of_lt _ _ _ started⟩ }

/-- The import goes on, after the event it was to enqueue was sent. -/
theorem advance_goto {returned : Int} (sent : ∀ event, s.guest.outbox = some event → s.Sent event)
    (still : pc ≠ .outside) (holding : ∀ id sock op, pc = .holding id sock op → s.Coherent →
      sock < s.socks.size ∧ s.sid sock = id) :
    Advance s { s with guest := pc, returned := returned } :=
  { Advance.refl s with
    coherent := fun coherent => ⟨coherent.entry,
      fun id sock op here => holding id sock op here coherent, coherent.begun⟩
    outside := fun outside => absurd outside still
    keeps := fun _ _ _ promised =>
      promised.onward
        { Onward.refl s with guest := fun event outbox => .inl (sent event outbox) } rfl
    news := fun _ inside _ ready due => .inl ⟨inside, ready, due⟩ }

/-- A reader goes on, after the event it was to enqueue was sent. -/
theorem advance_readerGoto {pc : ReaderPc}
    (sent : ∀ event, (s.readers.get ref).pc.outbox (s.sid (s.readers.get ref).sock) = some event →
      s.Sent event) : Advance s (s.readerGoto ref pc) := by
  have onward : Onward s (s.readerGoto ref pc) :=
    { Onward.refl s with
      readers := fun other started event outbox => by
        by_cases same : other = ref
        · exact .inl (sent event (same ▸ outbox))
        · exact .inr ⟨started, by rw [readerGoto, Heap.get_modify, if_neg same]⟩ }
  exact { Advance.refl s with
    coherent := fun coherent => ⟨coherent.entry, coherent.holding, coherent.begun⟩
    keeps := fun _ _ _ promised => promised.onward onward rfl
    news := fun _ inside _ ready due => .inl ⟨inside, ready, due⟩ }

theorem advance_dialGoto {pc : DialPc}
    (sent : ∀ event, (s.dials.get ref).pc.outbox (s.sid (s.dials.get ref).sock) = some event →
      s.Sent event) : Advance s (s.dialGoto ref pc) := by
  have onward : Onward s (s.dialGoto ref pc) :=
    { Onward.refl s with
      dials := fun other started event outbox => by
        by_cases same : other = ref
        · exact .inl (sent event (same ▸ outbox))
        · exact .inr ⟨started, by rw [dialGoto, Heap.get_modify, if_neg same]⟩ }
  exact { Advance.refl s with
    coherent := fun coherent => ⟨coherent.entry, coherent.holding, coherent.begun⟩
    keeps := fun _ _ _ promised => promised.onward onward rfl
    news := fun _ inside _ ready due => .inl ⟨inside, ready, due⟩ }

/-- `enqueue` sends the event, or finds or makes the instance closed. -/
theorem calm_enqueue {event : HostEvent} {drop full : Bool} (coherent : s.Coherent)
    (enqueued : s.enqueue event drop = (t, full)) :
    Calm s t ∧ t.Sent event ∧ t.readers = s.readers ∧ t.dials = s.dials := by
  rw [enqueue] at enqueued
  split at enqueued
  · cases enqueued
    refine ⟨?_, .inr (by simp), rfl, rfl⟩
    exact { Calm.refl s with events := fun _ member => List.mem_append_left _ member }
  · split at enqueued
    next done =>
      cases enqueued
      exact ⟨calm_observe fun _ _ _ => rfl, .inl done, rfl, rfl⟩
    next isOpen =>
      have idle : s.shutdown = .idle := by
        by_contra begun
        exact isOpen (coherent.begun begun)
      have started : (s.observe (.dropped event)).startShutdown (some .eventQueueOverflow) =
          { s.observe (.dropped event) with
            err := some .eventQueueOverflow, done := true, shutdown := .timers } := by
        simp [startShutdown, observe, idle]
      rw [started] at enqueued
      cases enqueued
      refine ⟨?_, .inl rfl, rfl, rfl⟩
      exact { Calm.refl s with done := fun _ => rfl, begun := fun _ _ => rfl }

/-- A condition of one socket changes. -/
theorem owing_change {sock : Nat} {update : HostSocket → HostSocket} {obs : Obs}
    (id : ∀ value, (update value).id = value.id)
    (kept : ∀ other r, ¬ (other = sock ∧ r = readiness) →
      (s.onSock sock update).ready other r = s.ready other r)
    (unrelated : ∀ other sid r, ¬ (other = sock ∧ r = readiness) → obs.edge other sid r = none) :
    Owing (fun other r => other = sock ∧ r = readiness) s
      ((s.onSock sock update).observe obs) := by
  have sid : ∀ other, ((s.onSock sock update).observe obs).sid other = s.sid other :=
    fun other => Heap.get_modify_frame s.socks sock other update HostSocket.id id
  constructor
  case size => exact Nat.le_refl _
  case ids => exact fun other _ => sid other
  case coherent =>
    intro coherent
    refine ⟨?_, ?_, coherent.begun⟩
    · intro id other found
      rw [sid]
      exact coherent.entry id other found
    · intro id other op holding
      rw [sid]
      exact coherent.holding id other op holding
  case grows => exact fun _ member => member
  case done => exact fun done => done
  case outside => exact fun outside => outside
  case keeps =>
    intro other _ r promised
    exact promised.onward { Onward.refl s with } (sid other)
  case news =>
    intro other inside r ready due
    by_cases changed : other = sock ∧ r = readiness
    · exact .inr (.inr changed)
    · left
      refine ⟨inside, (kept other r changed).symm.trans ready, ?_⟩
      rw [sid] at due
      simpa only [undelivered, observe, onSock, List.findSome?_cons,
        unrelated other _ r changed] using due

/-- The receive queue of a socket changes. -/
theorem owing_queue (sock : Nat) (change : List ReceivedPacket → List ReceivedPacket) :
    Owing (fun other r => other = sock ∧ r = .read) s
      ((s.onSock sock fun value => { value with queue := change value.queue }).observe
        (.queued sock)) := by
  apply owing_change
  · exact fun _ => rfl
  · intro other r different
    cases r with
    | read =>
        have elsewhere : other ≠ sock := fun same => different ⟨same, rfl⟩
        simp only [ready, onSock, Heap.get_modify, elsewhere, if_false]
    | write =>
        simp only [ready, onSock, Heap.get_modify]
        split
        next same => rw [same]
        · rfl
  · intro other sid r different
    rw [Obs.edge, if_neg]
    exact fun same => different ⟨same.1.symm, same.2⟩

/-- The connection of a socket is established. -/
theorem owing_tcp (sock conn : Nat) :
    Owing (fun other r => other = sock ∧ r = .write) s
      ((s.onSock sock fun value => { value with err := none, tcp := some conn }).observe
        (.established sock)) := by
  apply owing_change
  · exact fun _ => rfl
  · intro other r different
    cases r with
    | read =>
        simp only [ready, onSock, Heap.get_modify]
        split
        next same => rw [same]
        · rfl
    | write =>
        have elsewhere : other ≠ sock := fun same => different ⟨same, rfl⟩
        simp only [ready, onSock, Heap.get_modify, elsewhere, if_false]
  · intro other sid r different
    rw [Obs.edge, if_neg]
    exact fun same => different ⟨same.1.symm, same.2⟩

/-! ## The imports -/

theorem Owing.goto (advance : Owing debt s t) (free : t.guest.outbox = none)
    (still : pc ≠ .outside) (holding : ∀ id sock op, pc ≠ .holding id sock op) :
    Owing debt s (t.goto pc) := by
  apply advance.trans
  apply advance_goto _ still
  · exact fun id sock op here => absurd here (holding id sock op)
  · intro event outbox
    rw [free] at outbox
    cases outbox

theorem Owing.ret (advance : Owing debt s t) (free : t.guest.outbox = none) (result : Int) :
    Owing debt s (t.ret result) := by
  apply advance.trans
  apply advance_goto
  · intro event outbox
    rw [free] at outbox
    cases outbox
  · simp
  · simp

/-- What an import does before its first section. -/
theorem advance_entered (free : s.guest.outbox = none) (entered : Entered s t) : Advance s t := by
  cases entered with
  | ret result => exact (Advance.refl s).ret free result
  | openSocket | lookup | delete => exact (Advance.refl s).goto free (by simp) (by simp)

/-- `listenUDPLocked` leaves the import where it is. -/
theorem advance_listen {sock : Nat} {reply : Reply}
    (listened : s.listenUDPLocked sock reply = (t, err)) : Advance s t ∧ t.guest = s.guest := by
  unfold listenUDPLocked at listened
  split at listened
  · cases listened
    exact ⟨Advance.refl s, rfl⟩
  · cases listened
    exact ⟨Advance.refl s, rfl⟩
  · cases listened
    refine ⟨?_, rfl⟩
    apply (calm_allocConn _).advance.trans
    apply (calm_onSock _).advance.trans
    · exact (calm_startReader _ _).advance
    · exact fun _ => rfl

section Imports

variable {sock : Nat} {id : Int}

theorem advance_sockBind (free : s.guest.outbox = none) (port : Nat) (reply : Reply) :
    Advance s (s.sockBind sock port reply) := by
  simp only [sockBind]
  split
  · exact (Advance.refl s).ret free _
  · split
    · exact (Advance.refl s).ret free _
    · have bound : Advance s (s.onSock sock fun sock => { sock with bindPort := port }) :=
        advance_onSock fun _ => rfl
      split
      · exact bound.ret free _
      · split
        all_goals
          next listened =>
            obtain ⟨advance, same⟩ := advance_listen listened
            exact (bound.trans advance).ret (by rw [same]; exact free) _

theorem advance_sockConnectLocked (free : s.guest.outbox = none) (remote : AddrPort)
    (reply : Reply) : Advance s (s.sockConnectLocked id sock remote reply) := by
  simp only [sockConnectLocked]
  split
  · exact (Advance.refl s).ret free _
  · have connected : Advance s (s.onSock sock fun sock => { sock with remote := remote }) :=
      advance_onSock fun _ => rfl
    split
    · split
      next listened =>
        obtain ⟨advance, same⟩ := advance_listen listened
        exact (connected.trans advance).ret (by rw [same]; exact free) _
      next listened =>
        obtain ⟨advance, same⟩ := advance_listen listened
        exact (connected.trans advance).goto (by rw [same]; exact free) (by simp) (by simp)
    · split
      · exact connected.ret free _
      · exact (connected.trans (calm_startDial _).advance).ret free _

theorem advance_sockSendLocked (free : s.guest.outbox = none) (data : Bytes) :
    Advance s (s.sockSendLocked id sock data) := by
  simp only [sockSendLocked]
  split
  · exact advance_entered free (s.entered_sockSendTo id _ _ data)
  · exact (Advance.refl s).ret free _

theorem advance_sockSendToLocked (free : s.guest.outbox = none) (remote : AddrPort)
    (data : Bytes) : Advance s (s.sockSendToLocked sock remote data) := by
  simp only [sockSendToLocked]
  split
  · exact (Advance.refl s).ret free _
  · split
    · exact (Advance.refl s).goto free (by simp) (by simp)
    · exact (Advance.refl s).goto free (by simp) (by simp)
    · exact (Advance.refl s).ret free _
    · exact (Advance.refl s).goto free (by simp) (by simp)

theorem advance_sockSendListen (free : s.guest.outbox = none) (remote : AddrPort)
    (data : Bytes) (reply : Reply) : Advance s (s.sockSendListen sock remote data reply) := by
  unfold sockSendListen
  split
  next listened =>
    obtain ⟨advance, same⟩ := advance_listen listened
    exact advance.ret (by rw [same]; exact free) _
  next listened =>
    obtain ⟨advance, same⟩ := advance_listen listened
    split
    · exact advance.ret (by rw [same]; exact free) _
    · exact advance.goto (by rw [same]; exact free) (by simp) (by simp)

theorem advance_sockErrorLocked (free : s.guest.outbox = none) :
    Advance s (s.sockErrorLocked sock) := by
  rw [sockErrorLocked]
  split
  · exact (Advance.refl s).ret free _
  · have cleared : Advance s (s.onSock sock fun sock => { sock with err := none }) :=
      advance_onSock fun _ => rfl
    exact cleared.ret free _

theorem advance_sockLocalPortLocked (free : s.guest.outbox = none) :
    Advance s (s.sockLocalPortLocked sock) := by
  simp only [sockLocalPortLocked]
  split <;> exact (Advance.refl s).ret free _

/-- `sock_recv` copies out what it takes from a queue that is not left empty. -/
def receives (s : State) (sock ptr capacity : Nat) (fromOut : Option (Nat × Nat)) : Bool :=
  match takePacket (s.socks.get sock).typ capacity (s.socks.get sock).queue with
  | none => true
  | some (chunk, rest) => rest.isEmpty || (deliver s.memory ptr fromOut chunk).2

/-- A packet is taken from the queue, and what is left is announced again. -/
theorem advance_sockRecvLocked {ptr capacity : Nat} {fromOut : Option (Nat × Nat)}
    (free : s.guest.outbox = none) (known : s.sid sock = id)
    (receives : s.receives sock ptr capacity fromOut = true) :
    Advance s (s.sockRecvLocked id sock ptr capacity fromOut) := by
  simp only [sockRecvLocked]
  rw [State.receives] at receives
  split
  · have cleared : Advance s (s.onSock sock fun sock => { sock with err := none }) :=
      advance_onSock fun _ => rfl
    split <;> exact cleared.ret free _
  next chunk rest taken =>
    rw [taken] at receives
    have popped : Owing _ s ((s.onSock sock fun value => { value with queue := rest }).observe
        (.queued sock)) := owing_queue sock fun _ => rest
    have left : ∀ state : State, state.socks = (s.onSock sock fun value =>
        { value with queue := rest }).socks → state.ready sock .read = true →
        rest.isEmpty = false := by
      intro state socks stillReady
      simpa [ready, socks, onSock] using stillReady
    split
    next memory delivered =>
      have empty : rest.isEmpty = true := by
        simpa [delivered] using receives
      apply ((popped.trans (calm_store memory).advance).ret free _).settle
      rintro other r ⟨same, kind⟩ stillReady
      rw [same, kind] at stillReady
      rw [left _ rfl stillReady] at empty
      cases empty
    next memory delivered =>
      split
      next empty =>
        apply ((popped.trans (calm_store memory).advance).ret free _).settle
        rintro other r ⟨same, kind⟩ stillReady
        rw [same, kind] at stillReady
        rw [left _ rfl stillReady] at empty
        cases empty
      · apply ((popped.trans (calm_store memory).advance).goto free (by simp) (by simp)).settle
        rintro other r ⟨same, kind⟩ _
        rw [same, kind]
        apply Promised.guest
        · rfl
        · rw [State.sid] at known
          simp [HostEvent.carries, State.sid, goto, store, observe, onSock, Readiness.flag, ioRead,
            known]

/-- A new socket is not ready for anything. -/
theorem advance_sockOpen (free : s.guest.outbox = none) (af : Family) (typ : SockType) :
    Advance s (s.sockOpen af typ) := by
  rw [sockOpen]
  split
  · exact (Advance.refl s).ret free _
  next entries present =>
    split
    · exact (Advance.refl s).ret free _
    · apply Owing.ret
      case free => exact free
      have old : ∀ other < s.socks.size,
          (s.socks.alloc (.new s.nextSocket af typ)).get other = s.socks.get other :=
        fun other inside => Heap.get_alloc_of_lt _ _ _ inside
      constructor
      case size => exact Nat.le_succ _
      case ids => exact fun other inside => congrArg HostSocket.id (old other inside)
      case coherent =>
        intro coherent
        constructor
        case entry =>
          intro id other found
          simp only [socket, Option.bind_some] at found
          by_cases new : id = s.nextSocket
          · rw [new, AList.lookup_insert, Option.some.injEq] at found
            rw [← found, new]
            exact ⟨Nat.lt_succ_self _, congrArg HostSocket.id (Heap.get_alloc_size _ _)⟩
          · rw [AList.lookup_insert_ne new] at found
            have before := coherent.entry id other (by simpa [socket, present] using found)
            refine ⟨Nat.lt_succ_of_lt before.1, ?_⟩
            exact (congrArg HostSocket.id (old other before.1)).trans before.2
        case holding =>
          intro id other op holding
          have before := coherent.holding id other op holding
          refine ⟨Nat.lt_succ_of_lt before.1, ?_⟩
          exact (congrArg HostSocket.id (old other before.1)).trans before.2
        case begun => exact coherent.begun
      case grows => exact fun _ member => member
      case done => exact fun done => done
      case outside => exact fun outside => outside
      case keeps =>
        intro other inside readiness promised
        apply promised.onward _ (congrArg HostSocket.id (old other inside))
        exact { Onward.refl s with }
      case news =>
        intro other inside readiness ready due
        left
        rcases Heap.eq_or_lt_of_alloc inside with new | before
        · rw [new] at ready
          cases readiness <;> simp [State.ready, HostSocket.new] at ready
        · have same := old other before
          refine ⟨before, ?_, ?_⟩
          · cases readiness <;> simpa [State.ready, same] using ready
          · simpa [State.sid, same] using due

theorem advance_lookupSock (free : s.guest.outbox = none) (op : SockOp) :
    Advance s (s.lookupSock id op) := by
  rw [lookupSock]
  split
  · exact (Advance.refl s).ret free _
  next sock found =>
    apply advance_goto
    · intro event outbox
      rw [free] at outbox
      cases outbox
    · simp
    · intro known other op here coherent
      cases here
      exact coherent.entry id sock found

theorem advance_sockDelete (free : s.guest.outbox = none) : Advance s (s.sockDelete id) := by
  have deleted : Advance s { s with sockets := s.sockets.map (AList.erase id) } := by
    apply Calm.advance
    apply Calm.frame
    · intro other sock found
      exact socket_erase found
    · exact fun done => done
    · exact fun begun => begun
  simp only [sockDelete]
  split
  · exact deleted.ret free _
  · exact deleted.goto free (by simp) (by simp)

/-- The buffers of a `sock_recv` that leaves packets behind are in range. -/
def receiving (s : State) : GuestPc → Bool
  | .holding _ sock (.recv ptr capacity fromOut) => s.receives sock ptr capacity fromOut
  | _ => true

theorem advance_onHolding (coherent : s.Coherent) {op : SockOp}
    (here : s.guest = .holding id sock op) (receiving : s.receiving s.guest = true)
    (reply : Reply) : Advance s (s.onHolding id sock reply op) := by
  have free : s.guest.outbox = none := by rw [here]; rfl
  cases op with
  | bind port => exact advance_sockBind free port reply
  | connect remote => exact advance_sockConnectLocked free remote reply
  | send data => exact advance_sockSendLocked free data
  | sendTo remote data => exact advance_sockSendToLocked free remote data
  | recv ptr capacity fromOut =>
      apply advance_sockRecvLocked free
      · exact (coherent.holding id sock _ here).2
      · rw [here] at receiving
        exact receiving
  | error => exact advance_sockErrorLocked free
  | localPort => exact advance_sockLocalPortLocked free

end Imports

/-! ## The steps -/

/-- An import goes on with its event sent. -/
theorem advance_guestEnqueue {event : HostEvent} {result returned : Int} {drop full : Bool}
    (coherent : s.Coherent) (here : s.guest = .enqueue event result)
    (enqueued : s.enqueue event drop = (t, full)) (still : pc ≠ .outside)
    (holding : ∀ id sock op, pc ≠ .holding id sock op) :
    Advance s { t with guest := pc, returned := returned } := by
  obtain ⟨calm, sent, -, -⟩ := calm_enqueue coherent enqueued
  apply calm.advance.trans
  apply advance_goto _ still
  · exact fun id sock op here => absurd here (holding id sock op)
  · intro other outbox
    rw [calm.guest, here] at outbox
    cases outbox
    exact sent

theorem promised_dialGoto {flags : Nat} {conn : Option Nat} (started : ref < s.dials.size)
    (flag : flags &&& readiness.flag ≠ 0) :
    (s.dialGoto ref (.enqueue flags conn)).Promised (s.dials.get ref).sock readiness := by
  have moved : (s.dialGoto ref (.enqueue flags conn)).dials.get ref =
      { s.dials.get ref with pc := .enqueue flags conn } := by
    rw [dialGoto, Heap.get_modify_self]
  exact .dial started (by rw [moved]) (by rw [moved]; rfl) (by simp [HostEvent.carries, flag])

theorem promised_readerGoto (started : ref < s.readers.size) :
    (s.readerGoto ref (.pushEnqueue err)).Promised (s.readers.get ref).sock .read := by
  have moved : (s.readerGoto ref (.pushEnqueue err)).readers.get ref =
      { s.readers.get ref with pc := .pushEnqueue err } := by
    rw [readerGoto, Heap.get_modify_self]
  exact .reader started (by rw [moved]) (by rw [moved]; rfl)
    (by simp [HostEvent.carries, Readiness.flag, ioRead])

/-- A dial with nothing to announce goes on. -/
theorem advance_dialGoto_of_idle {pc next : DialPc} (here : (s.dials.get ref).pc = pc)
    (idle : ∀ sid, pc.outbox sid = none) : Advance s (s.dialGoto ref next) := by
  apply advance_dialGoto
  intro event outbox
  rw [here, idle] at outbox
  cases outbox

theorem advance_readerGoto_of_idle {pc next : ReaderPc} (here : (s.readers.get ref).pc = pc)
    (idle : ∀ sid, pc.outbox sid = none) : Advance s (s.readerGoto ref next) := by
  apply advance_readerGoto
  intro event outbox
  rw [here, idle] at outbox
  cases outbox

/-- A connection is established, and the dial is about to announce it. -/
theorem advance_dialSucceeded {port : Nat} (started : ref < s.dials.size)
    (here : (s.dials.get ref).pc = .dialing) : Advance s (s.dialSucceeded ref port) := by
  simp only [dialSucceeded]
  split
  · apply (calm_allocConn _).advance.trans
    exact advance_dialGoto_of_idle here fun _ => rfl
  · apply (calm_allocConn _).advance.trans
    apply Owing.settle
    · apply Owing.trans (owing_tcp (s.dials.get ref).sock _)
      exact advance_dialGoto_of_idle here fun _ => rfl
    · rintro other r ⟨same, kind⟩ _
      rw [same, kind]
      exact promised_dialGoto started (by decide)

theorem advance_dialFailed (err : NetError) (here : (s.dials.get ref).pc = .dialing) :
    Advance s (s.dialFailed ref err) := by
  simp only [dialFailed]
  split
  · exact advance_dialGoto_of_idle here fun _ => rfl
  · have failed : Advance s (s.onSock (s.dials.get ref).sock fun sock =>
        { sock with err := some err }) := advance_onSock fun _ => rfl
    exact failed.trans (advance_dialGoto_of_idle here fun _ => rfl)

theorem advance_dialEnqueue {flags : Nat} {conn : Option Nat} {drop full : Bool} {pc : DialPc}
    (coherent : s.Coherent) (here : (s.dials.get ref).pc = .enqueue flags conn)
    (enqueued : s.enqueue (.io (s.sid (s.dials.get ref).sock) flags) drop = (t, full)) :
    Advance s (t.dialGoto ref pc) := by
  obtain ⟨calm, sent, -, dials⟩ := calm_enqueue coherent enqueued
  apply calm.advance.trans
  apply advance_dialGoto
  intro event outbox
  rw [dials, here, sid_of_edges calm.edges] at outbox
  cases outbox
  exact sent

theorem advance_readerEnqueue {flags : Nat} {drop : Bool} {next : ReaderPc}
    (coherent : s.Coherent) (here : (s.readers.get ref).pc.outbox
      (s.sid (s.readers.get ref).sock) = some (.io (s.sid (s.readers.get ref).sock) flags)) :
    Advance s (s.readerEnqueue ref flags drop next) := by
  have gone : ∀ after full pc, s.enqueue (.io (s.sid (s.readers.get ref).sock) flags) drop =
      (after, full) → Advance s (after.readerGoto ref pc) := by
    intro after full pc enqueued
    obtain ⟨calm, sent, readers, -⟩ := calm_enqueue coherent enqueued
    apply calm.advance.trans
    apply advance_readerGoto
    intro event outbox
    rw [readers, sid_of_edges calm.edges, here] at outbox
    cases outbox
    exact sent
  unfold readerEnqueue
  split
  next enqueued => exact gone _ _ _ enqueued
  next enqueued => exact gone _ _ _ enqueued

/-- A packet is queued, and the reader is about to announce it. -/
theorem advance_push {data : Bytes} {source : AddrPort} (started : ref < s.readers.size)
    (here : (s.readers.get ref).pc = .push data source err) :
    Advance s ((s.push (s.readers.get ref).sock ⟨data, source⟩).readerGoto ref
      (.pushEnqueue err)) := by
  rw [push]
  split
  · exact advance_readerGoto_of_idle here fun _ => rfl
  · apply Owing.settle
    · apply Owing.trans
        (owing_queue (s.readers.get ref).sock fun queue => queue ++ [⟨data, source⟩])
      exact advance_readerGoto_of_idle here fun _ => rfl
    · rintro other r ⟨same, kind⟩ _
      rw [same, kind]
      exact promised_readerGoto started

theorem advance_readError {err : NetError} {next : ReaderPc}
    (here : (s.readers.get ref).pc = .readError err) :
    Advance s ((s.readErrorLocked (s.readers.get ref).sock err).readerGoto ref next) := by
  rw [readErrorLocked]
  split
  · exact advance_readerGoto_of_idle here fun _ => rfl
  · have recorded : Advance s (s.onSock (s.readers.get ref).sock fun sock =>
        { sock with err := some err }) := advance_onSock fun _ => rfl
    exact recorded.trans (advance_readerGoto_of_idle here fun _ => rfl)

/-- A shutdown that has begun goes on. -/
theorem calm_further {sockets : Option Entries} {conns : Heap Conn} {next : ShutdownPc}
    (entries : ∀ id sock, (sockets.bind fun entries => entries.lookup id) = some sock →
      s.socket id = some sock) (begun : s.shutdown ≠ .idle) :
    Calm s { s with sockets := sockets, conns := conns, shutdown := next } :=
  Calm.frame entries (fun done => done) fun closed _ => closed begun

/-- What a `sock_recv` must keep to for its packets to be announced. -/
def Receiving (s : State) : Action → Prop
  | .guest _ => s.receiving s.guest = true
  | _ => True

instance (s : State) : (action : Action) → Decidable (s.Receiving action)
  | .guest _ => inferInstanceAs (Decidable (_ = true))
  | .enter | .dispatch | .leave | .compute _ | .call _ | .dial _ _ | .reader _ _ _
  | .shutdown _ => inferInstanceAs (Decidable True)

/-- Every step inside or beside an export announces what it changes. -/
theorem advance_step {action : Action} (coherent : s.Coherent) (receiving : s.Receiving action)
    (inside : action ≠ .enter ∧ action ≠ .dispatch ∧ action ≠ .leave)
    (stepped : s.step action = some t) : Advance s t := by
  cases moved_of_step stepped with
  | enter => exact absurd rfl inside.1
  | dispatch => exact absurd rfl inside.2.1
  | leave => exact absurd rfl inside.2.2
  | compute => exact (calm_store _).advance
  | call here => exact advance_entered (by rw [here]; rfl) (s.entered_call _)
  | openSocket here => exact advance_sockOpen (by rw [here]; rfl) _ _
  | lookup here => exact advance_lookupSock (by rw [here]; rfl) _
  | delete here => exact advance_sockDelete (by rw [here]; rfl)
  | holding here => exact advance_onHolding coherent here receiving _
  | listen here => exact advance_sockSendListen (by rw [here]; rfl) _ _ _
  | writeUdp here | writeTcp here =>
      exact (calm_observe fun _ _ _ => rfl).advance.ret (by rw [observe, here]; rfl) _
  | sent here enqueued =>
      exact advance_guestEnqueue coherent here enqueued (by simp) (by simp)
  | stuck here enqueued =>
      exact advance_guestEnqueue coherent here enqueued (by simp) (by simp)
  | released here | closed here => exact (Advance.refl s).ret (by rw [here]; rfl) _
  | @close sock _ here =>
      have marked : Advance s (s.markClosed sock) := advance_onSock fun _ => rfl
      exact marked.goto (by rw [markClosed, onSock, here]; rfl) (by simp) (by simp)
  | closeConn here =>
      exact (calm_closeConn _).advance.goto (by rw [State.closeConn, here]; rfl) (by simp) (by simp)
  | dialFailed _ here => exact advance_dialFailed _ here
  | dialSucceeded started here => exact advance_dialSucceeded started here
  | dialClose _ here =>
      exact (calm_closeConn _).advance.trans (advance_dialGoto_of_idle here fun _ => rfl)
  | dialEnqueue _ here enqueued => exact advance_dialEnqueue coherent here enqueued
  | dialSpawn _ here =>
      exact (calm_startReader _ _).advance.trans (advance_dialGoto_of_idle here fun _ => rfl)
  | dialWoken _ here => exact advance_dialGoto_of_idle here fun _ => rfl
  | read _ here | source _ here | readerWoken _ here =>
      exact advance_readerGoto_of_idle here fun _ => rfl
  | push started here => exact advance_push started here
  | pushEnqueue _ here => exact advance_readerEnqueue coherent (by rw [here]; rfl)
  | errorEnqueue _ here => exact advance_readerEnqueue coherent (by rw [here]; rfl)
  | readError _ here => exact advance_readError here
  | shutdown => exact (calm_startShutdown none).advance
  | timers here | sockets here | visited here | sweep here =>
      exact (calm_further (fun _ _ found => found) (by simp [here])).advance
  | finish here =>
      exact (calm_further (fun _ _ impossible => by cases impossible) (by simp [here])).advance
  | @visit _ sock _ here =>
      have marked : Advance s (s.markClosed sock) := advance_onSock fun _ => rfl
      apply marked.trans
      exact (calm_further (fun _ _ found => found) (by simp [markClosed, onSock, here])).advance

/-! ## The ends of an export -/

theorem accounted_initial : initial.Accounted where
  coherent := ⟨fun id sock found => (by simp [socket, initial] at found),
    fun _ _ _ impossible => (by cases impossible), fun begun => absurd rfl begun⟩
  promised := fun sock inside => absurd inside (Nat.not_lt_zero sock)

/-- An export begins or ends. -/
theorem Accounted.goto (accounted : s.Accounted) (free : s.guest.outbox = none)
    (holding : ∀ id sock op, pc ≠ .holding id sock op) : (s.goto pc).Accounted := by
  refine ⟨⟨accounted.coherent.entry, ?_, accounted.coherent.begun⟩, ?_⟩
  · exact fun id sock op here => absurd here (holding id sock op)
  · intro sock inside readiness ready due
    have onward : Onward s (s.goto pc) :=
      { Onward.refl s with guest := fun _ outbox => by rw [free] at outbox; cases outbox }
    exact (accounted.promised sock inside readiness ready due).onward onward rfl

/-- The event that is dispatched no longer counts. -/
theorem Accounted.dispatch {event : HostEvent} {events : List HostEvent}
    (accounted : s.Accounted) (queue : s.events = event :: events)
    (free : s.guest.outbox = none) :
    (({ s with events := events }.observe (.dispatched event)).goto .running).Accounted := by
  refine ⟨⟨accounted.coherent.entry, ?_, accounted.coherent.begun⟩, ?_⟩
  · exact fun id sock op impossible => by cases impossible
  · intro sock inside readiness ready due
    by_cases announces : event.carries (s.sid sock) readiness = true
    · have delivered : undelivered (.dispatched event :: s.trace) sock (s.sid sock) readiness =
          false := by
        simp [undelivered, Obs.edge, announces]
      exact absurd due (by rw [← Bool.not_eq_true] at delivered; exact delivered)
    · have before : undelivered s.trace sock (s.sid sock) readiness = true := by
        have same : undelivered (.dispatched event :: s.trace) sock (s.sid sock) readiness =
            true := due
        simpa [undelivered, Obs.edge, announces] using same
      cases accounted.promised sock inside readiness ready before with
      | closed done => exact .closed done
      | queued member carries =>
          rw [queue] at member
          rcases List.mem_cons.mp member with same | later
          · rw [same] at carries
            exact absurd carries announces
          · exact .queued later carries
      | reader started own outbox carries => exact .reader started own outbox carries
      | dial started own outbox carries => exact .dial started own outbox carries
      | guest outbox =>
          rw [free] at outbox
          cases outbox

/-- No goroutine stands between a change and its announcement. -/
def Settled (s : State) : Prop :=
  (∀ ref < s.readers.size,
      (s.readers.get ref).pc.outbox (s.sid (s.readers.get ref).sock) = none) ∧
    ∀ ref < s.dials.size, (s.dials.get ref).pc.outbox (s.sid (s.dials.get ref).sock) = none

instance (s : State) : Decidable s.Settled := inferInstanceAs (Decidable (_ ∧ _))

/-- Then what is promised is in the channel. -/
theorem Promised.arrived {sock : Nat} (promised : s.Promised sock readiness) (settled : s.Settled)
    (free : s.guest.outbox = none) :
    s.done = true ∨ ∃ event ∈ s.events, event.carries (s.sid sock) readiness = true := by
  cases promised with
  | closed done => exact .inl done
  | queued member carries => exact .inr ⟨_, member, carries⟩
  | @reader ref event started own outbox =>
      have none := settled.1 ref started
      rw [own, outbox] at none
      cases none
  | @dial ref event started own outbox =>
      have none := settled.2 ref started
      rw [own, outbox] at none
      cases none
  | guest outbox =>
      rw [free] at outbox
      cases outbox

end State

end UnboundWasm.Host.Sockets
