import UnboundWasm.Host.Sockets.Readiness

/-!
# Receiving: the abstract machine

What the guest can receive depends on little of the state: the receive queue and
the pending error of each socket, the event channel, and where the readers and the
guest call stand.  `State.post` keeps just that, `Post.Move` says what can happen to
it, and every step of the sockets machine is a sequence of such moves.

The log beside the state records what was pushed, what was handed to the guest and
how readers ended.
-/

namespace UnboundWasm.Host.Sockets

open UnboundWasm.Lib

/-- What the log records of a socket: a packet that was queued, a packet handed to
the guest by a `sock_recv` with the given capacity, one that was lost because a buffer
was out of range, what a `sock_recv` on an empty queue and a `sock_error` reported, the
end of a reader, and the end of a dial. -/
inductive Receipt where
  | pushed (packet : ReceivedPacket)
  | took (capacity : Nat) (chunk : ReceivedPacket)
  | lost
  | drained (err : Option NetError)
  | asked (err : Option NetError)
  | ended (err : NetError)
  | dialed (err : Option NetError)
  deriving DecidableEq, Repr

/-- A receipt with the socket it is about. -/
structure Note where
  sock : Nat
  receipt : Receipt
  deriving DecidableEq, Repr

namespace State

/-- What a `sock_recv` that is about to enter its section is going to do. -/
def recvReceipt (s : State) (sock ptr capacity : Nat) (fromOut : Option (Nat × Nat)) : Receipt :=
  match takePacket (s.socks.get sock).typ capacity (s.socks.get sock).queue with
  | none => .drained (s.socks.get sock).err
  | some (chunk, _) =>
      if (deliver s.memory ptr fromOut chunk).2 then .took capacity chunk else .lost

/-- What the log records about a step. -/
def note (s : State) : Action → Option Note
  | .guest _ =>
      match s.guest with
      | .holding _ sock (.recv ptr capacity fromOut) =>
          some ⟨sock, s.recvReceipt sock ptr capacity fromOut⟩
      | .holding _ sock .error => some ⟨sock, .asked (s.socks.get sock).err⟩
      | _ => none
  | .reader ref _ _ =>
      let sock := (s.readers.get ref).sock
      match (s.readers.get ref).pc, (s.socks.get sock).closed with
      | .push data source _, false => some ⟨sock, .pushed ⟨data, source⟩⟩
      | .readError err, false => some ⟨sock, .ended err⟩
      | _, _ => none
  | .dial ref reply =>
      let sock := (s.dials.get ref).sock
      match (s.dials.get ref).pc, (s.socks.get sock).closed with
      | .dialing, false => some ⟨sock, .dialed reply.err⟩
      | _, _ => none
  | .enter | .dispatch | .leave | .compute _ | .call _ | .shutdown _ => none

end State

/-- The sockets machine with the log of what is received. -/
def receiving : Machine (State × List Note) Action := machine.logged State.note

/-! ## The abstract state -/

/-- A socket as far as receiving is concerned. -/
structure Inbox where
  id : Int
  typ : SockType
  queue : List ReceivedPacket
  err : Option NetError
  closed : Bool

def HostSocket.inbox (sock : HostSocket) : Inbox :=
  ⟨sock.id, sock.typ, sock.queue, sock.err, sock.closed⟩

/-- The observations of receive queues and of the channel. -/
def Obs.isTraffic : Obs → Bool
  | .queued _ | .enqueued _ | .dropped _ | .dispatched _ => true
  | .udpWrite _ _ _ | .tcpDial _ | .tcpWrite _ _ | .established _ => false

/-- The socket an import works on. -/
def GuestPc.sock : GuestPc → Option Nat
  | .holding _ sock _ | .listen sock _ _ | .close sock => some sock
  | .outside | .running | .openSocket _ _ | .lookup _ _ | .writeUdp _ _ _ | .writeTcp _ _
  | .enqueue _ _ | .blocked _ | .delete _ | .closeConns _ => none

/-- What receiving depends on. A reader is its socket and its place, a dial its
socket. -/
structure Post where
  boxes : Heap Inbox
  entry : Int → Option Nat
  events : List HostEvent
  begun : Bool
  done : Bool
  traffic : List Obs
  readers : Heap (Nat × ReaderPc)
  dials : Heap Nat
  guest : GuestPc
  log : List Note

def State.post (s : State) (log : List Note) : Post where
  boxes := s.socks.map HostSocket.inbox
  entry := s.socket
  events := s.events
  begun := s.shutdown ≠ .idle
  done := s.done
  traffic := s.trace.filter Obs.isTraffic
  readers := s.readers.map fun reader => (reader.sock, reader.pc)
  dials := s.dials.map Dial.sock
  guest := s.guest
  log := log

/-- What becomes of an event that is enqueued. -/
inductive Sending where
  | queued | dropped | overflowed

namespace Post

def goto (p : Post) (pc : GuestPc) : Post := { p with guest := pc }

def readerGoto (p : Post) (ref : Nat) (pc : ReaderPc) : Post :=
  { p with readers := p.readers.modify ref fun reader => (reader.1, pc) }

def onBox (p : Post) (sock : Nat) (change : Inbox → Inbox) : Post :=
  { p with boxes := p.boxes.modify sock change }

def observe (p : Post) (obs : Obs) : Post := { p with traffic := obs :: p.traffic }

def record (p : Post) (sock : Nat) (receipt : Receipt) : Post :=
  { p with log := p.log ++ [⟨sock, receipt⟩] }

/-- `enqueue`, once its select is decided. -/
def send (p : Post) (event : HostEvent) : Sending → Post
  | .queued => { p with events := p.events ++ [event] }.observe (.enqueued event)
  | .dropped => p.observe (.dropped event)
  | .overflowed => { p with begun := true, done := true }.observe (.dropped event)

@[simp] theorem boxes_goto (p : Post) (pc : GuestPc) : (p.goto pc).boxes = p.boxes := rfl

@[simp] theorem boxes_readerGoto (p : Post) (ref : Nat) (pc : ReaderPc) :
    (p.readerGoto ref pc).boxes = p.boxes := rfl

@[simp] theorem boxes_onBox (p : Post) (sock : Nat) (change : Inbox → Inbox) :
    (p.onBox sock change).boxes = p.boxes.modify sock change := rfl

@[simp] theorem boxes_observe (p : Post) (obs : Obs) : (p.observe obs).boxes = p.boxes := rfl

@[simp] theorem boxes_record (p : Post) (sock : Nat) (receipt : Receipt) :
    (p.record sock receipt).boxes = p.boxes := rfl

@[simp] theorem boxes_send (p : Post) (event : HostEvent) (sending : Sending) :
    (p.send event sending).boxes = p.boxes := by
  cases sending <;> rfl

@[simp] theorem log_send (p : Post) (event : HostEvent) (sending : Sending) :
    (p.send event sending).log = p.log := by
  cases sending <;> rfl

@[simp] theorem readers_send (p : Post) (event : HostEvent) (sending : Sending) :
    (p.send event sending).readers = p.readers := by
  cases sending <;> rfl

@[simp] theorem guest_send (p : Post) (event : HostEvent) (sending : Sending) :
    (p.send event sending).guest = p.guest := by
  cases sending <;> rfl

/-- The event a reader is about to enqueue. -/
def outbox (p : Post) (ref : Nat) : Option HostEvent :=
  (p.readers.get ref).2.outbox (p.boxes.get (p.readers.get ref).1).id

end Post

/-- What can happen to the part receiving depends on. -/
inductive Post.Move (p : Post) : Post → Prop where
  /-- The import goes on, with nothing to announce left behind. -/
  | guest {pc : GuestPc} (free : p.guest.outbox = none)
      (fresh : ∀ event, pc.outbox = some event → ∃ id, event = .io id ioWrite)
      (held : ∀ id sock op, pc = .holding id sock op → p.entry id = some sock)
      (works : ∀ sock, pc.sock = some sock →
        p.guest.sock = some sock ∨ ∃ id, p.entry id = some sock) :
      Move p (p.goto pc)
  | forget {entry : Int → Option Nat}
      (fewer : ∀ id sock, entry id = some sock → p.entry id = some sock) :
      Move p { p with entry := entry }
  | opened {id : Int} {typ : SockType} {entry : Int → Option Nat}
      (known : ∀ other sock, entry other = some sock →
        other = id ∧ sock = p.boxes.size ∨ p.entry other = some sock) :
      Move p { p with boxes := p.boxes.alloc ⟨id, typ, [], none, false⟩, entry := entry }
  | guestSend {event : HostEvent} {result : Int} {pc : GuestPc} {sending : Sending}
      (here : p.guest = .enqueue event result) (next : pc = .running ∨ pc = .blocked result)
      (excused : sending = .dropped → p.done = true) :
      Move p ((p.send event sending).goto pc)
  | readerSend {ref : Nat} {event : HostEvent} {pc : ReaderPc} {sending : Sending}
      (started : ref < p.readers.size) (here : p.outbox ref = some event)
      (excused : sending = .dropped → p.done = true) :
      Move p ((p.send event sending).readerGoto ref pc)
  | dialSend {event : HostEvent} {sending : Sending}
      (excused : sending = .dropped → p.done = true) : Move p (p.send event sending)
  | dispatch {event : HostEvent} {rest : List HostEvent} (outside : p.guest = .outside)
      (first : p.events = event :: rest) :
      Move p (({ p with events := rest }.observe (.dispatched event)).goto .running)
  | push {ref sock : Nat} {packet : ReceivedPacket} {err : Option NetError}
      (started : ref < p.readers.size)
      (here : p.readers.get ref = (sock, .push packet.data packet.source err))
      (unclosed : (p.boxes.get sock).closed = false) :
      Move p ((((p.onBox sock fun box => { box with queue := box.queue ++ [packet] }).observe
        (.queued sock)).readerGoto ref (.pushEnqueue err)).record sock (.pushed packet))
  | take {id : Int} {sock ptr capacity : Nat} {fromOut : Option (Nat × Nat)}
      {chunk : ReceivedPacket} {rest : List ReceivedPacket}
      (here : p.guest = .holding id sock (.recv ptr capacity fromOut))
      (taken : State.takePacket (p.boxes.get sock).typ capacity (p.boxes.get sock).queue =
        some (chunk, rest)) :
      Move p ((((p.onBox sock fun box => { box with queue := rest }).observe
        (.queued sock)).goto (if rest.isEmpty then .running
          else .enqueue (.io id ioRead) chunk.data.length)).record sock (.took capacity chunk))
  | lose {id : Int} {sock ptr capacity : Nat} {fromOut : Option (Nat × Nat)}
      {chunk : ReceivedPacket} {rest : List ReceivedPacket}
      (here : p.guest = .holding id sock (.recv ptr capacity fromOut))
      (taken : State.takePacket (p.boxes.get sock).typ capacity (p.boxes.get sock).queue =
        some (chunk, rest)) :
      Move p ((((p.onBox sock fun box => { box with queue := rest }).observe
        (.queued sock)).goto .running).record sock .lost)
  | drain {id : Int} {sock ptr capacity : Nat} {fromOut : Option (Nat × Nat)}
      (here : p.guest = .holding id sock (.recv ptr capacity fromOut))
      (empty : (p.boxes.get sock).queue = []) :
      Move p (((p.onBox sock fun box => { box with err := none }).goto .running).record sock
        (.drained (p.boxes.get sock).err))
  | ask {id : Int} {sock : Nat} (here : p.guest = .holding id sock .error) :
      Move p (((p.onBox sock fun box => { box with err := none }).goto .running).record sock
        (.asked (p.boxes.get sock).err))
  | readError {ref sock : Nat} {err : NetError} (started : ref < p.readers.size)
      (here : p.readers.get ref = (sock, .readError err))
      (unclosed : (p.boxes.get sock).closed = false) :
      Move p (((p.onBox sock fun box =>
        { box with err := if err = .netClosed ∨ err = .eof then box.err else some err }).readerGoto
          ref .errorEnqueue).record sock (.ended err))
  | dialed {ref sock : Nat} {err : Option NetError} (started : ref < p.dials.size)
      (here : p.dials.get ref = sock) (unclosed : (p.boxes.get sock).closed = false) :
      Move p ((p.onBox sock fun box => { box with err := err }).record sock (.dialed err))
  | close {sock : Nat} : Move p (p.onBox sock fun box => { box with closed := true })
  | begin : Move p { p with begun := true, done := true }
  | reader {ref : Nat} {pc : ReaderPc} (started : ref < p.readers.size)
      (quiet : ∀ err, (p.readers.get ref).2 ≠ .pushEnqueue err) : Move p (p.readerGoto ref pc)
  | start {sock : Nat} (known : p.guest.sock = some sock ∨
      ∃ ref < p.dials.size, p.dials.get ref = sock) :
      Move p { p with readers := p.readers.alloc (sock, .reading) }
  | dial {sock : Nat} (known : p.guest.sock = some sock) :
      Move p { p with dials := p.dials.alloc sock }

/-- Everybody refers to sockets that exist, by the ids they have. -/
structure Post.Proper (p : Post) : Prop where
  entry : ∀ id sock, p.entry id = some sock → sock < p.boxes.size ∧ (p.boxes.get sock).id = id
  holding : ∀ id sock op, p.guest = .holding id sock op → (p.boxes.get sock).id = id
  guest : ∀ sock, p.guest.sock = some sock → sock < p.boxes.size
  readers : ∀ ref < p.readers.size, (p.readers.get ref).1 < p.boxes.size
  dials : ∀ ref < p.dials.size, p.dials.get ref < p.boxes.size
  log : ∀ note ∈ p.log, note.sock < p.boxes.size
  begun : p.begun = true → p.done = true

namespace Post

variable {p q : Post}

namespace Proper

theorem observe (proper : p.Proper) (obs : Obs) : (p.observe obs).Proper :=
  ⟨proper.entry, proper.holding, proper.guest, proper.readers, proper.dials, proper.log,
    proper.begun⟩

theorem goto {pc : GuestPc} (proper : p.Proper)
    (held : ∀ id sock op, pc = .holding id sock op → p.entry id = some sock)
    (works : ∀ sock, pc.sock = some sock →
      p.guest.sock = some sock ∨ ∃ id, p.entry id = some sock) : (p.goto pc).Proper where
  entry := proper.entry
  holding := fun id sock op here => (proper.entry id sock (held id sock op here)).2
  guest := fun sock here => by
    rcases works sock here with before | ⟨id, found⟩
    · exact proper.guest sock before
    · exact (proper.entry id sock found).1
  readers := proper.readers
  dials := proper.dials
  log := proper.log
  begun := proper.begun

/-- An import that works on no socket is always proper. -/
theorem goto_of_none {pc : GuestPc} (proper : p.Proper) (none : pc.sock = none) :
    (p.goto pc).Proper := by
  apply proper.goto
  · intro id sock op here
    rw [here] at none
    cases none
  · intro sock here
    rw [none] at here
    cases here

theorem onBox {sock : Nat} {change : Inbox → Inbox} (proper : p.Proper)
    (kept : ∀ box, (change box).id = box.id) : (p.onBox sock change).Proper := by
  have ids : ∀ other, ((p.onBox sock change).boxes.get other).id = (p.boxes.get other).id :=
    fun other => Heap.get_modify_frame p.boxes sock other change Inbox.id kept
  constructor
  case entry =>
    intro id other found
    rw [ids]
    exact proper.entry id other found
  case holding =>
    intro id other op here
    rw [ids]
    exact proper.holding id other op here
  case guest => exact proper.guest
  case readers => exact proper.readers
  case dials => exact proper.dials
  case log => exact proper.log
  case begun => exact proper.begun

theorem readerGoto {ref : Nat} {pc : ReaderPc} (proper : p.Proper) :
    (p.readerGoto ref pc).Proper := by
  refine ⟨proper.entry, proper.holding, proper.guest, ?_, proper.dials, proper.log, proper.begun⟩
  intro other started
  have same : ((p.readerGoto ref pc).readers.get other).1 = (p.readers.get other).1 :=
    Heap.get_modify_frame p.readers ref other (fun reader => (reader.1, pc)) Prod.fst fun _ => rfl
  rw [same]
  exact proper.readers other started

theorem record {sock : Nat} {receipt : Receipt} (proper : p.Proper)
    (inside : sock < p.boxes.size) : (p.record sock receipt).Proper := by
  refine ⟨proper.entry, proper.holding, proper.guest, proper.readers, proper.dials, ?_,
    proper.begun⟩
  intro note member
  rcases List.mem_append.mp member with old | new
  · exact proper.log note old
  · rw [List.mem_singleton.mp new]
    exact inside

theorem send {event : HostEvent} {sending : Sending} (proper : p.Proper) :
    (p.send event sending).Proper := by
  cases sending with
  | queued | dropped =>
      exact ⟨proper.entry, proper.holding, proper.guest, proper.readers, proper.dials, proper.log,
        proper.begun⟩
  | overflowed =>
      exact ⟨proper.entry, proper.holding, proper.guest, proper.readers, proper.dials, proper.log,
        fun _ => rfl⟩

theorem opened {id : Int} {typ : SockType} {entry : Int → Option Nat} (proper : p.Proper)
    (known : ∀ other sock, entry other = some sock →
      other = id ∧ sock = p.boxes.size ∨ p.entry other = some sock) :
    { p with boxes := p.boxes.alloc ⟨id, typ, [], none, false⟩, entry := entry }.Proper := by
  have old : ∀ sock < p.boxes.size,
      (p.boxes.alloc ⟨id, typ, [], none, false⟩).get sock = p.boxes.get sock :=
    fun sock inside => Heap.get_alloc_of_lt _ _ _ inside
  constructor
  case entry =>
    intro other sock found
    rcases known other sock found with ⟨same, new⟩ | before
    · rw [same, new]
      exact ⟨Nat.lt_succ_self _, congrArg Inbox.id (Heap.get_alloc_size _ _)⟩
    · obtain ⟨inside, named⟩ := proper.entry other sock before
      exact ⟨Nat.lt_succ_of_lt inside, (congrArg Inbox.id (old sock inside)).trans named⟩
  case holding =>
    intro other sock op here
    have inside := proper.guest sock (by rw [show p.guest = _ from here]; rfl)
    exact (congrArg Inbox.id (old sock inside)).trans (proper.holding other sock op here)
  case guest => exact fun sock here => Nat.lt_succ_of_lt (proper.guest sock here)
  case readers => exact fun ref started => Nat.lt_succ_of_lt (proper.readers ref started)
  case dials => exact fun ref started => Nat.lt_succ_of_lt (proper.dials ref started)
  case log => exact fun note member => Nat.lt_succ_of_lt (proper.log note member)
  case begun => exact proper.begun

theorem move (proper : p.Proper) (move : Move p q) : q.Proper := by
  have holds : ∀ {id sock op}, p.guest = .holding id sock op → sock < p.boxes.size :=
    fun here => proper.guest _ (by rw [here]; rfl)
  have reads : ∀ {ref sock pc}, ref < p.readers.size → p.readers.get ref = (sock, pc) →
      sock < p.boxes.size := by
    intro ref sock pc started here
    have inside := proper.readers ref started
    rw [here] at inside
    exact inside
  cases move with
  | guest free fresh held works => exact proper.goto held works
  | forget fewer =>
      exact ⟨fun id sock found => proper.entry id sock (fewer id sock found), proper.holding,
        proper.guest, proper.readers, proper.dials, proper.log, proper.begun⟩
  | opened known => exact proper.opened known
  | guestSend here next excused =>
      rcases next with rfl | rfl <;> exact proper.send.goto_of_none rfl
  | readerSend started here excused => exact proper.send.readerGoto
  | dialSend excused => exact proper.send
  | dispatch outside first =>
      apply goto_of_none _ rfl
      exact ⟨proper.entry, proper.holding, proper.guest, proper.readers, proper.dials, proper.log,
        proper.begun⟩
  | push started here unclosed =>
      apply record
      · apply readerGoto
        apply observe
        exact proper.onBox fun _ => rfl
      · exact reads started here
  | take here taken =>
      apply record
      · apply goto_of_none
        · apply observe
          exact proper.onBox fun _ => rfl
        · split <;> rfl
      · exact holds here
  | lose here taken =>
      apply record
      · apply goto_of_none _ rfl
        apply observe
        exact proper.onBox fun _ => rfl
      · exact holds here
  | drain here empty =>
      apply record
      · apply goto_of_none _ rfl
        exact proper.onBox fun _ => rfl
      · exact holds here
  | ask here =>
      apply record
      · apply goto_of_none _ rfl
        exact proper.onBox fun _ => rfl
      · exact holds here
  | readError started here unclosed =>
      apply record
      · apply readerGoto
        exact proper.onBox fun _ => rfl
      · exact reads started here
  | @dialed ref sock err started here unclosed =>
      apply record
      · exact proper.onBox fun _ => rfl
      · exact here ▸ proper.dials ref started
  | close => exact proper.onBox fun _ => rfl
  | begin =>
      exact ⟨proper.entry, proper.holding, proper.guest, proper.readers, proper.dials, proper.log,
        fun _ => rfl⟩
  | reader started quiet => exact proper.readerGoto
  | @start sock known =>
      refine ⟨proper.entry, proper.holding, proper.guest, ?_, proper.dials, proper.log,
        proper.begun⟩
      intro ref started
      rcases Heap.eq_or_lt_of_alloc started with new | old
      · rw [new, Heap.get_alloc_size]
        rcases known with here | ⟨dial, running, here⟩
        · exact proper.guest sock here
        · exact here ▸ proper.dials dial running
      · rw [Heap.get_alloc_of_lt _ _ _ old]
        exact proper.readers ref old
  | @dial sock known =>
      refine ⟨proper.entry, proper.holding, proper.guest, proper.readers, ?_, proper.log,
        proper.begun⟩
      intro ref started
      rcases Heap.eq_or_lt_of_alloc started with new | old
      · rw [new, Heap.get_alloc_size]
        exact proper.guest sock known
      · rw [Heap.get_alloc_of_lt _ _ _ old]
        exact proper.dials ref old

end Proper

/-- Any number of moves. -/
abbrev Moves : Post → Post → Prop := Relation.ReflTransGen Move

end Post

/-! ## The steps as moves -/

namespace State

variable {s t : State} {p : Post} {log : List Note}

theorem post_onSock {sock : Nat} {update : HostSocket → HostSocket}
    (untouched : (update (s.socks.get sock)).inbox = (s.socks.get sock).inbox) :
    (s.onSock sock update).post log = s.post log := by
  simp only [post, onSock]
  rw [Heap.map_modify_frame _ _ _ _ untouched]
  rfl

theorem box_get (sock : Nat) : (s.post log).boxes.get sock = (s.socks.get sock).inbox := rfl

theorem boxes_onSock {sock : Nat} {update : HostSocket → HostSocket} (change : Inbox → Inbox)
    (views : ∀ value, (update value).inbox = change value.inbox) :
    (s.onSock sock update).socks.map HostSocket.inbox =
      (s.socks.map HostSocket.inbox).modify sock change :=
  Heap.map_modify _ _ _ _ views

/-- The import goes on to a place where it works on no socket. -/
theorem posts_goto {pc : GuestPc} (moves : Post.Moves p (t.post log)) (free : t.guest.outbox = none)
    (fresh : ∀ event, pc.outbox = some event → ∃ id, event = .io id ioWrite)
    (none : pc.sock = none) : Post.Moves p ((t.goto pc).post log) := by
  apply moves.tail
  apply Post.Move.guest free fresh
  · intro id sock op here
    rw [here] at none
    cases none
  · intro sock here
    rw [none] at here
    cases here

theorem posts_ret {result : Int} (moves : Post.Moves p (t.post log))
    (free : t.guest.outbox = none) : Post.Moves p ((t.ret result).post log) := by
  have back : Post.Moves p ((t.goto .running).post log) :=
    posts_goto moves free (fun event impossible => by cases impossible) rfl
  exact back

theorem posts_entered (free : s.guest.outbox = none) (entered : Entered s t) :
    Post.Moves (s.post log) (t.post log) := by
  cases entered with
  | ret result => exact posts_ret .refl free
  | openSocket | lookup | delete =>
      exact posts_goto .refl free (fun event impossible => by cases impossible) rfl

theorem posts_startReader {sock conn : Nat} (moves : Post.Moves p (t.post log))
    (known : t.guest.sock = some sock ∨
      ∃ ref < t.dials.size, (t.dials.get ref).sock = sock) :
    Post.Moves p ((t.startReader sock conn).post log) := by
  apply moves.tail
  have started : (t.startReader sock conn).post log =
      { t.post log with readers := (t.post log).readers.alloc (sock, .reading) } := by
    simp only [post, startReader, Heap.map_alloc]
    rfl
  rw [started]
  exact Post.Move.start known

theorem posts_startDial {dial : Dial} (moves : Post.Moves p (t.post log))
    (known : t.guest.sock = some dial.sock) : Post.Moves p ((t.startDial dial).post log) := by
  apply moves.tail
  have started : (t.startDial dial).post log =
      { t.post log with dials := (t.post log).dials.alloc dial.sock } := by
    simp only [post, startDial, observe, Heap.map_alloc]
    rfl
  rw [started]
  exact Post.Move.dial known

variable {err : Option NetError} {ref : Nat}

/-- `listenUDPLocked` leaves the import where it is. -/
theorem posts_listen {sock : Nat} {reply : Reply} (log : List Note)
    (listened : s.listenUDPLocked sock reply = (t, err)) (known : s.guest.sock = some sock) :
    Post.Moves (s.post log) (t.post log) ∧ t.guest = s.guest := by
  unfold listenUDPLocked at listened
  split at listened
  · cases listened
    exact ⟨.refl, rfl⟩
  · cases listened
    exact ⟨.refl, rfl⟩
  · cases listened
    refine ⟨posts_startReader ?_ (.inl known), rfl⟩
    rw [post_onSock rfl]
    exact .refl

section Imports

variable {sock : Nat} {id : Int}

theorem posts_sockBind (free : s.guest.outbox = none) (known : s.guest.sock = some sock)
    (port : Nat) (reply : Reply) :
    Post.Moves (s.post log) ((s.sockBind sock port reply).post log) := by
  simp only [sockBind]
  have bound : (s.onSock sock fun sock => { sock with bindPort := port }).post log =
      s.post log := post_onSock rfl
  split
  · exact posts_ret .refl free
  · split
    · exact posts_ret .refl free
    · split
      · apply posts_ret
        · rw [bound]
        · exact free
      · split
        all_goals
          next listened =>
            obtain ⟨moves, same⟩ := posts_listen log listened known
            rw [bound] at moves
            exact posts_ret moves (by rw [same]; exact free)

theorem posts_sockConnectLocked (free : s.guest.outbox = none) (known : s.guest.sock = some sock)
    (remote : AddrPort) (reply : Reply) :
    Post.Moves (s.post log) ((s.sockConnectLocked id sock remote reply).post log) := by
  simp only [sockConnectLocked]
  have connected : (s.onSock sock fun sock => { sock with remote := remote }).post log =
      s.post log := post_onSock rfl
  split
  · exact posts_ret .refl free
  · split
    · split
      next listened =>
        obtain ⟨moves, same⟩ := posts_listen log listened known
        rw [connected] at moves
        exact posts_ret moves (by rw [same]; exact free)
      next listened =>
        obtain ⟨moves, same⟩ := posts_listen log listened known
        rw [connected] at moves
        apply posts_goto moves (by rw [same]; exact free) _ rfl
        rintro event ⟨⟩
        exact ⟨id, rfl⟩
    · split
      · apply posts_ret
        · rw [connected]
        · exact free
      · apply posts_ret
        · apply posts_startDial
          · rw [connected]
          · exact known
        · exact free

theorem posts_sockSendLocked (free : s.guest.outbox = none) (data : Bytes) :
    Post.Moves (s.post log) ((s.sockSendLocked id sock data).post log) := by
  simp only [sockSendLocked]
  split
  · exact posts_entered free (s.entered_sockSendTo id _ _ data)
  · exact posts_ret .refl free

theorem posts_sockSendToLocked (free : s.guest.outbox = none) (known : s.guest.sock = some sock)
    (remote : AddrPort) (data : Bytes) :
    Post.Moves (s.post log) ((s.sockSendToLocked sock remote data).post log) := by
  simp only [sockSendToLocked]
  split
  · exact posts_ret .refl free
  · split
    · apply Relation.ReflTransGen.single
      apply Post.Move.guest free
      · intro event impossible
        cases impossible
      · intro id sock op impossible
        cases impossible
      · rintro other ⟨⟩
        exact .inl known
    · exact posts_goto .refl free (fun event impossible => by cases impossible) rfl
    · exact posts_ret .refl free
    · exact posts_goto .refl free (fun event impossible => by cases impossible) rfl

theorem posts_sockSendListen (free : s.guest.outbox = none) (known : s.guest.sock = some sock)
    (remote : AddrPort) (data : Bytes) (reply : Reply) :
    Post.Moves (s.post log) ((s.sockSendListen sock remote data reply).post log) := by
  unfold sockSendListen
  split
  next listened =>
    obtain ⟨moves, same⟩ := posts_listen log listened known
    exact posts_ret moves (by rw [same]; exact free)
  next listened =>
    obtain ⟨moves, same⟩ := posts_listen log listened known
    split
    · exact posts_ret moves (by rw [same]; exact free)
    · exact posts_goto moves (by rw [same]; exact free)
        (fun event impossible => by cases impossible) rfl

theorem takePacket_eq_none {typ : SockType} {capacity : Nat} {queue : List ReceivedPacket}
    (none : takePacket typ capacity queue = none) : queue = [] := by
  cases queue with
  | nil => rfl
  | cons packet rest =>
      simp only [takePacket] at none
      split at none <;> cases none

/-- A packet is taken out and handed over or lost, or the pending error is. -/
theorem posts_sockRecvLocked {ptr capacity : Nat} {fromOut : Option (Nat × Nat)}
    (here : s.guest = .holding id sock (.recv ptr capacity fromOut)) :
    Post.Moves (s.post log) ((s.sockRecvLocked id sock ptr capacity fromOut).post
      (log ++ [⟨sock, s.recvReceipt sock ptr capacity fromOut⟩])) := by
  apply Relation.ReflTransGen.single
  simp only [sockRecvLocked]
  split
  next missing =>
    have receipt : s.recvReceipt sock ptr capacity fromOut = .drained (s.socks.get sock).err := by
      simp only [recvReceipt, missing]
    rw [receipt]
    have drained : ∀ result : Int,
        ((s.onSock sock fun sock => { sock with err := none }).ret result).post
          (log ++ [⟨sock, .drained (s.socks.get sock).err⟩]) =
        (((s.post log).onBox sock fun box => { box with err := none }).goto .running).record sock
          (.drained (s.socks.get sock).err) := by
      intro result
      simp only [post, ret]
      rw [boxes_onSock (fun box => { box with err := none }) fun _ => rfl]
      rfl
    have move := Post.Move.drain (p := s.post log) here (takePacket_eq_none missing)
    split
    all_goals
      rw [drained]
      exact move
  next chunk rest taken =>
    have popped : ∀ (memory : Memory) (pc : GuestPc) (receipt : Receipt),
        ((((s.onSock sock fun sock => { sock with queue := rest }).observe (.queued sock)).store
          memory).goto pc).post (log ++ [⟨sock, receipt⟩]) =
        ((((s.post log).onBox sock fun box => { box with queue := rest }).observe
          (.queued sock)).goto pc).record sock receipt := by
      intro memory pc receipt
      simp only [post, goto, store, observe]
      rw [boxes_onSock (fun box => { box with queue := rest }) fun _ => rfl]
      rfl
    split
    next memory delivered =>
      have receipt : s.recvReceipt sock ptr capacity fromOut = .lost := by
        simp [recvReceipt, taken, delivered]
      rw [receipt]
      have move := Post.Move.lose (p := s.post log) here taken
      rw [← popped memory] at move
      exact move
    next memory delivered =>
      have receipt : s.recvReceipt sock ptr capacity fromOut = .took capacity chunk := by
        simp [recvReceipt, taken, delivered]
      rw [receipt]
      have move := Post.Move.take (p := s.post log) here taken
      rw [← popped memory] at move
      split
      next empty =>
        rw [if_pos empty] at move
        exact move
      next left =>
        rw [if_neg left] at move
        exact move

theorem posts_sockErrorLocked (here : s.guest = .holding id sock .error) :
    Post.Moves (s.post log) ((s.sockErrorLocked sock).post
      (log ++ [⟨sock, .asked (s.socks.get sock).err⟩])) := by
  apply Relation.ReflTransGen.single
  have move := Post.Move.ask (p := s.post log) here
  -- Where there is no error, taking it out changes nothing.
  have cleared : (s.sockErrorLocked sock).post (log ++ [⟨sock, .asked (s.socks.get sock).err⟩]) =
      (((s.post log).onBox sock fun box => { box with err := none }).goto .running).record sock
        (.asked (s.socks.get sock).err) := by
    unfold sockErrorLocked
    split
    next missing =>
      rw [Post.onBox, Heap.modify_eq_self _ _ _ (by simp [box_get, HostSocket.inbox, missing])]
      rfl
    next err present =>
      simp only [post, ret]
      rw [boxes_onSock (fun box => { box with err := none }) fun _ => rfl]
      rfl
  rw [cleared]
  exact move

theorem posts_sockLocalPortLocked (free : s.guest.outbox = none) :
    Post.Moves (s.post log) ((s.sockLocalPortLocked sock).post log) := by
  simp only [sockLocalPortLocked]
  split <;> exact posts_ret .refl free

theorem posts_onHolding {op : SockOp} (here : s.guest = .holding id sock op) (reply : Reply) :
    Post.Moves (s.post log) ((s.onHolding id sock reply op).post
      (log ++ (s.note (.guest reply)).toList)) := by
  have free : s.guest.outbox = none := by rw [here]; rfl
  have known : s.guest.sock = some sock := by rw [here]; rfl
  simp only [note, here]
  cases op with
  | bind port =>
      rw [Option.toList_none, List.append_nil]
      exact posts_sockBind free known port reply
  | connect remote =>
      rw [Option.toList_none, List.append_nil]
      exact posts_sockConnectLocked free known remote reply
  | send data =>
      rw [Option.toList_none, List.append_nil]
      exact posts_sockSendLocked free data
  | sendTo remote data =>
      rw [Option.toList_none, List.append_nil]
      exact posts_sockSendToLocked free known remote data
  | recv ptr capacity fromOut => exact posts_sockRecvLocked here
  | error => exact posts_sockErrorLocked here
  | localPort =>
      rw [Option.toList_none, List.append_nil]
      exact posts_sockLocalPortLocked free

theorem posts_sockOpen (free : s.guest.outbox = none) (af : Family) (typ : SockType) :
    Post.Moves (s.post log) ((s.sockOpen af typ).post log) := by
  rw [sockOpen]
  split
  · exact posts_ret .refl free
  next entries present =>
    split
    · exact posts_ret .refl free
    · apply posts_ret
      · apply Relation.ReflTransGen.single
        simp only [post, Heap.map_alloc]
        apply Post.Move.opened
        intro other sock found
        simp only [socket, Option.bind_some] at found
        by_cases new : other = s.nextSocket
        · rw [new, AList.lookup_insert, Option.some.injEq] at found
          exact .inl ⟨new, found.symm⟩
        · rw [AList.lookup_insert_ne new] at found
          right
          simpa [post, socket, present] using found
      · exact free

theorem posts_lookupSock (free : s.guest.outbox = none) (op : SockOp) :
    Post.Moves (s.post log) ((s.lookupSock id op).post log) := by
  rw [lookupSock]
  split
  · exact posts_ret .refl free
  next sock found =>
    apply Relation.ReflTransGen.single
    apply Post.Move.guest free
    · intro event impossible
      cases impossible
    · rintro other held op ⟨⟩
      exact found
    · rintro other ⟨⟩
      exact .inr ⟨id, found⟩

theorem posts_sockDelete (free : s.guest.outbox = none) :
    Post.Moves (s.post log) ((s.sockDelete id).post log) := by
  have forgotten : ∀ t : State,
      Post.Moves (t.post log) ({ t with sockets := t.sockets.map (AList.erase id) }.post log) := by
    intro t
    apply Relation.ReflTransGen.single
    exact Post.Move.forget fun other sock found => socket_erase found
  simp only [sockDelete]
  split
  · have gone := forgotten (s.ret 0)
    exact (posts_ret .refl free).trans gone
  next sock found =>
    have gone := forgotten (s.goto (.close sock))
    apply Relation.ReflTransGen.head _ gone
    apply Post.Move.guest free
    · intro event impossible
      cases impossible
    · intro other held op impossible
      cases impossible
    · rintro other ⟨⟩
      exact .inr ⟨id, found⟩

end Imports

/-- `enqueue` seen from the channel. -/
theorem post_enqueue {event : HostEvent} {drop full : Bool} (log : List Note)
    (begun : s.shutdown ≠ .idle → s.done = true) (enqueued : s.enqueue event drop = (t, full)) :
    ∃ sending : Sending, (sending = .dropped → s.done = true) ∧
      t.post log = (s.post log).send event sending := by
  rw [enqueue] at enqueued
  split at enqueued
  · cases enqueued
    exact ⟨.queued, (fun impossible => by cases impossible), rfl⟩
  · split at enqueued
    next done =>
      cases enqueued
      exact ⟨.dropped, fun _ => done, rfl⟩
    next isOpen =>
      have idle : s.shutdown = .idle := by
        by_contra started
        exact isOpen (begun started)
      cases enqueued
      refine ⟨.overflowed, (fun impossible => by cases impossible), ?_⟩
      simp only [startShutdown, observe, idle, post]
      rfl

theorem post_readerGoto {pc : ReaderPc} :
    (s.readerGoto ref pc).post log = (s.post log).readerGoto ref pc := by
  simp only [post, readerGoto]
  have moved : (s.readers.modify ref fun reader => { reader with pc := pc }).map
      (fun reader => (reader.sock, reader.pc)) =
      (s.readers.map fun reader => (reader.sock, reader.pc)).modify ref
        fun reader => (reader.1, pc) := Heap.map_modify _ _ _ _ fun _ => rfl
  rw [moved]
  rfl

theorem post_dialGoto {pc : DialPc} : (s.dialGoto ref pc).post log = s.post log := by
  simp only [post, dialGoto]
  rw [Heap.map_modify_frame _ _ _ _ rfl]
  rfl

/-- An import goes on with its event sent. -/
theorem posts_guestEnqueue {event : HostEvent} {result : Int} {drop full : Bool} {pc : GuestPc}
    (begun : s.shutdown ≠ .idle → s.done = true) (here : s.guest = .enqueue event result)
    (enqueued : s.enqueue event drop = (t, full)) (next : pc = .running ∨ pc = .blocked result) :
    Post.Moves (s.post log) ((t.goto pc).post log) := by
  obtain ⟨sending, excused, sent⟩ := post_enqueue log begun enqueued
  have move := Post.Move.guestSend (p := s.post log) here next excused
  rw [← sent] at move
  exact .single move

/-- A dial that ends on an open socket sets its error. -/
theorem posts_dialed {update : HostSocket → HostSocket} (started : ref < s.dials.size)
    (unclosed : (s.socks.get (s.dials.get ref).sock).closed = false)
    (views : ∀ value, (update value).inbox = { value.inbox with err := err }) :
    Post.Moves (s.post log) ((s.onSock (s.dials.get ref).sock update).post
      (log ++ [⟨(s.dials.get ref).sock, .dialed err⟩])) := by
  apply Relation.ReflTransGen.single
  have updated : (s.onSock (s.dials.get ref).sock update).post
      (log ++ [⟨(s.dials.get ref).sock, .dialed err⟩]) =
      ((s.post log).onBox (s.dials.get ref).sock fun box => { box with err := err }).record
        (s.dials.get ref).sock (.dialed err) := by
    simp only [post]
    rw [boxes_onSock (fun box => { box with err := err }) views]
    rfl
  rw [updated]
  exact Post.Move.dialed started rfl unclosed

theorem posts_dialFailed {err : NetError} (started : ref < s.dials.size)
    (unclosed : (s.socks.get (s.dials.get ref).sock).closed = false) :
    Post.Moves (s.post log) ((s.dialFailed ref err).post
      (log ++ [⟨(s.dials.get ref).sock, .dialed (some err)⟩])) := by
  simp only [dialFailed, unclosed, Bool.false_eq_true, if_false]
  rw [post_dialGoto]
  exact posts_dialed started unclosed fun _ => rfl

theorem posts_dialSucceeded {port : Nat} (started : ref < s.dials.size)
    (unclosed : (s.socks.get (s.dials.get ref).sock).closed = false) :
    Post.Moves (s.post log) ((s.dialSucceeded ref port).post
      (log ++ [⟨(s.dials.get ref).sock, .dialed none⟩])) := by
  simp only [dialSucceeded, unclosed, Bool.false_eq_true, if_false]
  rw [post_dialGoto]
  exact posts_dialed (s := s.allocConn _) started unclosed fun _ => rfl

theorem reader_get (ref : Nat) : (s.post log).readers.get ref =
    ((s.readers.get ref).sock, (s.readers.get ref).pc) := rfl

/-- A reader with nothing to announce goes on. -/
theorem posts_readerGoto {pc : ReaderPc} (started : ref < s.readers.size)
    (quiet : ∀ err, (s.readers.get ref).pc ≠ .pushEnqueue err) :
    Post.Moves (s.post log) ((s.readerGoto ref pc).post log) := by
  rw [post_readerGoto]
  exact .single (Post.Move.reader started quiet)

theorem posts_readerEnqueue {flags : Nat} {drop : Bool} {next : ReaderPc}
    (begun : s.shutdown ≠ .idle → s.done = true) (started : ref < s.readers.size)
    (here : (s.readers.get ref).pc.outbox (s.sid (s.readers.get ref).sock) =
      some (.io (s.sid (s.readers.get ref).sock) flags)) :
    Post.Moves (s.post log) ((s.readerEnqueue ref flags drop next).post log) := by
  have gone : ∀ after full pc, s.enqueue (.io (s.sid (s.readers.get ref).sock) flags) drop =
      (after, full) → Post.Moves (s.post log) ((after.readerGoto ref pc).post log) := by
    intro after full pc enqueued
    obtain ⟨sending, excused, sent⟩ := post_enqueue log begun enqueued
    rw [post_readerGoto, sent]
    exact .single (.readerSend started here excused)
  unfold readerEnqueue
  split
  next enqueued => exact gone _ _ _ enqueued
  next enqueued => exact gone _ _ _ enqueued

theorem posts_push {data : Bytes} {source : AddrPort} (started : ref < s.readers.size)
    (here : (s.readers.get ref).pc = .push data source err)
    (unclosed : (s.socks.get (s.readers.get ref).sock).closed = false) :
    Post.Moves (s.post log) (((s.push (s.readers.get ref).sock ⟨data, source⟩).readerGoto ref
      (.pushEnqueue err)).post (log ++ [⟨(s.readers.get ref).sock, .pushed ⟨data, source⟩⟩])) := by
  have place : (s.post log).readers.get ref =
      ((s.readers.get ref).sock, .push data source err) := by
    rw [reader_get, here]
  have pushed : ((s.push (s.readers.get ref).sock ⟨data, source⟩).readerGoto ref
      (.pushEnqueue err)).post (log ++ [⟨(s.readers.get ref).sock, .pushed ⟨data, source⟩⟩]) =
      ((((s.post log).onBox (s.readers.get ref).sock fun box =>
        { box with queue := box.queue ++ [⟨data, source⟩] }).observe
          (.queued (s.readers.get ref).sock)).readerGoto ref (.pushEnqueue err)).record
            (s.readers.get ref).sock (.pushed ⟨data, source⟩) := by
    rw [post_readerGoto]
    simp only [push, unclosed, Bool.false_eq_true, if_false, post, observe]
    rw [boxes_onSock (fun box =>
      { box with queue := box.queue ++ [⟨data, source⟩] }) fun _ => rfl]
    rfl
  rw [pushed]
  exact .single (Post.Move.push started place unclosed)

theorem posts_readError {err : NetError} (started : ref < s.readers.size)
    (here : (s.readers.get ref).pc = .readError err)
    (unclosed : (s.socks.get (s.readers.get ref).sock).closed = false) :
    Post.Moves (s.post log) (((s.readErrorLocked (s.readers.get ref).sock err).readerGoto ref
      .errorEnqueue).post (log ++ [⟨(s.readers.get ref).sock, .ended err⟩])) := by
  have place : (s.post log).readers.get ref = ((s.readers.get ref).sock, .readError err) := by
    rw [reader_get, here]
  have move := Post.Move.readError (p := s.post log) started place unclosed
  have ended : (s.readErrorLocked (s.readers.get ref).sock err).post
        (log ++ [⟨(s.readers.get ref).sock, .ended err⟩]) =
      ((s.post log).onBox (s.readers.get ref).sock fun box =>
        { box with err := if err = .netClosed ∨ err = .eof then box.err else some err }).record
          (s.readers.get ref).sock (.ended err) := by
    simp only [readErrorLocked, unclosed, Bool.false_or, Bool.or_eq_true, decide_eq_true_eq]
    split
    next ignored =>
      rw [Post.onBox, Heap.modify_eq_self _ _ _ rfl]
      rfl
    next recorded =>
      simp only [post]
      rw [boxes_onSock (fun box => { box with err := some err }) fun _ => rfl]
      rfl
  rw [post_readerGoto, ended]
  exact .single move

/-- Once it has begun, a shutdown changes nothing but sockets and entries. -/
theorem posts_further {conns : Heap Conn} {next : ShutdownPc} (before : s.shutdown ≠ .idle)
    (after : next ≠ .idle) :
    Post.Moves (s.post log) ({ s with conns := conns, shutdown := next }.post log) := by
  have same : { s with conns := conns, shutdown := next }.post log = s.post log := by
    simp only [post, decide_eq_true before, decide_eq_true after]
    rfl
  rw [same]

theorem posts_markClosed (sock : Nat) :
    Post.Moves (s.post log) ((s.markClosed sock).post log) := by
  have closed : (s.markClosed sock).post log =
      (s.post log).onBox sock fun box => { box with closed := true } := by
    simp only [post, markClosed]
    rw [boxes_onSock (fun box => { box with closed := true }) fun _ => rfl]
    rfl
  rw [closed]
  exact .single Post.Move.close

theorem posts_step {action : Action} (begun : s.shutdown ≠ .idle → s.done = true)
    (stepped : s.step action = some t) :
    Post.Moves (s.post log) (t.post (log ++ (s.note action).toList)) := by
  have silent (quiet : s.note action = none) (moves : Post.Moves (s.post log) (t.post log)) :
      Post.Moves (s.post log) (t.post (log ++ (s.note action).toList)) := by
    rw [quiet, Option.toList_none, List.append_nil]
    exact moves
  have noted {note : Note} (told : s.note action = some note)
      (moves : Post.Moves (s.post log) (t.post (log ++ [note]))) :
      Post.Moves (s.post log) (t.post (log ++ (s.note action).toList)) := by
    rw [told, Option.toList_some]
    exact moves
  have unsaid : ∀ pc : GuestPc, pc.outbox = none → ∀ event, pc.outbox = some event →
      ∃ id, event = .io id ioWrite := by
    intro pc free event outbox
    rw [free] at outbox
    cases outbox
  cases moved_of_step stepped with
  | enter here | leave here =>
      exact silent rfl (posts_goto .refl (by rw [here]; rfl) (unsaid _ rfl) rfl)
  | dispatch here queue =>
      exact silent rfl (.single (Post.Move.dispatch (p := s.post log) here queue))
  | compute => exact silent rfl .refl
  | call here => exact silent rfl (posts_entered (by rw [here]; rfl) (s.entered_call _))
  | openSocket here =>
      exact silent (by simp [note, here]) (posts_sockOpen (by rw [here]; rfl) _ _)
  | lookup here => exact silent (by simp [note, here]) (posts_lookupSock (by rw [here]; rfl) _)
  | delete here => exact silent (by simp [note, here]) (posts_sockDelete (by rw [here]; rfl))
  | holding here => exact posts_onHolding here _
  | listen here =>
      exact silent (by simp [note, here])
        (posts_sockSendListen (by rw [here]; rfl) (by rw [here]; rfl) _ _ _)
  | writeUdp here | writeTcp here =>
      exact silent (by simp [note, here]) (posts_ret .refl (by rw [observe, here]; rfl))
  | sent here enqueued =>
      exact silent (by simp [note, here]) (posts_guestEnqueue begun here enqueued (.inl rfl))
  | stuck here enqueued =>
      exact silent (by simp [note, here]) (posts_guestEnqueue begun here enqueued (.inr rfl))
  | released here | closed here =>
      exact silent (by simp [note, here]) (posts_ret .refl (by rw [here]; rfl))
  | close here =>
      exact silent (by simp [note, here]) (posts_goto (posts_markClosed _)
        (by rw [markClosed, onSock, here]; rfl) (unsaid _ rfl) rfl)
  | closeConn here =>
      exact silent (by simp [note, here])
        (posts_goto .refl (by rw [State.closeConn, here]; rfl) (unsaid _ rfl) rfl)
  | @dialFailed ref _ _ started here failed =>
      cases closed : (s.socks.get (s.dials.get ref).sock).closed with
      | true =>
          apply silent (by simp [note, here, closed])
          simp only [State.dialFailed, closed, if_true]
          rw [post_dialGoto]
      | false =>
          exact noted (by simp [note, here, closed, failed]) (posts_dialFailed started closed)
  | @dialSucceeded ref _ started here succeeded =>
      cases closed : (s.socks.get (s.dials.get ref).sock).closed with
      | true =>
          apply silent (by simp [note, here, closed])
          simp only [State.dialSucceeded, closed, if_true]
          rw [post_dialGoto]
          exact .refl
      | false =>
          exact noted (by simp [note, here, closed, succeeded])
            (posts_dialSucceeded started closed)
  | dialClose _ here =>
      apply silent (by simp [note, here])
      rw [post_dialGoto]
      exact .refl
  | dialEnqueue _ here enqueued =>
      obtain ⟨sending, excused, sent⟩ := post_enqueue log begun enqueued
      apply silent (by simp [note, here])
      rw [post_dialGoto, sent]
      exact .single (.dialSend excused)
  | dialSpawn started here =>
      apply silent (by simp [note, here])
      rw [post_dialGoto]
      exact posts_startReader .refl (.inr ⟨_, started, rfl⟩)
  | dialWoken _ here =>
      apply silent (by simp [note, here])
      rw [post_dialGoto]
  | read started here | source started here | readerWoken started here =>
      exact silent (by simp [note, here]) (posts_readerGoto started (by simp [here]))
  | @push ref _ _ _ _ _ started here =>
      cases closed : (s.socks.get (s.readers.get ref).sock).closed with
      | true =>
          apply silent (by simp [note, here, closed])
          simp only [State.push, closed, if_true]
          exact posts_readerGoto started (by simp [here])
      | false => exact noted (by simp [note, here, closed]) (posts_push started here closed)
  | @readError ref _ _ _ started here =>
      by_cases closed : (s.socks.get (s.readers.get ref).sock).closed = true
      · apply silent (by simp [note, here, closed])
        simp only [readErrorLocked, closed, Bool.true_or, if_true]
        exact posts_readerGoto started (by simp [here])
      · have closed := (Bool.not_eq_true _).mp closed
        apply noted (by simp [note, here, closed]; rfl)
        simp only [closed, Bool.false_eq_true, if_false]
        exact posts_readError started here closed
  | pushEnqueue started here | errorEnqueue started here =>
      exact silent (by simp [note, here])
        (posts_readerEnqueue begun started (by rw [here]; rfl))
  | shutdown here =>
      have begins : (s.startShutdown none).post log =
          { s.post log with begun := true, done := true } := by
        simp only [startShutdown, here, post]
        rfl
      apply silent rfl
      rw [begins]
      exact .single Post.Move.begin
  | timers here | sockets here | visited here | sweep here =>
      exact silent rfl (posts_further (by simp [here]) (by simp))
  | finish here =>
      have finished : Post.Moves (s.post log) ({ s with shutdown := .finished }.post log) :=
        posts_further (by simp [here]) (by simp)
      apply silent rfl
      exact finished.tail (Post.Move.forget fun id sock impossible => by cases impossible)
  | visit here =>
      apply silent rfl
      exact (posts_markClosed _).trans
        (posts_further (by simp [markClosed, onSock, here]) (by simp))

theorem proper_initial : (initial.post []).Proper where
  entry := fun id sock found => by simp [post, socket, initial] at found
  holding := fun id sock op impossible => by cases impossible
  guest := fun sock impossible => by cases impossible
  readers := fun ref started => absurd started (Nat.not_lt_zero ref)
  dials := fun ref started => absurd started (Nat.not_lt_zero ref)
  log := fun note member => by cases member
  begun := fun impossible => by cases impossible

end State

/-- What holds of the initial post and is kept by every move holds in every run. -/
theorem post_invariant {holds : Post → Prop} {allowed : State × List Note → Action → Prop}
    {s : State} {log : List Note} (start : holds (State.initial.post []))
    (kept : ∀ p q, p.Proper → holds p → p.Move q → holds q)
    (reaches : receiving.Reaches allowed receiving.initial (s, log)) :
    (s.post log).Proper ∧ holds (s.post log) := by
  have moved : ∀ p q, p.Proper ∧ holds p → p.Move q → q.Proper ∧ holds q := by
    rintro p q ⟨proper, held⟩ move
    exact ⟨proper.move move, kept p q proper held move⟩
  apply Machine.Reaches.simulation (fun state : State × List Note => state.1.post state.2)
    (fun p => p.Proper ∧ holds p) moved _ reaches ⟨State.proper_initial, start⟩
  rintro ⟨before, old⟩ action ⟨after, more⟩ ⟨proper, -⟩ _ stepped
  obtain ⟨advanced, rfl⟩ := Machine.step_of_logged stepped
  exact State.posts_step (fun started => proper.begun (by simpa [State.post] using started))
    advanced

end UnboundWasm.Host.Sockets
