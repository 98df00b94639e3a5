import UnboundWasm.Host.Sockets.Inbox

/-!
# What the guest receives

One queue and one import serve streams and datagrams.  A stream is handed over
chunk by chunk, a datagram at once and cut to the caller's buffer, and neither is
mixed up with what other goroutines push meanwhile.  This holds as long as the
buffers the guest passes lie in its memory: a packet is taken out of the queue
before it is copied.
-/

namespace UnboundWasm.Host.Sockets

open UnboundWasm.Lib

/-! ## The buffers of a receive -/

/-- The buffers of a `sock_recv` or `sock_recv_from` lie in guest memory. -/
def inRange (memory : Memory) (ptr capacity : Nat) : Option (Nat × Nat) → Bool
  | none => ptr + capacity ≤ memory.size
  | some (ipOut, portOut) =>
      ptr + capacity ≤ memory.size && ipOut + 16 ≤ memory.size && portOut + 4 ≤ memory.size

/-- The sixteen bytes `writeAddr` writes. -/
def addrBytes (addr : Addr) : Bytes :=
  if addr.is4 then addr.as4 ++ List.replicate 12 0 else addr.as16

theorem writeAddr_eq (memory : Memory) (ptr : Nat) (addr : Addr) :
    writeAddr memory ptr addr = memory.write ptr (addrBytes addr) := by
  unfold writeAddr addrBytes
  split <;> rfl

theorem length_addrBytes (addr : Addr) : (addrBytes addr).length = 16 := by
  cases addr <;> simp [addrBytes, Addr.is4, Addr.as4, Addr.as16]

theorem length_takePacket {typ : SockType} {capacity : Nat} {queue rest : List ReceivedPacket}
    {chunk : ReceivedPacket} (taken : State.takePacket typ capacity queue = some (chunk, rest)) :
    chunk.data.length ≤ capacity := by
  cases queue with
  | nil => cases taken
  | cons packet others =>
      simp only [State.takePacket] at taken
      split at taken
      all_goals
        cases taken
        exact List.length_take_le _ _

/-- What the guest finds in its buffers, provided they do not overlap. -/
structure Handed (memory : Memory) (ptr : Nat) (fromOut : Option (Nat × Nat))
    (chunk : ReceivedPacket) : Prop where
  data : (∀ ipOut portOut, fromOut = some (ipOut, portOut) →
      Memory.Apart ptr chunk.data.length ipOut 16 ∧
        Memory.Apart ptr chunk.data.length portOut 4) →
    memory.read ptr chunk.data.length = some chunk.data
  addr : ∀ ipOut portOut, fromOut = some (ipOut, portOut) → Memory.Apart ipOut 16 portOut 4 →
    memory.read ipOut 16 = some (addrBytes chunk.source.addr)
  port : ∀ ipOut portOut, fromOut = some (ipOut, portOut) →
    memory.read portOut 4 = some (wordBytes chunk.source.port)

/-- A copy to buffers in range succeeds and leaves the packet there. -/
theorem handed_of_inRange {memory : Memory} {ptr capacity : Nat} {fromOut : Option (Nat × Nat)}
    {chunk : ReceivedPacket} (fits : chunk.data.length ≤ capacity)
    (inside : inRange memory ptr capacity fromOut = true) :
    ∃ after, State.deliver memory ptr fromOut chunk = (after, true) ∧
      Handed after ptr fromOut chunk := by
  cases fromOut with
  | none =>
      simp only [inRange, decide_eq_true_eq] at inside
      obtain ⟨filled, copied⟩ : ∃ filled, memory.write ptr chunk.data = some filled :=
        Memory.write_isSome (by omega)
      refine ⟨filled, by simp only [State.deliver, copied], ?_⟩
      constructor
      case data => exact fun _ => Memory.read_write copied
      case addr => exact fun _ _ impossible => by cases impossible
      case port => exact fun _ _ impossible => by cases impossible
  | some out =>
      obtain ⟨ipOut, portOut⟩ := out
      simp only [inRange, Bool.and_eq_true, decide_eq_true_eq] at inside
      obtain ⟨filled, copied⟩ : ∃ filled, memory.write ptr chunk.data = some filled :=
        Memory.write_isSome (by omega)
      have length := length_addrBytes chunk.source.addr
      obtain ⟨addressed, named⟩ : ∃ addressed,
          filled.write ipOut (addrBytes chunk.source.addr) = some addressed :=
        Memory.write_isSome (by rw [Memory.size_of_write copied, length]; omega)
      obtain ⟨complete, numbered⟩ : ∃ complete,
          addressed.write portOut (wordBytes chunk.source.port) = some complete :=
        Memory.write_isSome (by
          rw [Memory.size_of_write named, Memory.size_of_write copied, length_wordBytes]
          omega)
      refine ⟨complete,
        by simp only [State.deliver, copied, writeAddr_eq, named, putU32, numbered], ?_⟩
      constructor
      case data =>
        intro apart
        obtain ⟨fromAddr, fromPort⟩ := apart ipOut portOut rfl
        rw [Memory.read_write_of_disjoint numbered (by rw [length_wordBytes]; exact fromPort),
          Memory.read_write_of_disjoint named (by rw [length]; exact fromAddr)]
        exact Memory.read_write copied
      case addr =>
        rintro _ _ ⟨⟩ apart
        rw [Memory.read_write_of_disjoint numbered (by rw [length_wordBytes]; exact apart),
          ← length]
        exact Memory.read_write named
      case port =>
        rintro _ _ ⟨⟩
        have readBack := Memory.read_write numbered
        rw [length_wordBytes] at readBack
        exact readBack

/-! ## Fidelity -/

/-- The packets pushed to a socket, oldest first. -/
def pushedTo (sock : Nat) (log : List Note) : List ReceivedPacket :=
  log.filterMap fun note =>
    match note.receipt with
    | .pushed packet => if note.sock = sock then some packet else none
    | _ => none

/-- The packets handed out by a socket with the capacities they were asked for with,
oldest first. -/
def takenFrom (sock : Nat) (log : List Note) : List (Nat × ReceivedPacket) :=
  log.filterMap fun note =>
    match note.receipt with
    | .took capacity chunk => if note.sock = sock then some (capacity, chunk) else none
    | _ => none

/-- What a `sock_recv` with a capacity makes of a datagram. -/
def Cut (packet : ReceivedPacket) (taken : Nat × ReceivedPacket) : Prop :=
  taken.2.data = packet.data.take (min taken.1 packet.data.length) ∧
    taken.2.source = packet.source

/-- A queue is what was pushed and not handed out yet. -/
structure Fidelity (typ : SockType) (queue pushed : List ReceivedPacket)
    (taken : List (Nat × ReceivedPacket)) : Prop where
  stream : typ = .tcp → (taken.flatMap fun chunk => chunk.2.data) ++
    queue.flatMap ReceivedPacket.data = pushed.flatMap ReceivedPacket.data
  datagrams : typ = .udp → ∃ consumed, pushed = consumed ++ queue ∧
    List.Forall₂ Cut consumed taken

namespace Fidelity

variable {typ : SockType} {queue pushed rest : List ReceivedPacket}
  {taken : List (Nat × ReceivedPacket)} {chunk : ReceivedPacket} {capacity : Nat}

theorem new (typ : SockType) : Fidelity typ [] [] [] where
  stream := fun _ => rfl
  datagrams := fun _ => ⟨[], rfl, .nil⟩

theorem push (fidelity : Fidelity typ queue pushed taken) (packet : ReceivedPacket) :
    Fidelity typ (queue ++ [packet]) (pushed ++ [packet]) taken := by
  constructor
  case stream =>
    intro tcp
    rw [List.flatMap_append, List.flatMap_append, ← List.append_assoc, fidelity.stream tcp]
  case datagrams =>
    intro udp
    obtain ⟨consumed, split, cut⟩ := fidelity.datagrams udp
    exact ⟨consumed, by rw [split, List.append_assoc], cut⟩

theorem take (fidelity : Fidelity typ queue pushed taken)
    (removed : State.takePacket typ capacity queue = some (chunk, rest)) :
    Fidelity typ rest pushed (taken ++ [(capacity, chunk)]) := by
  cases queue with
  | nil => cases removed
  | cons packet others =>
      simp only [State.takePacket] at removed
      constructor
      case stream =>
        intro tcp
        rw [List.flatMap_append, List.append_assoc, ← fidelity.stream tcp]
        congr 1
        split at removed
        next whole =>
          cases removed
          have fits : packet.data.length ≤ capacity := by
            rcases whole with fits | udp
            · exact fits
            · rw [tcp] at udp
              cases udp
          simp [List.take_of_length_le fits]
        next part =>
          cases removed
          simp [← List.append_assoc]
      case datagrams =>
        intro udp
        obtain ⟨consumed, split, cut⟩ := fidelity.datagrams udp
        rw [if_pos (.inr udp)] at removed
        cases removed
        refine ⟨consumed ++ [packet], by rw [split, List.append_assoc]; rfl, ?_⟩
        apply List.rel_append cut
        refine .cons ⟨?_, rfl⟩ .nil
        simp

end Fidelity

/-- Nothing was lost on the socket, so its queue is faithful. -/
def Post.Faithful (p : Post) : Prop :=
  ∀ sock < p.boxes.size, ⟨sock, .lost⟩ ∉ p.log → Fidelity (p.boxes.get sock).typ
    (p.boxes.get sock).queue (pushedTo sock p.log) (takenFrom sock p.log)

namespace Post

variable {p q : Post}

namespace Faithful

theorem of_eq (faithful : p.Faithful) (boxes : q.boxes = p.boxes) (log : q.log = p.log) :
    q.Faithful := by
  unfold Faithful
  rw [boxes, log]
  exact faithful

/-- An update that leaves the queue alone changes nothing. -/
theorem onBox {sock : Nat} {change : Inbox → Inbox} (faithful : p.Faithful)
    (kept : ∀ box, (change box).typ = box.typ ∧ (change box).queue = box.queue) :
    (p.onBox sock change).Faithful := by
  intro other inside unharmed
  have typ : ((p.boxes.modify sock change).get other).typ = (p.boxes.get other).typ :=
    Heap.get_modify_frame p.boxes sock other change Inbox.typ fun box => (kept box).1
  have queue : ((p.boxes.modify sock change).get other).queue = (p.boxes.get other).queue :=
    Heap.get_modify_frame p.boxes sock other change Inbox.queue fun box => (kept box).2
  have same := faithful other inside unharmed
  rw [← typ, ← queue] at same
  exact same

/-- Nor does a receipt about anything but packets. -/
theorem record {sock : Nat} {receipt : Receipt} (faithful : p.Faithful)
    (silent : ∀ other, pushedTo other [⟨sock, receipt⟩] = [] ∧
      takenFrom other [⟨sock, receipt⟩] = []) : (p.record sock receipt).Faithful := by
  intro other inside unharmed
  have pushed : pushedTo other (p.log ++ [⟨sock, receipt⟩]) = pushedTo other p.log := by
    rw [pushedTo, List.filterMap_append]
    exact (congrArg _ (silent other).1).trans (List.append_nil _)
  have taken : takenFrom other (p.log ++ [⟨sock, receipt⟩]) = takenFrom other p.log := by
    rw [takenFrom, List.filterMap_append]
    exact (congrArg _ (silent other).2).trans (List.append_nil _)
  have same := faithful other inside fun lost => unharmed (List.mem_append_left _ lost)
  rw [← pushed, ← taken] at same
  exact same

/-- A packet goes into or out of one queue, with a receipt for it. -/
theorem change {sock : Nat} {receipt : Receipt} {queue : List ReceivedPacket}
    (faithful : p.Faithful)
    (boxes : q.boxes = p.boxes.modify sock fun box => { box with queue := queue })
    (log : q.log = p.log ++ [⟨sock, receipt⟩])
    (kept : receipt ≠ .lost → ∀ pushed taken,
      Fidelity (p.boxes.get sock).typ (p.boxes.get sock).queue pushed taken →
      Fidelity (p.boxes.get sock).typ queue (pushed ++ pushedTo sock [⟨sock, receipt⟩])
        (taken ++ takenFrom sock [⟨sock, receipt⟩])) : q.Faithful := by
  intro other inside unharmed
  rw [boxes] at inside ⊢
  rw [log] at unharmed ⊢
  have before := faithful other inside fun lost => unharmed (List.mem_append_left _ lost)
  by_cases here : other = sock
  · rw [here] at before ⊢
    rw [Heap.get_modify_self, pushedTo, takenFrom, List.filterMap_append, List.filterMap_append]
    apply kept _ _ _ before
    intro lost
    rw [lost, here] at unharmed
    exact unharmed (List.mem_append_right _ (List.mem_singleton.mpr rfl))
  · have elsewhere : ¬ sock = other := fun same => here same.symm
    have pushed : pushedTo other [⟨sock, receipt⟩] = [] := by
      cases receipt <;> simp [pushedTo, elsewhere]
    have taken : takenFrom other [⟨sock, receipt⟩] = [] := by
      cases receipt <;> simp [takenFrom, elsewhere]
    rw [Heap.get_modify, if_neg here, pushedTo, takenFrom, List.filterMap_append,
      List.filterMap_append]
    rw [pushedTo] at pushed
    rw [takenFrom] at taken
    rw [pushed, taken, List.append_nil, List.append_nil]
    exact before

theorem opened {box : Inbox} {entry : Int → Option Nat} (faithful : p.Faithful) (proper : p.Proper)
    (empty : box.queue = []) :
    { p with boxes := p.boxes.alloc box, entry := entry }.Faithful := by
  intro sock inside unharmed
  rcases Heap.eq_or_lt_of_alloc inside with new | old
  · -- Nothing has been recorded about a socket that did not exist.
    subst new
    have absent : ∀ note ∈ p.log, note.sock ≠ p.boxes.size :=
      fun note member => Nat.ne_of_lt (proper.log note member)
    have pushed : pushedTo p.boxes.size p.log = [] := by
      apply List.filterMap_eq_nil_iff.mpr
      intro note member
      cases note.receipt <;> simp [absent note member]
    have taken : takenFrom p.boxes.size p.log = [] := by
      apply List.filterMap_eq_nil_iff.mpr
      intro note member
      cases note.receipt <;> simp [absent note member]
    simp only [Heap.get_alloc_size, empty, pushed, taken]
    exact Fidelity.new _
  · simp only [Heap.get_alloc_of_lt _ _ _ old]
    exact faithful sock old unharmed

theorem move (faithful : p.Faithful) (proper : p.Proper) (move : p.Move q) : q.Faithful := by
  cases move with
  | guest | forget | dispatch | begin | reader | start | dial => exact faithful.of_eq rfl rfl
  | guestSend | dialSend => exact faithful.of_eq (boxes_send ..) (log_send ..)
  | readerSend => exact faithful.of_eq (boxes_send ..) (log_send ..)
  | opened known => exact faithful.opened proper rfl
  | @push ref sock packet err started here unclosed =>
      apply faithful.change rfl rfl
      intro _ pushed taken fidelity
      have more := fidelity.push packet
      simpa [pushedTo, takenFrom] using more
  | @take id sock ptr capacity fromOut chunk rest here taken =>
      apply faithful.change rfl rfl
      intro _ pushed before fidelity
      have more := fidelity.take taken
      simpa [pushedTo, takenFrom] using more
  | lose here taken =>
      apply faithful.change rfl rfl
      intro unlost
      exact absurd rfl unlost
  | drain | ask | readError | dialed =>
      apply Faithful.record
      · apply faithful.onBox
        exact fun _ => ⟨rfl, rfl⟩
      · exact fun _ => ⟨rfl, rfl⟩
  | close =>
      apply faithful.onBox
      exact fun _ => ⟨rfl, rfl⟩

end Faithful

end Post

/-! ## Runs -/

namespace State

variable {s : State}

/-- A `sock_recv` that is about to enter its section has its buffers in range. -/
def recvInRange (s : State) : Bool :=
  match s.guest with
  | .holding _ _ (.recv ptr capacity fromOut) => inRange s.memory ptr capacity fromOut
  | _ => true

/-- Such a `sock_recv` loses nothing. -/
theorem recvReceipt_of_inRange {sock ptr capacity : Nat} {fromOut : Option (Nat × Nat)}
    (inside : inRange s.memory ptr capacity fromOut = true) :
    s.recvReceipt sock ptr capacity fromOut ≠ .lost := by
  unfold recvReceipt
  split
  next => simp
  next chunk _ taken =>
    obtain ⟨after, delivered, -⟩ := handed_of_inRange (length_takePacket taken) inside
    simp [delivered]

theorem note_of_inRange {action : Action} {note : Note} (inside : s.recvInRange = true)
    (noted : s.note action = some note) : note.receipt ≠ .lost := by
  cases action with
  | guest reply =>
      simp only [State.note] at noted
      split at noted
      next id sock ptr capacity fromOut here =>
        cases noted
        simp only [recvInRange, here] at inside
        exact recvReceipt_of_inRange inside
      next =>
        cases noted
        simp
      next => cases noted
  | reader ref input drop =>
      simp only [State.note] at noted
      split at noted
      all_goals cases noted
      all_goals simp
  | dial ref reply =>
      simp only [State.note] at noted
      split at noted
      all_goals cases noted
      simp
  | enter | dispatch | leave | compute | call | shutdown => cases noted

/-- The result of an import that has one: it has returned, or is about to after it
has announced what is left. -/
def Results (s : State) (id result : Int) : Prop :=
  s.guest = .running ∧ s.returned = result ∨ s.guest = .enqueue (.io id ioRead) result

/-- A `sock_recv` in range either hands over a packet or fails. -/
theorem sockRecvLocked_of_inRange {id : Int} {sock ptr capacity : Nat}
    {fromOut : Option (Nat × Nat)} (inside : inRange s.memory ptr capacity fromOut = true) :
    (∃ chunk, s.recvReceipt sock ptr capacity fromOut = .took capacity chunk ∧
      Handed (s.sockRecvLocked id sock ptr capacity fromOut).memory ptr fromOut chunk ∧
      (s.sockRecvLocked id sock ptr capacity fromOut).Results id chunk.data.length) ∨
    ∃ err, s.recvReceipt sock ptr capacity fromOut = .drained err ∧
      ∃ result < 0, (s.sockRecvLocked id sock ptr capacity fromOut).Results id result := by
  cases taken : takePacket (s.socks.get sock).typ capacity (s.socks.get sock).queue with
  | none =>
      right
      simp only [recvReceipt, sockRecvLocked, taken]
      refine ⟨_, rfl, ?_⟩
      split
      next err _ =>
        have positive : 0 < wasiErrno err := wasiSuccess_lt_wasiErrno err
        exact ⟨-wasiErrno err, by omega, .inl ⟨rfl, rfl⟩⟩
      next => exact ⟨-wasiEAGAIN, by decide, .inl ⟨rfl, rfl⟩⟩
  | some packet =>
      obtain ⟨chunk, rest⟩ := packet
      obtain ⟨after, delivered, handed⟩ := handed_of_inRange (length_takePacket taken) inside
      left
      simp only [recvReceipt, sockRecvLocked, taken, delivered]
      refine ⟨chunk, rfl, ?_⟩
      split
      · exact ⟨handed, .inl ⟨rfl, rfl⟩⟩
      · exact ⟨handed, .inr rfl⟩

end State

/-- Runs in which every `sock_recv` has its buffers in range. -/
def RecvsInRange (state : State × List Note) (_ : Action) : Prop :=
  state.1.recvInRange = true

instance (state : State × List Note) (action : Action) : Decidable (RecvsInRange state action) :=
  inferInstanceAs (Decidable (_ = true))

theorem not_lost {s : State} {log : List Note}
    (reaches : receiving.Reaches RecvsInRange receiving.initial (s, log)) :
    ∀ note ∈ log, note.receipt ≠ .lost := by
  have kept : ∀ (before : State) (old : List Note) (action : Action) (after : State),
      (∀ note ∈ old, note.receipt ≠ .lost) → RecvsInRange (before, old) action →
      machine.step before action = some after →
      ∀ note ∈ old ++ (before.note action).toList, note.receipt ≠ .lost := by
    intro before old action after held inside _ note member
    rcases List.mem_append.mp member with earlier | now
    · exact held note earlier
    · exact State.note_of_inRange inside (Option.mem_toList.mp now)
  have carried := Machine.Reaches.invariant_logged kept reaches (by simp)
  exact carried

/-- What the guest receives is what was pushed. A stream is handed out in order with
the rest still queued; the k-th datagram received is the beginning of the k-th pushed,
with its own source; and a `sock_recv` either puts such a chunk into the guest's buffers
and returns its length, or fails. -/
theorem receive_fidelity {s : State} {log : List Note} {sock : Nat}
    (reaches : receiving.Reaches RecvsInRange receiving.initial (s, log))
    (inside : sock < s.socks.size) :
    ((s.socks.get sock).typ = .tcp →
      ((takenFrom sock log).flatMap fun taken => taken.2.data) ++
        (s.socks.get sock).queue.flatMap ReceivedPacket.data =
          (pushedTo sock log).flatMap ReceivedPacket.data) ∧
    ((s.socks.get sock).typ = .udp →
      (s.socks.get sock).queue = (pushedTo sock log).drop (takenFrom sock log).length ∧
      ∀ (k capacity : Nat) (chunk : ReceivedPacket),
        (takenFrom sock log)[k]? = some (capacity, chunk) →
        ∃ packet, (pushedTo sock log)[k]? = some packet ∧
          chunk.data = packet.data.take (min capacity packet.data.length) ∧
          chunk.source = packet.source) ∧
    ∀ id ptr capacity fromOut reply after more,
      s.guest = .holding id sock (.recv ptr capacity fromOut) → s.recvInRange = true →
      receiving.step (s, log) (.guest reply) = some (after, more) →
        (∃ chunk, more = log ++ [⟨sock, .took capacity chunk⟩] ∧
          Handed after.memory ptr fromOut chunk ∧ after.Results id chunk.data.length) ∨
        ∃ err, more = log ++ [⟨sock, .drained err⟩] ∧ ∃ result < 0, after.Results id result := by
  have faithful : (s.post log).Faithful := by
    have start : (State.initial.post []).Faithful := by
      intro other impossible
      exact absurd impossible (Nat.not_lt_zero other)
    exact (post_invariant start (fun _ _ proper held move => held.move proper move) reaches).2
  have fidelity : Fidelity (s.socks.get sock).typ (s.socks.get sock).queue (pushedTo sock log)
      (takenFrom sock log) := faithful sock inside fun lost => not_lost reaches _ lost rfl
  refine ⟨fidelity.stream, ?_, ?_⟩
  · intro udp
    obtain ⟨consumed, pushed, cut⟩ := fidelity.datagrams udp
    have length : consumed.length = (takenFrom sock log).length := cut.length_eq
    refine ⟨by rw [pushed, ← length, List.drop_left], ?_⟩
    intro k capacity chunk taken
    obtain ⟨bound, chosen⟩ := List.getElem?_eq_some_iff.mp taken
    have matched := cut.get (length ▸ bound) bound
    refine ⟨consumed[k], ?_, ?_⟩
    · rw [pushed, List.getElem?_append_left (length ▸ bound)]
      exact List.getElem?_eq_getElem _
    · rw [List.get_eq_getElem, List.get_eq_getElem, chosen] at matched
      exact matched
  · intro id ptr capacity fromOut reply after more here within stepped
    obtain ⟨advanced, rfl⟩ := Machine.step_of_logged stepped
    have result : after = s.sockRecvLocked id sock ptr capacity fromOut := by
      change s.guestStep reply = some after at advanced
      simp only [State.guestStep, here, Option.some.injEq] at advanced
      exact advanced.symm
    simp only [State.recvInRange, here] at within
    simp only [State.note, here, Option.toList_some, result]
    rcases State.sockRecvLocked_of_inRange within with ⟨chunk, receipt, rest⟩ | ⟨err, receipt, rest⟩
    · exact .inl ⟨chunk, by rw [receipt], rest⟩
    · exact .inr ⟨err, by rw [receipt], rest⟩

/-- Two datagrams arrive at a bound UDP socket, and the guest receives the first one
with a buffer of two bytes. -/
def receiveFirst : List Action :=
  [.enter, .compute ⟨64, fun _ => 0⟩, .call (.sockOpen 4 1), .guest {},
   .call (.sockBind 1 0), .guest {}, .guest {},
   .reader 0 ⟨[1, 2, 3], ⟨.v4 (ip4 8 8 8 8), 53⟩, none⟩ false, .reader 0 ⟨[], .zero, none⟩ false,
   .reader 0 ⟨[], .zero, none⟩ false,
   .reader 0 ⟨[4], ⟨.v4 (ip4 9 9 9 9), 53⟩, none⟩ false, .reader 0 ⟨[], .zero, none⟩ false,
   .call (.sockRecvFrom 1 0 2 16 32), .guest {}, .guest {}]

theorem receive_fidelity_receiveFirst :
    ∃ s log, receiving.runWhen RecvsInRange receiving.initial receiveFirst = some (s, log) ∧
      0 < s.socks.size ∧ (s.socks.get 0).typ = .udp ∧
      takenFrom 0 log = [(2, ⟨[1, 2], ⟨.v4 (ip4 8 8 8 8), 53⟩⟩)] ∧
      (s.socks.get 0).queue = (pushedTo 0 log).drop 1 := by
  obtain ⟨s, log, ran, inside, udp, taken⟩ : ∃ s log,
      receiving.runWhen RecvsInRange receiving.initial receiveFirst = some (s, log) ∧
      0 < s.socks.size ∧ (s.socks.get 0).typ = .udp ∧
      takenFrom 0 log = [(2, ⟨[1, 2], ⟨.v4 (ip4 8 8 8 8), 53⟩⟩)] :=
    ⟨_, _, rfl, by decide, rfl, rfl⟩
  have fidelity := receive_fidelity (Machine.reaches_of_runWhen ran) inside
  have rest := (fidelity.2.1 udp).1
  rw [taken] at rest
  exact ⟨s, log, ran, inside, udp, taken, rest⟩

end UnboundWasm.Host.Sockets
