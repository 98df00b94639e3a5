import UnboundWasm.Host.Sockets.Receive

/-!
# No wakeup is lost

The queue of a socket and the channel that announces it are updated in separate
sections, so a queue that is not empty may be unannounced for a while: until the
reader that filled it, or the `sock_recv` that left something in it, gets to its
enqueue.  Once nobody stands in between, an event enqueued after the last update is
in the channel or has gone to the guest.
-/

namespace UnboundWasm.Host.Sockets

open UnboundWasm.Lib

/-- The events that entered the channel, oldest first. -/
def enqueuedIn (trace : List Obs) : List HostEvent :=
  trace.reverse.filterMap fun
    | .enqueued event => some event
    | _ => none

/-- The events that left the channel, oldest first. -/
def dispatchedIn (trace : List Obs) : List HostEvent :=
  trace.reverse.filterMap fun
    | .dispatched event => some event
    | _ => none

theorem enqueuedIn_filter (trace : List Obs) :
    enqueuedIn (trace.filter Obs.isTraffic) = enqueuedIn trace := by
  rw [enqueuedIn, ← List.filter_reverse, List.filterMap_filter]
  apply List.filterMap_congr
  intro obs _
  cases obs <;> rfl

theorem dispatchedIn_filter (trace : List Obs) :
    dispatchedIn (trace.filter Obs.isTraffic) = dispatchedIn trace := by
  rw [dispatchedIn, ← List.filter_reverse, List.filterMap_filter]
  apply List.filterMap_congr
  intro obs _
  cases obs <;> rfl

/-- An event was enqueued after the last update of a socket's queue. -/
def Announced (sock : Nat) (event : HostEvent) (trace : List Obs) : Prop :=
  ∃ newer older, trace = newer ++ .enqueued event :: older ∧ .queued sock ∉ newer

theorem Announced.cons {sock : Nat} {event : HostEvent} {trace : List Obs} {obs : Obs}
    (announced : Announced sock event trace) (other : obs ≠ .queued sock) :
    Announced sock event (obs :: trace) := by
  obtain ⟨newer, older, split, unchanged⟩ := announced
  refine ⟨obs :: newer, older, by rw [split]; rfl, ?_⟩
  intro member
  rcases List.mem_cons.mp member with same | later
  · exact other same.symm
  · exact unchanged later

namespace Post

variable {p q : Post}

/-- The event that announces a socket's queue. -/
def wakeup (p : Post) (sock : Nat) : HostEvent := .io (p.boxes.get sock).id ioRead

/-- The queue has been announced, or it is too late for that. -/
def Told (p : Post) (sock : Nat) : Prop :=
  p.done = true ∨ Announced sock (p.wakeup sock) p.traffic

/-- Why a queue that is not empty need not worry anybody: it has been announced, or
somebody is about to. -/
inductive Woken (p : Post) (sock : Nat) : Prop where
  | told (told : p.Told sock)
  | reader {ref : Nat} {err : Option NetError} (started : ref < p.readers.size)
      (here : p.readers.get ref = (sock, .pushEnqueue err))
  | guest {result : Int} (here : p.guest = .enqueue (p.wakeup sock) result)

/-- A socket that lost nothing and has something to hand out. -/
structure Pending (p : Post) (sock : Nat) : Prop where
  inside : sock < p.boxes.size
  waiting : (p.boxes.get sock).queue ≠ []
  unharmed : ⟨sock, .lost⟩ ∉ p.log

theorem Pending.of_onBox {sock other : Nat} {change : Inbox → Inbox}
    (pending : (p.onBox sock change).Pending other) (kept : ∀ box, (change box).queue = box.queue) :
    p.Pending other := by
  refine ⟨pending.inside, ?_, pending.unharmed⟩
  have same : ((p.boxes.modify sock change).get other).queue = (p.boxes.get other).queue :=
    Heap.get_modify_frame p.boxes sock other change Inbox.queue kept
  rw [← same]
  exact pending.waiting

theorem Pending.of_record {sock other : Nat} {receipt : Receipt}
    (pending : (p.record sock receipt).Pending other) : p.Pending other :=
  ⟨pending.inside, pending.waiting, fun lost => pending.unharmed (List.mem_append_left _ lost)⟩

theorem id_onBox {sock other : Nat} {change : Inbox → Inbox}
    (kept : ∀ box, (change box).id = box.id) :
    ((p.onBox sock change).boxes.get other).id = (p.boxes.get other).id :=
  Heap.get_modify_frame p.boxes sock other change Inbox.id kept

theorem Told.mono {sock : Nat} (told : p.Told sock)
    (id : (q.boxes.get sock).id = (p.boxes.get sock).id) (done : p.done = true → q.done = true)
    (traffic : q.traffic = p.traffic ∨
      ∃ obs, obs ≠ .queued sock ∧ q.traffic = obs :: p.traffic) : q.Told sock := by
  rcases told with done' | announced
  · exact .inl (done done')
  · right
    rw [wakeup, id]
    rcases traffic with same | ⟨obs, other, more⟩
    · rw [same]
      exact announced
    · rw [more]
      exact announced.cons other

theorem Told.send {sock : Nat} {event : HostEvent} {sending : Sending} (told : p.Told sock)
    (excused : sending = .dropped → p.done = true) : (p.send event sending).Told sock := by
  cases sending with
  | queued => exact told.mono rfl (fun done => done) (.inr ⟨.enqueued event, by simp, rfl⟩)
  | dropped => exact .inl (excused rfl)
  | overflowed => exact .inl rfl

/-- An event that is sent announces the queue it is about. -/
theorem told_of_send {sock : Nat} {sending : Sending}
    (excused : sending = .dropped → p.done = true) :
    (p.send (p.wakeup sock) sending).Told sock := by
  cases sending with
  | queued => exact .inr ⟨[], p.traffic, rfl, List.not_mem_nil⟩
  | dropped => exact .inl (excused rfl)
  | overflowed => exact .inl rfl

/-- A step that is nobody's announcement. -/
theorem Woken.quiet {sock : Nat} (woken : p.Woken sock)
    (id : (q.boxes.get sock).id = (p.boxes.get sock).id) (told : p.Told sock → q.Told sock)
    (readers : ∀ ref < p.readers.size, ∀ err, p.readers.get ref = (sock, .pushEnqueue err) →
      ref < q.readers.size ∧ q.readers.get ref = p.readers.get ref)
    (guest : q.guest = p.guest ∨ p.guest.outbox = none) : q.Woken sock := by
  cases woken with
  | told before => exact .told (told before)
  | reader started here =>
      obtain ⟨started, same⟩ := readers _ started _ here
      exact .reader started (same.trans here)
  | guest here =>
      rcases guest with same | free
      · apply Woken.guest
        rw [same, here, wakeup, wakeup, id]
      · rw [here] at free
        cases free

/-- A reader that is not about to announce anything goes elsewhere. -/
theorem readers_readerGoto {ref : Nat} {pc : ReaderPc} {sock : Nat}
    (quiet : ∀ err, p.readers.get ref ≠ (sock, .pushEnqueue err)) :
    ∀ other < p.readers.size, ∀ err, p.readers.get other = (sock, .pushEnqueue err) →
      other < (p.readerGoto ref pc).readers.size ∧
        (p.readerGoto ref pc).readers.get other = p.readers.get other := by
  intro other started err here
  refine ⟨started, ?_⟩
  rw [readerGoto, Heap.get_modify, if_neg]
  intro same
  rw [same] at here
  exact quiet err here

/-- The queue of every pending socket is announced. -/
def Woke (p : Post) : Prop := ∀ sock, p.Pending sock → p.Woken sock

theorem Pending.of_send {sock : Nat} {event : HostEvent} {sending : Sending}
    (pending : (p.send event sending).Pending sock) : p.Pending sock := by
  cases sending <;> exact ⟨pending.inside, pending.waiting, pending.unharmed⟩

namespace Woke

theorem guestSend {event : HostEvent} {result : Int} {pc : GuestPc} {sending : Sending}
    (woke : p.Woke) (here : p.guest = .enqueue event result)
    (excused : sending = .dropped → p.done = true) :
    ((p.send event sending).goto pc).Woke := by
  intro sock pending
  have before : (p.send event sending).Pending sock :=
    ⟨pending.inside, pending.waiting, pending.unharmed⟩
  cases woke sock before.of_send with
  | told told => exact .told (told.send excused)
  | @reader ref err started reading =>
      have kept : ((p.send event sending).goto pc).readers.get ref = (sock, .pushEnqueue err) := by
        simpa [goto] using reading
      exact .reader (by simpa [goto] using started) kept
  | guest own =>
      rw [own] at here
      cases here
      exact .told (told_of_send excused)

theorem readerSend {ref : Nat} {event : HostEvent} {pc : ReaderPc} {sending : Sending}
    (woke : p.Woke) (here : p.outbox ref = some event)
    (excused : sending = .dropped → p.done = true) :
    ((p.send event sending).readerGoto ref pc).Woke := by
  intro sock pending
  have before : (p.send event sending).Pending sock :=
    ⟨pending.inside, pending.waiting, pending.unharmed⟩
  cases woke sock before.of_send with
  | told told => exact .told (told.send excused)
  | @reader other err started reading =>
      by_cases same : other = ref
      · rw [same] at reading
        rw [outbox, reading] at here
        cases here
        exact .told (told_of_send excused)
      · have kept : ((p.send event sending).readerGoto ref pc).readers.get other =
            (sock, .pushEnqueue err) := by
          rw [readerGoto, Heap.get_modify, if_neg same, readers_send]
          exact reading
        exact .reader (by simpa [readerGoto] using started) kept
  | guest own => exact .guest (by simpa [readerGoto, wakeup] using own)

/-- A packet goes into the queue of a reader that announces it next. -/
theorem push {ref sock : Nat} {packet : ReceivedPacket} {err : Option NetError} (woke : p.Woke)
    (started : ref < p.readers.size)
    (here : p.readers.get ref = (sock, .push packet.data packet.source err)) :
    ((((p.onBox sock fun box => { box with queue := box.queue ++ [packet] }).observe
      (.queued sock)).readerGoto ref (.pushEnqueue err)).record sock (.pushed packet)).Woke := by
  intro other pending
  by_cases same : other = sock
  · have announcing : (p.readerGoto ref (.pushEnqueue err)).readers.get ref =
        (other, .pushEnqueue err) := by
      rw [readerGoto, Heap.get_modify_self, here, same]
    exact .reader started announcing
  · have elsewhere : ((p.boxes.modify sock fun box =>
        { box with queue := box.queue ++ [packet] }).get other) = p.boxes.get other := by
      rw [Heap.get_modify, if_neg same]
    have waiting := pending.of_record.waiting
    simp only [readerGoto, observe, onBox, elsewhere] at waiting
    have woken := woke other ⟨pending.inside, waiting, pending.of_record.unharmed⟩
    refine woken.quiet (congrArg Inbox.id elsewhere) ?_ (readers_readerGoto ?_) (.inl rfl)
    · intro told
      exact told.mono (congrArg Inbox.id elsewhere) (fun done => done)
        (.inr ⟨.queued sock, by simpa using Ne.symm same, rfl⟩)
    · intro impossible reading
      rw [here] at reading
      cases reading

/-- What a `sock_recv` leaves in the queue it announces next; a packet it loses is
recorded. -/
theorem recv {id : Int} {sock ptr capacity : Nat} {fromOut : Option (Nat × Nat)}
    {rest : List ReceivedPacket} {pc : GuestPc} {receipt : Receipt} (woke : p.Woke)
    (here : p.guest = .holding id sock (.recv ptr capacity fromOut))
    (next : receipt = .lost ∨ rest = [] ∨
      ∃ result, pc = .enqueue (.io (p.boxes.get sock).id ioRead) result) :
    ((((p.onBox sock fun box => { box with queue := rest }).observe (.queued sock)).goto pc).record
      sock receipt).Woke := by
  intro other pending
  by_cases same : other = sock
  · subst same
    have waiting := pending.of_record.waiting
    simp only [goto, observe, onBox, Heap.get_modify_self] at waiting
    rcases next with lost | empty | ⟨result, announcing⟩
    · exact absurd (List.mem_append_right _ (by rw [lost]; exact List.mem_singleton.mpr rfl))
        pending.unharmed
    · exact absurd empty waiting
    · apply Woken.guest
      rw [wakeup]
      simp only [record, goto, observe, onBox, Heap.get_modify_self]
      exact announcing
  · have elsewhere : ((p.boxes.modify sock fun box => { box with queue := rest }).get other) =
        p.boxes.get other := by
      rw [Heap.get_modify, if_neg same]
    have waiting := pending.of_record.waiting
    simp only [goto, observe, onBox, elsewhere] at waiting
    have woken := woke other ⟨pending.inside, waiting, pending.of_record.unharmed⟩
    refine woken.quiet (congrArg Inbox.id elsewhere) ?_
      (fun ref started err reading => ⟨started, rfl⟩)
      (.inr (by rw [here]; rfl))
    intro told
    exact told.mono (congrArg Inbox.id elsewhere) (fun done => done)
      (.inr ⟨.queued sock, by simpa using Ne.symm same, rfl⟩)

/-- A step that changes no queue and is nobody's announcement. -/
theorem quiet (woke : p.Woke) (pending : ∀ sock, q.Pending sock → p.Pending sock)
    (ids : ∀ sock < p.boxes.size, (q.boxes.get sock).id = (p.boxes.get sock).id)
    (done : p.done = true → q.done = true)
    (traffic : q.traffic = p.traffic ∨
      ∃ obs, (∀ sock, obs ≠ .queued sock) ∧ q.traffic = obs :: p.traffic)
    (readers : ∀ sock, ∀ ref < p.readers.size, ∀ err,
      p.readers.get ref = (sock, .pushEnqueue err) →
      ref < q.readers.size ∧ q.readers.get ref = p.readers.get ref)
    (guest : q.guest = p.guest ∨ p.guest.outbox = none) : q.Woke := by
  intro sock waiting
  have before := pending sock waiting
  apply (woke sock before).quiet (ids sock before.inside) _ (readers sock) guest
  intro told
  apply told.mono (ids sock before.inside) done
  rcases traffic with same | ⟨obs, other, more⟩
  · exact .inl same
  · exact .inr ⟨obs, other sock, more⟩

theorem opened {box : Inbox} {entry : Int → Option Nat} (woke : p.Woke) (empty : box.queue = []) :
    { p with boxes := p.boxes.alloc box, entry := entry }.Woke := by
  refine woke.quiet ?_ ?_ (fun done => done) (.inl rfl) (fun _ _ started _ _ => ⟨started, rfl⟩)
    (.inl rfl)
  · intro sock pending
    have waiting := pending.waiting
    rcases Heap.eq_or_lt_of_alloc pending.inside with new | old
    · rw [new, Heap.get_alloc_size] at waiting
      exact absurd empty waiting
    · rw [Heap.get_alloc_of_lt _ _ _ old] at waiting
      exact ⟨old, waiting, pending.unharmed⟩
  · intro sock inside
    exact congrArg Inbox.id (Heap.get_alloc_of_lt _ _ _ inside)

theorem dialSend {event : HostEvent} {sending : Sending} (woke : p.Woke)
    (excused : sending = .dropped → p.done = true) : (p.send event sending).Woke := by
  intro sock pending
  refine (woke sock pending.of_send).quiet (by rw [boxes_send]) (fun told => told.send excused) ?_
    (.inl (guest_send ..))
  intro ref started err here
  rw [readers_send]
  exact ⟨started, rfl⟩

/-- A section that works on the error of a socket, or closes it. -/
theorem onBox {sock : Nat} {change : Inbox → Inbox} (woke : p.Woke)
    (kept : ∀ box, (change box).id = box.id ∧ (change box).queue = box.queue) :
    (p.onBox sock change).Woke :=
  woke.quiet (fun _ pending => pending.of_onBox fun box => (kept box).2)
    (fun _ _ => id_onBox fun box => (kept box).1) (fun done => done) (.inl rfl)
    (fun _ _ started _ _ => ⟨started, rfl⟩) (.inl rfl)

theorem record {sock : Nat} {receipt : Receipt} (woke : p.Woke) : (p.record sock receipt).Woke :=
  woke.quiet (fun _ pending => pending.of_record) (fun _ _ => rfl) (fun done => done) (.inl rfl)
    (fun _ _ started _ _ => ⟨started, rfl⟩) (.inl rfl)

theorem goto {pc : GuestPc} (woke : p.Woke) (free : p.guest.outbox = none) : (p.goto pc).Woke :=
  woke.quiet (fun _ pending => ⟨pending.inside, pending.waiting, pending.unharmed⟩)
    (fun _ _ => rfl) (fun done => done) (.inl rfl) (fun _ _ started _ _ => ⟨started, rfl⟩)
    (.inr free)

theorem readerGoto {ref : Nat} {pc : ReaderPc} (woke : p.Woke)
    (quiet : ∀ err, (p.readers.get ref).2 ≠ .pushEnqueue err) : (p.readerGoto ref pc).Woke := by
  refine woke.quiet (fun _ pending => ⟨pending.inside, pending.waiting, pending.unharmed⟩)
    (fun _ _ => rfl) (fun done => done) (.inl rfl) (fun sock => readers_readerGoto ?_) (.inl rfl)
  intro err here
  exact quiet err (congrArg Prod.snd here)

theorem move (woke : p.Woke) (proper : p.Proper) (move : p.Move q) : q.Woke := by
  cases move with
  | guest free => exact woke.goto free
  | forget | dial =>
      exact woke.quiet (fun _ pending => ⟨pending.inside, pending.waiting, pending.unharmed⟩)
        (fun _ _ => rfl) (fun done => done) (.inl rfl) (fun _ _ started _ _ => ⟨started, rfl⟩)
        (.inl rfl)
  | opened => exact woke.opened rfl
  | guestSend here _ excused => exact woke.guestSend here excused
  | readerSend _ here excused => exact woke.readerSend here excused
  | dialSend excused => exact woke.dialSend excused
  | dispatch outside first =>
      exact woke.quiet (fun _ pending => ⟨pending.inside, pending.waiting, pending.unharmed⟩)
        (fun _ _ => rfl) (fun done => done) (.inr ⟨_, fun _ => (by simp), rfl⟩)
        (fun _ _ started _ _ => ⟨started, rfl⟩) (.inr (by rw [outside]; rfl))
  | push started here => exact woke.push started here
  | @take id sock ptr capacity fromOut chunk rest here taken =>
      apply woke.recv here
      right
      cases rest with
      | nil => exact .inl rfl
      | cons packet others =>
          right
          refine ⟨chunk.data.length, ?_⟩
          rw [proper.holding id sock _ here]
          rfl
  | lose here => exact woke.recv here (.inl rfl)
  | drain here | ask here =>
      apply Woke.record
      apply Woke.goto
      · apply woke.onBox
        exact fun _ => ⟨rfl, rfl⟩
      · rw [Post.onBox, here]
        rfl
  | readError started here =>
      apply Woke.record
      apply Woke.readerGoto
      · apply woke.onBox
        exact fun _ => ⟨rfl, rfl⟩
      · intro err reading
        rw [Post.onBox, here] at reading
        cases reading
  | dialed =>
      apply Woke.record
      apply woke.onBox
      exact fun _ => ⟨rfl, rfl⟩
  | close =>
      apply woke.onBox
      exact fun _ => ⟨rfl, rfl⟩
  | begin => exact fun _ _ => .told (.inl rfl)
  | reader _ quiet => exact woke.readerGoto quiet
  | start =>
      refine woke.quiet (fun _ pending => ⟨pending.inside, pending.waiting, pending.unharmed⟩)
        (fun _ _ => rfl) (fun done => done) (.inl rfl) ?_ (.inl rfl)
      intro _ ref started err _
      exact ⟨Nat.lt_succ_of_lt started, Heap.get_alloc_of_lt _ _ _ started⟩

end Woke

/-! ## The channel -/

/-- What a move does to the channel. -/
inductive Flow (p q : Post) : Prop where
  | still (traffic : q.traffic = p.traffic) (events : q.events = p.events)
  | beside {obs : Obs} (traffic : q.traffic = obs :: p.traffic) (events : q.events = p.events)
      (other : (∃ sock, obs = .queued sock) ∨ ∃ event, obs = .dropped event)
  | entered {event : HostEvent} (traffic : q.traffic = .enqueued event :: p.traffic)
      (events : q.events = p.events ++ [event])
  | left {event : HostEvent} (traffic : q.traffic = .dispatched event :: p.traffic)
      (events : p.events = event :: q.events)

theorem flow_send (p : Post) (event : HostEvent) (sending : Sending) :
    Flow p (p.send event sending) := by
  cases sending with
  | queued => exact .entered rfl rfl
  | dropped | overflowed => exact .beside rfl rfl (.inr ⟨_, rfl⟩)

theorem Flow.congr {r : Post} (flow : Flow p q) (traffic : r.traffic = q.traffic)
    (events : r.events = q.events) : Flow p r := by
  cases flow with
  | still before same => exact .still (traffic.trans before) (events.trans same)
  | beside before same other => exact .beside (traffic.trans before) (events.trans same) other
  | entered before more => exact .entered (traffic.trans before) (events.trans more)
  | left before more => exact .left (traffic.trans before) (events ▸ more)

theorem Move.flow (move : p.Move q) : Flow p q := by
  cases move with
  | guest | forget | opened | drain | ask | readError | dialed | close | begin | reader | start
  | dial => exact .still rfl rfl
  | guestSend | readerSend => exact (flow_send ..).congr rfl rfl
  | dialSend => exact flow_send ..
  | dispatch outside first => exact .left rfl first
  | push | take | lose => exact .beside rfl rfl (.inl ⟨_, rfl⟩)

/-- The channel is what has been enqueued and not dispatched, in order, and an event
is dispatched after it was enqueued. -/
structure Orderly (p : Post) : Prop where
  fifo : enqueuedIn p.traffic = dispatchedIn p.traffic ++ p.events
  kept : ∀ newer event older, p.traffic = newer ++ .enqueued event :: older →
    event ∈ p.events ∨ .dispatched event ∈ newer

theorem Orderly.move (orderly : p.Orderly) (move : p.Move q) : q.Orderly := by
  have later : ∀ {obs : Obs} {newer : List Obs} {event : HostEvent} {older : List Obs},
      obs :: p.traffic = newer ++ .enqueued event :: older →
      obs = .enqueued event ∨ ∃ newer', newer = obs :: newer' ∧
        (event ∈ p.events ∨ .dispatched event ∈ newer') := by
    intro obs newer event older split
    cases newer with
    | nil =>
        cases split
        exact .inl rfl
    | cons first newer =>
        obtain ⟨rfl, rest⟩ := List.cons.inj split
        exact .inr ⟨newer, rfl, orderly.kept newer event older rest⟩
  cases move.flow with
  | still traffic events =>
      constructor
      case fifo => rw [traffic, events, orderly.fifo]
      case kept =>
        rw [traffic, events]
        exact orderly.kept
  | @beside obs traffic events other =>
      constructor
      case fifo =>
        rw [traffic, events]
        rcases other with ⟨sock, rfl⟩ | ⟨event, rfl⟩
        all_goals simpa [enqueuedIn, dispatchedIn] using orderly.fifo
      case kept =>
        rw [traffic, events]
        intro newer event older split
        rcases later split with now | ⟨newer, rfl, before⟩
        · rcases other with ⟨sock, rfl⟩ | ⟨event, rfl⟩ <;> cases now
        · exact before.imp_right (List.mem_cons_of_mem _)
  | @entered event traffic events =>
      constructor
      case fifo =>
        have enters : enqueuedIn (.enqueued event :: p.traffic) =
            enqueuedIn p.traffic ++ [event] := by
          simp [enqueuedIn]
        have stays : dispatchedIn (.enqueued event :: p.traffic) = dispatchedIn p.traffic := by
          simp [dispatchedIn]
        rw [traffic, events, enters, stays, orderly.fifo, List.append_assoc]
      case kept =>
        rw [traffic, events]
        intro newer other older split
        rcases later split with now | ⟨newer, rfl, before⟩
        · cases now
          exact .inl (List.mem_append_right _ (List.mem_singleton.mpr rfl))
        · exact before.imp (List.mem_append_left _) (List.mem_cons_of_mem _)
  | @left event traffic events =>
      constructor
      case fifo =>
        rw [traffic]
        have before := orderly.fifo
        rw [events] at before
        simpa [enqueuedIn, dispatchedIn] using before
      case kept =>
        rw [traffic]
        intro newer other older split
        rcases later split with now | ⟨newer, rfl, before⟩
        · cases now
        · rw [events] at before
          rcases before with present | gone
          · rcases List.mem_cons.mp present with now | present
            · exact .inr (now ▸ List.mem_cons_self)
            · exact .inl present
          · exact .inr (List.mem_cons_of_mem _ gone)

end Post

/-! ## Runs -/

/-- A decomposition of the traffic is one of the whole trace. -/
theorem exists_split_of_traffic {trace newer older : List Obs} {obs : Obs}
    (split : trace.filter Obs.isTraffic = newer ++ obs :: older) :
    ∃ before after, trace = before ++ obs :: after ∧ before.filter Obs.isTraffic = newer := by
  obtain ⟨before, rest, rfl, filtered, others⟩ := List.filter_eq_append_iff.mp split
  obtain ⟨skipped, after, rfl, quiet, -, -⟩ := List.filter_eq_cons_iff.mp others
  refine ⟨before ++ skipped, after, by rw [List.append_assoc], ?_⟩
  rw [List.filter_append, filtered, List.filter_eq_nil_iff.mpr quiet, List.append_nil]

/-- No wakeup is lost. In every run whose `sock_recv` calls have their buffers in
range, as long as the instance is not shut down and nobody stands between an update of
a queue and its enqueue, a queue that is not empty has been announced since it was last
updated, and that event is in the channel or has gone to the guest; nothing else gets
lost in the channel either. -/
theorem no_wakeup_lost {s : State} {sock : Nat}
    (reaches : machine.Reaches (fun s _ => s.recvInRange = true) machine.initial s)
    (running : s.done = false) (inside : sock < s.socks.size)
    (pushes : ∀ ref < s.readers.size, (s.readers.get ref).sock = sock →
      ∀ err, (s.readers.get ref).pc ≠ .pushEnqueue err)
    (recvs : ∀ result, s.guest ≠ .enqueue (.io (s.socks.get sock).id ioRead) result)
    (waiting : (s.socks.get sock).queue ≠ []) :
    (∃ newer older,
      s.trace = newer ++ .enqueued (.io (s.socks.get sock).id ioRead) :: older ∧
      .queued sock ∉ newer ∧
      (.io (s.socks.get sock).id ioRead ∈ s.events ∨
        .dispatched (.io (s.socks.get sock).id ioRead) ∈ newer)) ∧
    enqueuedIn s.trace = dispatchedIn s.trace ++ s.events := by
  obtain ⟨log, logged⟩ : ∃ log, receiving.Reaches RecvsInRange receiving.initial (s, log) :=
    Machine.exists_logged reaches []
  have woke : (s.post log).Woke := by
    have start : (State.initial.post []).Woke :=
      fun other pending => absurd pending.inside (Nat.not_lt_zero other)
    exact (post_invariant start (fun _ _ proper held move => held.move proper move) logged).2
  have orderly : (s.post log).Orderly := by
    have start : (State.initial.post []).Orderly := by
      refine ⟨rfl, ?_⟩
      intro newer event older split
      cases newer <;> cases split
    exact (post_invariant start (fun _ _ _ held move => held.move move) logged).2
  constructor
  · cases woke sock ⟨inside, waiting, fun lost => not_lost logged _ lost rfl⟩ with
    | told told =>
        rcases told with done | ⟨newer, older, split, unchanged⟩
        · have done : s.done = true := done
          rw [running] at done
          cases done
        · obtain ⟨before, after, whole, filtered⟩ := exists_split_of_traffic split
          refine ⟨before, after, whole, ?_, ?_⟩
          · intro changed
            apply unchanged
            rw [← filtered]
            exact List.mem_filter.mpr ⟨changed, rfl⟩
          · rcases orderly.kept newer _ older split with present | gone
            · exact .inl present
            · rw [← filtered] at gone
              exact .inr (List.mem_filter.mp gone).1
    | @reader ref err started here =>
        have own : (s.readers.get ref).sock = sock := congrArg Prod.fst here
        exact absurd (congrArg Prod.snd here) (pushes ref started own err)
    | guest here => exact absurd here (recvs _)
  · have fifo := orderly.fifo
    simp only [State.post, enqueuedIn_filter, dispatchedIn_filter] at fifo
    exact fifo

/-- The second datagram of `receiveFirst` is announced by its reader, and once more by
the `sock_recv` that took the first. -/
def announceSecond : List Action :=
  receiveFirst ++ [.reader 0 ⟨[], .zero, none⟩ false, .guest {}]

theorem no_wakeup_lost_announceSecond :
    ∃ s, machine.runWhen (fun s _ => s.recvInRange = true) machine.initial announceSecond = some s ∧
      (s.socks.get 0).queue = [⟨[4], ⟨.v4 (ip4 9 9 9 9), 53⟩⟩] ∧
      ∃ newer older, s.trace = newer ++ .enqueued (.io 1 ioRead) :: older ∧
        .queued 0 ∉ newer ∧ (.io 1 ioRead ∈ s.events ∨ .dispatched (.io 1 ioRead) ∈ newer) := by
  obtain ⟨s, ran, running, inside, waiting, id, guest, readers, reading⟩ : ∃ s,
      machine.runWhen (fun s _ => s.recvInRange = true) machine.initial announceSecond = some s ∧
      s.done = false ∧ 0 < s.socks.size ∧
      (s.socks.get 0).queue = [⟨[4], ⟨.v4 (ip4 9 9 9 9), 53⟩⟩] ∧ (s.socks.get 0).id = 1 ∧
      s.guest = .running ∧ s.readers.size = 1 ∧ (s.readers.get 0).pc = .reading :=
    ⟨_, rfl, rfl, by decide, rfl, rfl, rfl, rfl, rfl⟩
  have announced := (no_wakeup_lost (Machine.reaches_of_runWhen ran) running inside
    (fun ref started own err here => by
      have first : ref = 0 := by omega
      rw [first, reading] at here
      cases here)
    (fun result here => by rw [guest] at here; cases here)
    (by rw [waiting]; exact List.cons_ne_nil _ _)).1
  rw [id] at announced
  exact ⟨s, ran, waiting, announced⟩

end UnboundWasm.Host.Sockets
