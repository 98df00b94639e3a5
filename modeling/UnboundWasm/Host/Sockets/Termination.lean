import UnboundWasm.Host.Sockets.Inbox

/-!
# How the guest learns that a connection has ended

A reader that ends leaves its error in the socket, where the next `sock_recv` on an
empty queue or the next `sock_error` collects it.  `readError` leaves nothing there for
the end of a stream, so a connection the peer has closed looks like one without data.
-/

namespace UnboundWasm.Host.Sockets

open UnboundWasm.Lib

/-- The errors `readError` records that the guest cannot mistake for an empty queue. -/
def IsNews (err : NetError) : Prop :=
  err ≠ .eof ∧ err ≠ .netClosed ∧ err ≠ .errno .eagain

instance (err : NetError) : Decidable (IsNews err) := inferInstanceAs (Decidable (_ ∧ _))

/-- The guest was told of an error. -/
def Receipt.tells : Receipt → Bool
  | .drained err | .asked err => err.isSome
  | .pushed _ | .took _ _ | .lost | .ended _ | .dialed _ => false

/-- A pending error is replaced by success or by `EAGAIN`: another `connectTCP` of the
socket has finished, or another of its readers. -/
def Receipt.hides : Receipt → Bool
  | .dialed err => err = none ∨ err = some (.errno .eagain)
  | .ended err => err = .errno .eagain
  | .pushed _ | .took _ _ | .lost | .drained _ | .asked _ => false

/-- An error is pending that is not reported as `EAGAIN`. -/
def Reported (pending : Option NetError) : Prop :=
  ∃ err, pending = some err ∧ err ≠ .errno .eagain

theorem wasiErrno_ne_eagain {err : NetError} (other : err ≠ .errno .eagain) :
    wasiErrno err ≠ wasiEAGAIN := by
  cases err with
  | errno value => cases value <;> first | exact absurd rfl other | decide
  | deadlineExceeded | netClosed | eof | other => decide

/-- Since its reader ended the guest has not been told, and nothing has hidden the
error. -/
def Untold (sock : Nat) (after : List Note) : Prop :=
  ∀ note ∈ after, note.sock = sock → note.receipt.tells = false ∧ note.receipt.hides = false

instance (sock : Nat) (after : List Note) : Decidable (Untold sock after) :=
  inferInstanceAs (Decidable (∀ note ∈ after, _ → _))

namespace Post

variable {p q : Post}

/-- The end of a reader is pending until the guest is told. -/
def Standing (p : Post) : Prop :=
  ∀ before sock err after, p.log = before ++ ⟨sock, .ended err⟩ :: after →
    IsNews err → Untold sock after → Reported (p.boxes.get sock).err

theorem Standing.same (standing : p.Standing) (log : q.log = p.log)
    (errs : ∀ sock < p.boxes.size, (q.boxes.get sock).err = (p.boxes.get sock).err)
    (proper : p.Proper) : q.Standing := by
  intro before sock err after split news untold
  rw [log] at split
  have inside : sock < p.boxes.size :=
    proper.log ⟨sock, .ended err⟩ (split ▸ List.mem_append_right _ List.mem_cons_self)
  rw [errs sock inside]
  exact standing before sock err after split news untold

/-- One more receipt: the error of its socket may change as long as it stays or the
receipt says so, and is there when the receipt is the end of a reader. -/
theorem Standing.append {sock : Nat} {receipt : Receipt} (standing : p.Standing)
    (log : q.log = p.log ++ [⟨sock, receipt⟩])
    (elsewhere : ∀ other ≠ sock, (q.boxes.get other).err = (p.boxes.get other).err)
    (keeps : receipt.tells = false → receipt.hides = false → Reported (p.boxes.get sock).err →
      Reported (q.boxes.get sock).err)
    (ends : ∀ err, receipt = .ended err → IsNews err → Reported (q.boxes.get sock).err) :
    q.Standing := by
  intro before other err after split news untold
  rw [log] at split
  rcases Machine.entry_of_append split with ⟨-, same, -⟩ | ⟨earlier, rfl, log⟩
  · cases same
    exact ends err rfl news
  · have pending : Reported (p.boxes.get other).err := by
      apply standing before other err earlier log news
      exact fun note member => untold note (by simp [member])
    by_cases own : other = sock
    · subst own
      obtain ⟨quiet, shown⟩ := untold ⟨other, receipt⟩ (by simp) rfl
      exact keeps quiet shown pending
    · rw [elsewhere other own]
      exact pending

theorem Standing.move (standing : p.Standing) (proper : p.Proper) (move : p.Move q) :
    q.Standing := by
  cases move with
  | guest | forget | dispatch | begin | reader | start | dial =>
      exact standing.same rfl (fun _ _ => rfl) proper
  | guestSend | readerSend | dialSend =>
      refine standing.same ?_ ?_ proper
      · exact log_send ..
      · exact fun sock _ => congrArg (fun boxes => (Heap.get boxes sock).err) (boxes_send ..)
  | opened =>
      refine standing.same rfl ?_ proper
      intro sock inside
      exact congrArg Inbox.err (Heap.get_alloc_of_lt _ _ _ inside)
  | push | take | lose =>
      apply standing.append rfl
      · intro other different
        simp [Heap.get_modify, different]
      · intro _ _ pending
        simpa using pending
      · exact fun _ impossible => by cases impossible
  | drain | ask =>
      apply standing.append rfl
      · intro other different
        simp [Heap.get_modify, different]
      · rintro quiet - ⟨err, pending, -⟩
        rw [pending] at quiet
        cases quiet
      · exact fun _ impossible => by cases impossible
  | @readError ref sock err started here unclosed =>
      apply standing.append rfl
      · intro other different
        simp [Heap.get_modify, different]
      · intro _ shown pending
        simp only [boxes_record, boxes_readerGoto, boxes_onBox, Heap.get_modify_self]
        split
        · exact pending
        · exact ⟨err, rfl, by simpa [Receipt.hides] using shown⟩
      · rintro _ ⟨⟩ news
        simp only [boxes_record, boxes_readerGoto, boxes_onBox, Heap.get_modify_self]
        rw [if_neg (not_or.mpr ⟨news.2.1, news.1⟩)]
        exact ⟨err, rfl, news.2.2⟩
  | @dialed ref sock err started here unclosed =>
      apply standing.append rfl
      · intro other different
        simp [Heap.get_modify, different]
      · intro _ shown _
        simp only [boxes_record, boxes_onBox, Heap.get_modify_self]
        cases err with
        | none => simp [Receipt.hides] at shown
        | some err => exact ⟨err, rfl, by simpa [Receipt.hides] using shown⟩
      · exact fun _ impossible => by cases impossible
  | @close sock =>
      refine standing.same rfl ?_ proper
      intro other _
      exact Heap.get_modify_frame p.boxes sock other (fun box => { box with closed := true })
        Inbox.err fun _ => rfl

end Post

/-- The guest learns of a connection that has failed. Once a reader has ended with an
error that `readError` records and `EAGAIN` does not disguise, and until the guest has
been told or another connection has taken the place of the failed one, a `sock_recv`
that finds the queue empty returns another negative errno than `EAGAIN`, and a
`sock_error` a non-zero errno. -/
theorem termination_reported {s : State} {before after : List Note} {sock : Nat} {err : NetError}
    (reachable : receiving.Reachable (s, before ++ ⟨sock, .ended err⟩ :: after))
    (news : IsNews err) (untold : Untold sock after) :
    (∀ id ptr capacity fromOut reply next,
      s.guest = .holding id sock (.recv ptr capacity fromOut) → (s.socks.get sock).queue = [] →
      s.step (.guest reply) = some next →
        next.guest = .running ∧ next.returned < 0 ∧ next.returned ≠ -wasiEAGAIN) ∧
    ∀ id reply next, s.guest = .holding id sock .error → s.step (.guest reply) = some next →
      next.guest = .running ∧ next.returned ≠ 0 := by
  have standing : (s.post (before ++ ⟨sock, .ended err⟩ :: after)).Standing := by
    have start : (State.initial.post []).Standing := by
      intro before sock err after split
      cases before <;> cases split
    exact (post_invariant start (fun _ _ proper held move => held.move proper move) reachable).2
  obtain ⟨pending, present, other⟩ := standing before sock err after rfl news untold
  have present : (s.socks.get sock).err = some pending := present
  have positive : 0 < wasiErrno pending := wasiSuccess_lt_wasiErrno pending
  have different := wasiErrno_ne_eagain other
  constructor
  · intro id ptr capacity fromOut reply next here empty stepped
    simp only [State.step, State.guestStep, here, State.onHolding, State.sockRecvLocked, empty,
      State.takePacket, present, Option.some.injEq] at stepped
    subst next
    refine ⟨rfl, ?_, ?_⟩
    · show -wasiErrno pending < 0
      omega
    · intro same
      exact different (Int.neg_inj.mp same)
  · intro id reply next here stepped
    simp only [State.step, State.guestStep, here, State.onHolding, State.sockErrorLocked, present,
      Option.some.injEq] at stepped
    subst next
    refine ⟨rfl, ?_⟩
    show wasiErrno pending ≠ 0
    omega

/-- The guest connects to a server and receives one byte, after which the connection
ends with the given error. -/
def endAfterByte (err : NetError) : List Action :=
  [.enter, .compute ⟨8, fun _ => 8⟩, .call (.sockOpen 4 2), .guest {},
   .call (.sockConnect 1 0 4 53), .guest {}, .guest {}, .dial 0 {}, .dial 0 {}, .dial 0 {},
   .reader 0 ⟨[7], .zero, none⟩ false, .reader 0 ⟨[], .zero, none⟩ false,
   .reader 0 ⟨[], .zero, none⟩ false, .reader 0 ⟨[], .zero, none⟩ false,
   .reader 0 ⟨[], .zero, some err⟩ false, .reader 0 ⟨[], .zero, none⟩ false,
   .reader 0 ⟨[], .zero, none⟩ false, .call (.sockRecv 1 4 4), .guest {}, .guest {}]

theorem termination_reported_reset :
    ∃ s, receiving.run receiving.initial
        (endAfterByte (.errno .econnreset) ++ [.call (.sockError 1), .guest {}]) =
      some (s, [⟨0, .dialed none⟩, ⟨0, .pushed ⟨[7], ⟨.v4 (ip4 8 8 8 8), 53⟩⟩⟩] ++
        ⟨0, .ended (.errno .econnreset)⟩ ::
          [⟨0, .took 4 ⟨[7], ⟨.v4 (ip4 8 8 8 8), 53⟩⟩⟩]) ∧
      s.guest = .holding 1 0 .error ∧
      ∃ next, s.step (.guest {}) = some next ∧ next.guest = .running ∧ next.returned ≠ 0 := by
  obtain ⟨s, ran, here, next, stepped⟩ : ∃ s, receiving.run receiving.initial
        (endAfterByte (.errno .econnreset) ++ [.call (.sockError 1), .guest {}]) =
      some (s, [⟨0, .dialed none⟩, ⟨0, .pushed ⟨[7], ⟨.v4 (ip4 8 8 8 8), 53⟩⟩⟩] ++
        ⟨0, .ended (.errno .econnreset)⟩ ::
          [⟨0, .took 4 ⟨[7], ⟨.v4 (ip4 8 8 8 8), 53⟩⟩⟩]) ∧
      s.guest = .holding 1 0 .error ∧ ∃ next, s.step (.guest {}) = some next :=
    ⟨_, rfl, rfl, _, rfl⟩
  have reported := termination_reported (Machine.reaches_of_run ran) (by decide) (by decide)
  exact ⟨s, ran, here, next, stepped, reported.2 1 {} next here stepped⟩

/-- When the peer closes the stream the guest is told that there is no data yet, and
that there is no error. -/
theorem closed_stream_unreported :
    ∃ s log, receiving.run receiving.initial
        (endAfterByte .eof ++ [.call (.sockRecv 1 4 4), .guest {}, .guest {}]) = some (s, log) ∧
      ⟨0, .ended .eof⟩ ∈ log ∧ (s.socks.get 0).typ = .tcp ∧ (s.socks.get 0).queue = [] ∧
      s.returned = -wasiEAGAIN ∧
      ∃ t more, receiving.run (s, log) [.call (.sockError 1), .guest {}, .guest {}] =
        some (t, more) ∧ t.guest = .running ∧ t.returned = 0 := by
  refine ⟨_, _, rfl, ?_, rfl, rfl, rfl, _, _, rfl, rfl, rfl⟩
  decide

end UnboundWasm.Host.Sockets
