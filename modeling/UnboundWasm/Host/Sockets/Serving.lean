import UnboundWasm.Host.Sockets.View

/-!
# Host sockets: an import in progress

Where an import on one socket can stand, from the lookup of its id to its return, and what it
leaves alone on the way.  A caller that keeps its own table of sockets is verified against this:
the other sockets are untouched, a write goes out of an operating-system socket of the socket
that was named, and `sock_connect` has taken effect when it reports success.
-/

namespace UnboundWasm.Host.Sockets.View

open UnboundWasm.Lib

/-- The host socket behind an id. Ids are numbers from one on. -/
def face (v : View) (sid : Int) : Face := v.socks.get (sid - 1).toNat

/-- The socket sends to `remote`, and a UDP socket is open where it is one. -/
def Connected (v : View) (sid : Int) (remote : AddrPort) : Prop :=
  (v.face sid).remote = remote ∧ ((v.face sid).typ = .udp → (v.face sid).udp.isSome = true)

/-- `sock_connect` has done its part, and is about to report success or has reported it. -/
def Settled (v : View) : Prop :=
  (∃ event, v.guest = .enqueue event 0) ∨ v.guest = .blocked 0 ∨ v.guest = .running ∧ 0 ≤ v.returned

/-- An operating-system socket that was created for a host socket. -/
def Owns (v : View) (sid : Int) (conn : Nat) : Prop :=
  conn < v.owners.size ∧ sid = v.owners.get conn + 1

/-- What an import has done when it has returned. -/
def Post (v : View) (sid : Int) : SockOp → Prop
  | .connect remote => 0 ≤ v.returned → Connected v sid remote
  | _ => True

/-- Where an import called for an operation on a socket stands. A `sock_send` goes on as a
`sock_send_to` to the address the socket is connected to. -/
inductive Serving (v : View) (sid : Int) : SockOp → GuestPc → Prop where
  | lookup {op : SockOp} : Serving v sid op (.lookup sid op)
  | holding {op : SockOp} {sock : Nat} (named : sid = sock + 1) :
      Serving v sid op (.holding sid sock op)
  | connected {remote : AddrPort} {event : HostEvent} (done : Connected v sid remote) :
      Serving v sid (.connect remote) (.enqueue event 0)
  | announcing {remote : AddrPort} (done : Connected v sid remote) :
      Serving v sid (.connect remote) (.blocked 0)
  | onward {remote : AddrPort} {data : Bytes} {pc : GuestPc} (target : (v.face sid).remote = remote)
      (rest : Serving v sid (.sendTo remote data) pc) : Serving v sid (.send data) pc
  | listen {remote : AddrPort} {data : Bytes} {sock : Nat} (named : sid = sock + 1) :
      Serving v sid (.sendTo remote data) (.listen sock remote data)
  | writeUdp {remote : AddrPort} {data : Bytes} {conn : Nat} (owned : v.Owns sid conn) :
      Serving v sid (.sendTo remote data) (.writeUdp conn remote data)
  | writeTcp {remote : AddrPort} {data : Bytes} {conn : Nat} (owned : v.Owns sid conn) :
      Serving v sid (.sendTo remote data) (.writeTcp conn data)
  | received {ptr capacity : Nat} {fromOut : Option (Nat × Nat)} {event : HostEvent}
      {result : Int} :
      Serving v sid (.recv ptr capacity fromOut) (.enqueue event result)
  | waiting {ptr capacity : Nat} {fromOut : Option (Nat × Nat)} {result : Int} :
      Serving v sid (.recv ptr capacity fromOut) (.blocked result)
  | returned {op : SockOp} (post : Post v sid op) : Serving v sid op .running

/-- What the other goroutines leave alone. -/
structure Quiet (v after : View) : Prop where
  guest : after.guest = v.guest
  returned : after.returned = v.returned
  memory : after.memory = v.memory
  entries : after.entries = v.entries ∨ after.entries = none
  size : after.socks.size = v.socks.size
  af : ∀ ref, (after.socks.get ref).af = (v.socks.get ref).af
  typ : ∀ ref, (after.socks.get ref).typ = (v.socks.get ref).typ
  remote : ∀ ref, (after.socks.get ref).remote = (v.socks.get ref).remote
  udp : ∀ ref, (after.socks.get ref).udp = (v.socks.get ref).udp
  owns : ∀ sid conn, v.Owns sid conn → after.Owns sid conn

/-- What an import on one socket leaves alone. -/
structure Kept (sid : Int) (v after : View) : Prop where
  entries : after.entries = v.entries
  size : after.socks.size = v.socks.size
  af : ∀ ref, (after.socks.get ref).af = (v.socks.get ref).af
  typ : ∀ ref, (after.socks.get ref).typ = (v.socks.get ref).typ
  others : ∀ ref, ref ≠ (sid - 1).toNat → (after.socks.get ref).remote = (v.socks.get ref).remote ∧
    (after.socks.get ref).udp = (v.socks.get ref).udp

variable {v after : View} {sid : Int} {op : SockOp} {pc : GuestPc}

theorem owns_alloc {conn : Nat} (sock : Nat) (owned : v.Owns sid conn) :
    { v with owners := v.owners.alloc sock }.Owns sid conn := by
  obtain ⟨allocated, owner⟩ := owned
  refine ⟨Nat.lt_succ_of_lt allocated, ?_⟩
  rw [owner]
  simp only [Heap.get_alloc_of_lt _ _ _ allocated]

theorem Beside.quiet (beside : Beside v after) : Quiet v after := by
  cases beside with
  | same =>
      exact ⟨rfl, rfl, rfl, .inl rfl, rfl, fun _ => rfl, fun _ => rfl, fun _ => rfl, fun _ => rfl,
        fun _ _ owned => owned⟩
  | shut =>
      exact ⟨rfl, rfl, rfl, .inr rfl, rfl, fun _ => rfl, fun _ => rfl, fun _ => rfl, fun _ => rfl,
        fun _ _ owned => owned⟩
  | spare sock =>
      exact ⟨rfl, rfl, rfl, .inl rfl, rfl, fun _ => rfl, fun _ => rfl, fun _ => rfl, fun _ => rfl,
        fun _ _ owned => owns_alloc sock owned⟩
  | attach sock =>
      have frame {β : Type} (project : Face → β) (ref : Nat)
          (untouched : ∀ face conn, project { face with tcp := some conn } = project face) :
          project ((v.attach sock).socks.get ref) = project (v.socks.get ref) :=
        Heap.get_modify_frame v.socks sock ref _ project fun face => untouched face _
      exact ⟨rfl, rfl, rfl, .inl rfl, rfl, fun ref => frame Face.af ref fun _ _ => rfl,
        fun ref => frame Face.typ ref fun _ _ => rfl,
        fun ref => frame Face.remote ref fun _ _ => rfl,
        fun ref => frame Face.udp ref fun _ _ => rfl, fun _ _ owned => owns_alloc sock owned⟩

theorem Quiet.connected {remote : AddrPort} (quiet : Quiet v after) (was : Connected v sid remote) :
    Connected after sid remote := by
  unfold Connected face at was ⊢
  rw [quiet.remote, quiet.typ, quiet.udp]
  exact was

theorem Serving.quiet (serving : Serving v sid op pc) (quiet : Quiet v after) :
    Serving after sid op pc := by
  induction serving with
  | lookup => exact .lookup
  | holding named => exact .holding named
  | connected done => exact .connected (quiet.connected done)
  | announcing done => exact .announcing (quiet.connected done)
  | onward target _ ih =>
      refine .onward ?_ ih
      rw [← target]
      exact quiet.remote _
  | listen named => exact .listen named
  | writeUdp owned => exact .writeUdp (quiet.owns _ _ owned)
  | writeTcp owned => exact .writeTcp (quiet.owns _ _ owned)
  | received => exact .received
  | waiting => exact .waiting
  | @returned op post =>
      refine .returned ?_
      cases op with
      | connect remote =>
          intro success
          rw [quiet.returned] at success
          exact quiet.connected (post success)
      | _ => trivial

/-! ## The sections of an import -/

namespace Kept

theorem refl (v : View) : Kept sid v v :=
  ⟨rfl, rfl, fun _ => rfl, fun _ => rfl, fun _ _ => ⟨rfl, rfl⟩⟩

theorem trans {last : View} (first : Kept sid v after) (second : Kept sid after last) :
    Kept sid v last where
  entries := second.entries.trans first.entries
  size := second.size.trans first.size
  af ref := (second.af ref).trans (first.af ref)
  typ ref := (second.typ ref).trans (first.typ ref)
  others ref other :=
    ⟨(second.others ref other).1.trans (first.others ref other).1,
      (second.others ref other).2.trans (first.others ref other).2⟩

theorem ret (kept : Kept sid v after) (result : Int) : Kept sid v (after.ret result) :=
  ⟨kept.entries, kept.size, kept.af, kept.typ, kept.others⟩

theorem goto (kept : Kept sid v after) (pc : GuestPc) : Kept sid v (after.goto pc) :=
  ⟨kept.entries, kept.size, kept.af, kept.typ, kept.others⟩

theorem store (kept : Kept sid v after) (memory : Memory) : Kept sid v (after.store memory) :=
  ⟨kept.entries, kept.size, kept.af, kept.typ, kept.others⟩

theorem connect {sock : Nat} (named : sid = sock + 1) (remote : AddrPort) :
    Kept sid v (v.connect sock remote) where
  entries := rfl
  size := rfl
  af ref := Heap.get_modify_frame v.socks sock ref (fun face => { face with remote := remote })
    Face.af fun _ => rfl
  typ ref := Heap.get_modify_frame v.socks sock ref (fun face => { face with remote := remote })
    Face.typ fun _ => rfl
  others ref other := by
    have distinct : ref ≠ sock := by omega
    simp [View.connect, Heap.get_modify, distinct]

theorem listen {sock : Nat} (named : sid = sock + 1) : Kept sid v (v.listen sock) where
  entries := rfl
  size := rfl
  af ref := Heap.get_modify_frame v.socks sock ref
    (fun face => { face with udp := some v.owners.size }) Face.af fun _ => rfl
  typ ref := Heap.get_modify_frame v.socks sock ref
    (fun face => { face with udp := some v.owners.size }) Face.typ fun _ => rfl
  others ref other := by
    have distinct : ref ≠ sock := by omega
    simp [View.listen, Heap.get_modify, distinct]

end Kept

/-- Another socket stays connected. -/
theorem Kept.connected {id : Int} {remote : AddrPort} (kept : Kept sid v after)
    (other : (id - 1).toNat ≠ (sid - 1).toNat) (was : Connected v id remote) :
    Connected after id remote := by
  unfold Connected face at was ⊢
  rw [(kept.others _ other).1, (kept.others _ other).2, kept.typ]
  exact was

theorem Serving.kept (serving : Serving v sid op pc) (move : Move v pc after) :
    Kept sid v after := by
  have same : Kept sid v v := .refl v
  induction serving with
  | lookup =>
      cases move with
      | unknown => exact same.ret _
      | found => exact same.goto _
  | holding named =>
      cases move with
      | boundNew => exact (Kept.listen named).ret _
      | connectFailed | connectTcp => exact (Kept.connect named _).ret _
      | connectUdp => exact (Kept.connect named _).goto _
      | connectNew => exact ((Kept.connect named _).trans (.listen named)).goto _
      | received => exact (same.store _).ret _
      | receivedMore => exact (same.store _).goto _
      | sends | sendListen | sendUdp | sendTcp => exact same.goto _
      | failed | bound | error | localPort => exact same.ret _
  | connected | received =>
      cases move with
      | enqueued => exact same.ret _
      | stuck => exact same.goto _
  | announcing | waiting =>
      cases move
      exact same.ret _
  | onward _ _ ih => exact ih move
  | listen named =>
      cases move with
      | listenedNew => exact (Kept.listen named).goto _
      | listened => exact same.goto _
      | listenFailed => exact same.ret _
  | writeUdp | writeTcp =>
      cases move
      exact same.ret _
  | returned => cases move

theorem face_of_named {sock : Nat} (named : sid = sock + 1) : v.face sid = v.socks.get sock := by
  unfold face
  rw [show (sid - 1).toNat = sock by omega]

theorem connected_connect {sock : Nat} (named : sid = sock + 1) (remote : AddrPort)
    (ready : (v.socks.get sock).typ = .udp → (v.socks.get sock).udp.isSome = true) :
    Connected (v.connect sock remote) sid remote := by
  rw [Connected, face_of_named named]
  simp only [View.connect, Heap.get_modify_self]
  exact ⟨trivial, ready⟩

theorem connected_listen {sock : Nat} (named : sid = sock + 1) {remote : AddrPort}
    (target : (v.socks.get sock).remote = remote) : Connected (v.listen sock) sid remote := by
  rw [Connected, face_of_named named]
  simp only [View.listen, Heap.get_modify_self]
  exact ⟨target, fun _ => rfl⟩

/-- Opening a UDP socket disconnects nothing. -/
theorem still_listen (sock ref : Nat) :
    ((v.listen sock).socks.get ref).remote = (v.socks.get ref).remote ∧
      ((v.socks.get ref).udp.isSome = true →
        ((v.listen sock).socks.get ref).udp.isSome = true) := by
  simp only [View.listen, Heap.get_modify]
  split
  next same => exact ⟨by rw [same], fun _ => rfl⟩
  next => exact ⟨rfl, fun found => found⟩

/-- Only `sock_connect` changes where a socket sends to. -/
theorem Serving.still (serving : Serving v sid op pc) (move : Move v pc after)
    (other : ∀ remote, op ≠ .connect remote) (ref : Nat) :
    (after.socks.get ref).remote = (v.socks.get ref).remote ∧
      ((v.socks.get ref).udp.isSome = true → (after.socks.get ref).udp.isSome = true) := by
  induction serving with
  | lookup => cases move <;> exact ⟨rfl, fun found => found⟩
  | holding =>
      cases move with
      | boundNew => exact still_listen _ ref
      | connectFailed | connectUdp | connectNew | connectTcp => exact absurd rfl (other _)
      | _ => exact ⟨rfl, fun found => found⟩
  | connected | announcing => exact absurd rfl (other _)
  | onward _ _ ih => exact ih move fun _ => by simp
  | listen =>
      cases move with
      | listenedNew => exact still_listen _ ref
      | _ => exact ⟨rfl, fun found => found⟩
  | writeUdp | writeTcp | received | waiting => cases move <;> exact ⟨rfl, fun found => found⟩
  | returned => cases move

theorem Serving.stays (serving : Serving v sid op pc) (move : Move v pc after)
    (other : ∀ remote, op ≠ .connect remote) {id : Int} {remote : AddrPort}
    (was : Connected v id remote) : Connected after id remote := by
  obtain ⟨target, opened⟩ := serving.still move other (id - 1).toNat
  refine ⟨target.trans was.1, fun udp => opened (was.2 ?_)⟩
  rw [← udp]
  exact ((serving.kept move).typ _).symm

theorem connected_of_holding {sock : Nat} {remote target : AddrPort} (named : sid = sock + 1)
    (move : Move v (.holding sid sock (.connect target)) after) :
    (after.Settled ∧ Connected after sid target) ∨
      (after.guest = .running ∧ after.returned < 0 ∧
        (Connected v sid remote → Connected after sid remote)) := by
  cases move with
  | failed negative => exact .inr ⟨rfl, negative, fun was => was⟩
  | connectFailed negative typ udp =>
      refine .inr ⟨rfl, negative, fun was => ?_⟩
      rw [Connected, face_of_named named] at was
      have found := was.2 typ
      rw [udp] at found
      cases found
  | connectUdp udp => exact .inl ⟨.inl ⟨_, rfl⟩, connected_connect named _ fun _ => udp⟩
  | connectNew =>
      refine .inl ⟨.inl ⟨_, rfl⟩, connected_listen named ?_⟩
      simp [View.connect]
  | connectTcp typ =>
      refine .inl ⟨.inr (.inr ⟨rfl, Int.le_refl 0⟩), connected_connect named _ fun udp => ?_⟩
      rw [typ] at udp
      cases udp

/-- A `sock_connect` connects the socket, or fails and leaves it connected as it was. -/
theorem Serving.connect {remote target : AddrPort} (serving : Serving v sid (.connect target) pc)
    (move : Move v pc after) :
    (after.Settled ∧ Connected after sid target) ∨
      (Connected v sid remote → Connected after sid remote) := by
  cases serving with
  | lookup => cases move <;> exact .inr fun was => was
  | holding named => exact (connected_of_holding named move).imp_right fun failed => failed.2.2
  | connected done =>
      cases move with
      | enqueued => exact .inl ⟨.inr (.inr ⟨rfl, Int.le_refl 0⟩), done⟩
      | stuck => exact .inl ⟨.inr (.inl rfl), done⟩
  | announcing done =>
      cases move
      exact .inl ⟨.inr (.inr ⟨rfl, Int.le_refl 0⟩), done⟩
  | returned => cases move

theorem Sound.owns_udp {sock conn : Nat} (sound : v.Sound) (named : sid = sock + 1)
    (udp : (v.socks.get sock).udp = some conn) : v.Owns sid conn := by
  obtain ⟨allocated, owner⟩ := sound.udp sock conn udp
  exact ⟨allocated, by rw [owner]; exact named⟩

theorem Sound.owns_tcp {sock conn : Nat} (sound : v.Sound) (named : sid = sock + 1)
    (tcp : (v.socks.get sock).tcp = some conn) : v.Owns sid conn := by
  obtain ⟨allocated, owner⟩ := sound.tcp sock conn tcp
  exact ⟨allocated, by rw [owner]; exact named⟩

theorem serving_of_holding {sock : Nat} (sound : v.Sound) (named : sid = sock + 1)
    (move : Move v (.holding sid sock op) after) : Serving after sid op after.guest := by
  cases op with
  | connect target =>
      rcases @connected_of_holding v after sid sock target target named move with
        ⟨settled, done⟩ | ⟨ran, negative, -⟩
      · rcases settled with ⟨event, here⟩ | here | ⟨here, -⟩
        · rw [here]
          exact .connected done
        · rw [here]
          exact .announcing done
        · rw [here]
          exact .returned fun _ => done
      · rw [ran]
        exact .returned fun success => absurd negative (by omega)
  | send data =>
      cases move with
      | failed => exact .returned trivial
      | sends => exact .onward (congrArg Face.remote (face_of_named named)) .lookup
  | sendTo remote data =>
      cases move with
      | failed => exact .returned trivial
      | sendListen => exact .listen named
      | sendUdp udp => exact .writeUdp (sound.owns_udp named udp)
      | sendTcp tcp => exact .writeTcp (sound.owns_tcp named tcp)
  | recv ptr capacity fromOut =>
      cases move with
      | receivedMore => exact .received
      | _ => exact .returned trivial
  | bind | error | localPort => cases move <;> exact .returned trivial

/-- An import stays on its way from section to section. -/
theorem Serving.move (serving : Serving v sid op pc) (sound : v.Sound)
    (few : v.socks.size < 2 ^ 31 - 1) (move : Move v pc after) :
    Serving after sid op after.guest := by
  induction serving with
  | @lookup op =>
      cases move with
      | unknown =>
          refine .returned ?_
          cases op with
          | connect remote => exact fun success => absurd success (show ¬ 0 ≤ -wasiEBADF by decide)
          | _ => trivial
      | found found => exact .holding (sound.entry few _ _ found).1
  | holding named => exact serving_of_holding sound named move
  | connected done =>
      cases move with
      | enqueued => exact .returned fun _ => done
      | stuck => exact .announcing done
  | announcing done =>
      cases move
      exact .returned fun _ => done
  | @onward remote data pc target rest ih =>
      have still := (rest.still move (fun _ => by simp) (sid - 1).toNat).1
      exact .onward (still.trans target) (ih move)
  | listen named =>
      cases move with
      | listenFailed => exact .returned trivial
      | listened udp => exact .writeUdp (sound.owns_udp named udp)
      | listenedNew =>
          refine .writeUdp ⟨Nat.lt_succ_self _, ?_⟩
          simp [View.listen, View.goto, named]
  | writeUdp | writeTcp =>
      cases move
      exact .returned trivial
  | received =>
      cases move with
      | enqueued => exact .returned trivial
      | stuck => exact .waiting
  | waiting =>
      cases move
      exact .returned trivial
  | returned => cases move

theorem Move.size {pc : GuestPc} (move : Move v pc after) : v.socks.size ≤ after.socks.size := by
  cases move with
  | opened => exact Nat.le_succ _
  | _ => exact Nat.le_refl _

/-- Only `sock_recv` writes to the guest's memory. -/
theorem Serving.memory (serving : Serving v sid op pc) (move : Move v pc after) :
    after.memory = v.memory ∨ ∃ ptr capacity fromOut, op = .recv ptr capacity fromOut := by
  induction serving with
  | holding =>
      cases move with
      | received | receivedMore => exact .inr ⟨_, _, _, rfl⟩
      | _ => exact .inl rfl
  | onward _ _ ih =>
      rcases ih move with same | ⟨_, _, _, impossible⟩
      · exact .inl same
      · cases impossible
  | _ => cases move <;> exact .inl rfl

/-- What `sock_connect` has done stays done. -/
theorem Settled.move (settled : v.Settled) (move : Move v v.guest after) :
    after.Settled ∧ after.socks = v.socks := by
  rcases settled with ⟨event, pc⟩ | pc | ⟨pc, -⟩
  · rw [pc] at move
    cases move with
    | enqueued => exact ⟨.inr (.inr ⟨rfl, Int.le_refl 0⟩), rfl⟩
    | stuck => exact ⟨.inr (.inl rfl), rfl⟩
  · rw [pc] at move
    cases move
    exact ⟨.inr (.inr ⟨rfl, Int.le_refl 0⟩), rfl⟩
  · rw [pc] at move
    cases move

theorem Connected.of_socks {remote : AddrPort} (was : Connected v sid remote)
    (socks : after.socks = v.socks) : Connected after sid remote := by
  unfold Connected face at was ⊢
  rwa [socks]

end UnboundWasm.Host.Sockets.View
