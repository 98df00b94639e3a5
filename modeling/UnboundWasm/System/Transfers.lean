import UnboundWasm.System.Descriptors

/-!
# Data and addresses from Unbound to the network and back

What Unbound passes to `sendto` and `send` is what the host hands to the network stack, on a
socket that was opened for that descriptor; what the host received is what `recvfrom` returns,
with the address it came from.  Addresses pass through `decode`, the ABI's byte strings, Go's
`netip` values and `encode` on the way, and keep their meaning.
-/

namespace UnboundWasm.System.Veneer

open UnboundWasm.Lib
open UnboundWasm.Guest (fdBase)
open UnboundWasm.Guest.Backend (lookup mem_of_lookup)
open UnboundWasm.Guest.Veneer UnboundWasm.Host.Sockets
open UnboundWasm.Host.Sockets.View

variable {sizeof : Host.Sockets.Family → Nat} {v after : View} {slots : Slots}
  {pending : Option Pending}

/-! ## Sending -/

/-- An import on a socket is past its call and has not returned. -/
def operates : GuestPc → Bool
  | .lookup _ _ | .holding _ _ _ | .listen _ _ _ | .writeUdp _ _ _ | .writeTcp _ _ | .enqueue _ _
  | .blocked _ => true
  | .outside | .running | .openSocket _ _ | .delete _ | .close _ | .closeConns _ => false

theorem Leaving.not_operates {sid : Int} (leaving : Leaving v sid) : operates v.guest = false := by
  rcases leaving with pc | ⟨⟨sock, pc⟩ | ⟨conns, pc⟩ | pc, -⟩
  all_goals
    rw [pc]
    rfl

/-- An import on a socket serves a call on the descriptor of that socket. -/
theorem Waits.serves (waits : Waits sizeof v slots pending) (busy : operates v.guest = true) :
    ∃ call locals op, pending = some (.waiting call locals) ∧
      lookup slots (descriptor call) = some locals.slot ∧ Decoded sizeof locals call ∧
      asked v.memory locals call = some op ∧ Serving v locals.slot.sid op v.guest := by
  cases waits with
  | idle pc =>
      rcases pc with pc | pc
      all_goals
        rw [pc] at busy
        cases busy
  | opening pc | refused pc | opened pc | failed _ _ pc =>
      rw [pc] at busy
      cases busy
  | discarding leaving | closing _ leaving =>
      rw [leaving.not_operates] at busy
      cases busy
  | serving found _ decoded request serving =>
      exact ⟨_, _, _, rfl, found, decoded, request, serving⟩

/-- The bytes that a call hands over to be sent. -/
def handedOver (memory : Memory) : Call → Option Bytes
  | .send _ buf n | .sendto _ buf n _ _ => memory.read buf (clamp n)
  | _ => none

/-- A write of the host that one of Unbound's calls has asked for: of the bytes in the caller's
buffer, on an operating-system socket created for the socket of the descriptor. -/
structure Sent (s : State) (call : Call) (locals : Locals) (conn : Nat) (data : Bytes) :
    Prop where
  pending : s.pending = some (.waiting call locals)
  found : lookup s.slots (descriptor call) = some locals.slot
  owner : locals.slot.sid = (s.host.conns.get conn).owner + 1
  bytes : handedOver s.host.memory call = some data

/-- Where a call wants its bytes to go: to the address that is passed, or to the peer that the
descriptor has recorded. -/
def Destined (locals : Locals) (dest : AddrPort) : Call → Prop
  | .sendto _ _ _ sa _ => sa.bind Sockaddr.remote = some dest
  | .send _ _ _ => locals.slot.peerlen ≠ 0 → dest = peerOf locals.slot
  | _ => False

variable {data : Bytes} {locals : Locals} {s : State}

theorem asked_sendTo {memory : Memory} {call : Call} {dest : AddrPort}
    (decoded : Decoded sizeof locals call)
    (request : asked memory locals call = some (.sendTo dest data)) :
    handedOver memory call = some data ∧ Destined locals dest call := by
  cases call with
  | sendto fd buf n sa sl =>
      obtain ⟨bytes, loaded, same⟩ := Option.map_eq_some_iff.mp request
      cases same
      cases sa with
      | none => cases decoded
      | some sa => exact ⟨loaded, remote_of_decode decoded⟩
  | _ => simp [asked] at request

theorem asked_send {memory : Memory} {call : Call}
    (request : asked memory locals call = some (.send data)) :
    handedOver memory call = some data ∧ ∃ fd buf n, call = .send fd buf n := by
  cases call with
  | send fd buf n =>
      obtain ⟨bytes, loaded, same⟩ := Option.map_eq_some_iff.mp request
      cases same
      exact ⟨loaded, fd, buf, n, rfl⟩
  | _ => simp [asked] at request

/-- What a request to send comes to, with where the host sends to. -/
theorem sent_of_serves (agrees : Agrees sizeof s.host.view s.slots s.pending) {call : Call}
    (waiting : s.pending = some (.waiting call locals))
    (found : lookup s.slots (descriptor call) = some locals.slot)
    (decoded : Decoded sizeof locals call) {op : SockOp}
    (request : asked s.host.memory locals call = some op) {conn : Nat} {dest : AddrPort}
    (owned : s.host.view.Owns locals.slot.sid conn) (writes : op = .sendTo dest data ∨
      op = .send data ∧ (s.host.view.face locals.slot.sid).remote = dest) :
    Sent s call locals conn data ∧ Destined locals dest call := by
  rcases writes with rfl | ⟨rfl, target⟩
  · obtain ⟨bytes, destined⟩ := asked_sendTo decoded request
    exact ⟨⟨waiting, found, owned.2, bytes⟩, destined⟩
  · obtain ⟨bytes, fd, buf, n, rfl⟩ := asked_send request
    refine ⟨⟨waiting, found, owned.2, bytes⟩, fun recorded => ?_⟩
    have peered := agrees.peered (by simp [waiting]) (mem_of_lookup found).2
    exact target.symm.trans (peered recorded).1

/-- A datagram that the host is about to write. -/
theorem sent_of_writeUdp (agrees : Agrees sizeof s.host.view s.slots s.pending) {conn : Nat}
    {dest : AddrPort} (writes : s.host.guest = .writeUdp conn dest data) :
    ∃ call locals, Sent s call locals conn data ∧ Destined locals dest call := by
  have writes : s.host.view.guest = .writeUdp conn dest data := writes
  obtain ⟨call, locals, op, waiting, found, decoded, request, serving⟩ :=
    agrees.waits.serves (by rw [writes]; rfl)
  rw [writes] at serving
  refine ⟨call, locals, ?_⟩
  cases serving with
  | writeUdp owned => exact sent_of_serves agrees waiting found decoded request owned (.inl rfl)
  | onward target rest =>
      cases rest with
      | writeUdp owned =>
          exact sent_of_serves agrees waiting found decoded request owned (.inr ⟨rfl, target⟩)

/-- Whatever the host is about to write to the network, one of Unbound's calls has asked for:
the bytes and the socket they go out of are those of the call, and over UDP where they go. -/
theorem writes_are_sends {s : State} (reachable : (machine sizeof).Reachable s)
    (few : s.host.socks.size < 2 ^ 31 - 1) :
    (∀ conn dest data, s.host.guest = .writeUdp conn dest data →
      ∃ call locals, Sent s call locals conn data ∧ Destined locals dest call) ∧
    ∀ conn data, s.host.guest = .writeTcp conn data →
      ∃ call locals, Sent s call locals conn data := by
  have agrees := agrees_of_reachable reachable few
  refine ⟨fun conn dest data writes => sent_of_writeUdp agrees writes, ?_⟩
  intro conn data writes
  have writes : s.host.view.guest = .writeTcp conn data := writes
  obtain ⟨call, locals, op, waiting, found, decoded, request, serving⟩ :=
    agrees.waits.serves (by rw [writes]; rfl)
  rw [writes] at serving
  refine ⟨call, locals, ?_⟩
  cases serving with
  | writeTcp owned =>
      exact (sent_of_serves agrees waiting found decoded request owned (.inl rfl)).1
  | onward target rest =>
      cases rest with
      | writeTcp owned =>
          exact (sent_of_serves agrees waiting found decoded request owned (.inr ⟨rfl, target⟩)).1

/-- Unbound opens a UDP socket and sends one byte to 8.8.8.8 from it, up to the write. -/
def sendByte : List Action :=
  [.host .enter, .host (.compute ⟨64, fun _ => 7⟩),
   .call (.socket (some .inet4) (some .udp)) ⟨0, 16⟩,
   .host (.guest {}), .resume,
   .call (.sendto fdBase 32 1 (some (.inet (htons 53) #v[8, 8, 8, 8])) 16) ⟨0, 16⟩,
   .host (.guest {}), .host (.guest {}), .host (.guest {})]

theorem writes_are_sends_sendByte :
    ∃ s, (machine fun _ => 16).run (machine fun _ => 16).initial sendByte = some s ∧
      s.host.guest = .writeUdp 0 ⟨.v4 (ip4 8 8 8 8), 53⟩ [7] ∧
      ∃ call locals, Sent s call locals 0 [7] ∧
        Destined locals ⟨.v4 (ip4 8 8 8 8), 53⟩ call := by
  obtain ⟨s, ran, writes, small⟩ : ∃ s,
      (machine fun _ => 16).run (machine fun _ => 16).initial sendByte = some s ∧
      s.host.guest = .writeUdp 0 ⟨.v4 (ip4 8 8 8 8), 53⟩ [7] ∧ s.host.socks.size = 1 :=
    ⟨_, rfl, rfl, rfl⟩
  have few : s.host.socks.size < 2 ^ 31 - 1 := by rw [small]; decide
  exact ⟨s, ran, writes, (writes_are_sends (Machine.reaches_of_run ran) few).1 _ _ _ writes⟩

/-! ## The peer of a descriptor -/

/-- When the host writes a datagram for `uw_send`, `uw_getpeername` names its destination, where
the descriptor was connected to an address of its own family. -/
theorem getpeername_names_destination {s : State} (reachable : (machine sizeof).Reachable s)
    (few : s.host.socks.size < 2 ^ 31 - 1) {conn : Nat} {dest : AddrPort} {data : Bytes}
    (writes : s.host.guest = .writeUdp conn dest data) {fd : Int} {buf n : Nat} {locals : Locals}
    (sending : s.pending = some (.waiting (.send fd buf n) locals))
    (family : locals.slot.peerlen = width locals.slot.af) {frame : Frame} {room : Option Nat}
    {outcome : Outcome} {sa : Sockaddr}
    (answered : start sizeof s.slots s.host.memory frame (.getpeername fd room) =
      some (.done s.slots outcome))
    (address : outcome.address = some sa) : sa.remote = some dest := by
  have agrees := agrees_of_reachable reachable few
  obtain ⟨call, others, sent, destined⟩ := sent_of_writeUdp agrees writes
  have waiting := sent.pending
  rw [sending] at waiting
  cases waiting
  have found : lookup s.slots fd = some locals.slot := sent.found
  obtain ⟨-, ⟨full, small⟩, -⟩ := agrees.table.fits _ _ (mem_of_lookup found).2
  have enough : width locals.slot.af ≤ locals.slot.peer.length := by
    rw [full]
    cases locals.slot.af <;> decide
  have recorded : locals.slot.peerlen ≠ 0 := by
    rw [family]
    cases locals.slot.af <;> decide
  rw [destined recorded]
  -- What `encode` wrote.
  simp only [start, found, if_neg recorded, named] at answered
  split at answered
  next =>
    cases answered
    cases address
  next encoded =>
    cases answered
    cases address
    rw [remote_of_encode encoded enough small, peerOf, family]

/-- Unbound connects a UDP socket to 8.8.8.8 and sends one byte, up to the write. -/
def connectAndSend : List Action :=
  [.host .enter, .host (.compute ⟨64, fun _ => 7⟩),
   .call (.socket (some .inet4) (some .udp)) ⟨0, 16⟩, .host (.guest {}), .resume,
   .call (.connect fdBase (some (.inet (htons 53) #v[8, 8, 8, 8])) 16) ⟨0, 16⟩,
   .host (.guest {}), .host (.guest {}), .host (.guest {}), .resume,
   .call (.send fdBase 32 1) ⟨0, 16⟩, .host (.guest {}), .host (.guest {}), .host (.guest {}),
   .host (.guest {})]

theorem getpeername_names_destination_connectAndSend :
    ∃ s sa, (machine fun _ => 16).run (machine fun _ => 16).initial connectAndSend = some s ∧
      s.host.guest = .writeUdp 0 ⟨.v4 (ip4 8 8 8 8), 53⟩ [7] ∧
      start (fun _ => 16) s.slots s.host.memory ⟨0, 16⟩ (.getpeername fdBase (some 16)) =
        some (.done s.slots { result := 0, address := some sa }) ∧
      sa.remote = some ⟨.v4 (ip4 8 8 8 8), 53⟩ := by
  obtain ⟨s, locals, sa, ran, small, writes, sending, family, answered⟩ : ∃ s locals sa,
      (machine fun _ => 16).run (machine fun _ => 16).initial connectAndSend = some s ∧
      s.host.socks.size = 1 ∧ s.host.guest = .writeUdp 0 ⟨.v4 (ip4 8 8 8 8), 53⟩ [7] ∧
      s.pending = some (.waiting (.send fdBase 32 1) locals) ∧
      locals.slot.peerlen = width locals.slot.af ∧
      start (fun _ => 16) s.slots s.host.memory ⟨0, 16⟩ (.getpeername fdBase (some 16)) =
        some (.done s.slots { result := 0, address := some sa }) :=
    ⟨_, _, _, rfl, rfl, rfl, rfl, rfl, rfl⟩
  have few : s.host.socks.size < 2 ^ 31 - 1 := by rw [small]; decide
  exact ⟨s, sa, ran, writes, answered, getpeername_names_destination
    (Machine.reaches_of_run ran) few writes sending family answered rfl⟩

/-! ## Receiving -/

/-- The import of a call has its result and returns it. -/
structure Returns (s : State) (pending : Pending) (memory : Memory) (result : Int) : Prop where
  pending : s.pending = some pending
  memory : s.host.memory = memory
  pc : (s.host.guest = .running ∧ s.host.returned = result) ∨
    (∃ event, s.host.guest = .enqueue event result) ∨ s.host.guest = .blocked result

theorem Returns.quiet {pending : Pending} {memory : Memory} {result : Int}
    {host : Host.Sockets.State} (returns : Returns s pending memory result)
    (quiet : Quiet s.host.view host.view) :
    Returns { s with host := host } pending memory result where
  pending := returns.pending
  memory := quiet.memory.trans returns.memory
  pc := by
    have guest : host.guest = s.host.guest := quiet.guest
    have returned : host.returned = s.host.returned := quiet.returned
    simp only [guest, returned]
    exact returns.pc

theorem Returns.move {pending : Pending} {memory : Memory} {result : Int}
    {host : Host.Sockets.State} (returns : Returns s pending memory result)
    (move : Move s.host.view s.host.view.guest host.view) :
    Returns { s with host := host } pending memory result := by
  have kept : host.view.memory = s.host.view.memory ∧
      ((host.view.guest = .running ∧ host.view.returned = result) ∨
        host.view.guest = .blocked result) := by
    generalize host.view = after at move
    rcases returns.pc with ⟨pc, -⟩ | ⟨event, pc⟩ | pc
    · rw [show s.host.view.guest = _ from pc] at move
      cases move
    · rw [show s.host.view.guest = _ from pc] at move
      cases move with
      | enqueued => exact ⟨rfl, .inl ⟨rfl, rfl⟩⟩
      | stuck => exact ⟨rfl, .inr rfl⟩
    · rw [show s.host.view.guest = _ from pc] at move
      cases move
      exact ⟨rfl, .inl ⟨rfl, rfl⟩⟩
  exact ⟨returns.pending, kept.1.trans returns.memory, kept.2.imp_right .inr⟩

/-- Until the call is resumed, nothing comes between. -/
theorem Returns.step {after : State} {pending : Pending} {memory : Memory} {result : Int}
    {action : Action} (returns : Returns s pending memory result) (other : action ≠ .resume)
    (stepped : s.step sizeof action = some after) : Returns after pending memory result := by
  cases action with
  | host action =>
      simp only [State.step] at stepped
      split at stepped
      next admitted =>
        obtain ⟨host, moved, rfl⟩ := Option.map_eq_some_iff.mp stepped
        cases action with
        | enter | dispatch | leave | compute =>
            simp [State.admits, returns.pending] at admitted
        | call imp => cases admitted
        | guest reply => exact returns.move (Host.Sockets.State.move_of_guestStep moved)
        | dial | reader | shutdown =>
            exact returns.quiet (Host.Sockets.State.beside_of_step moved rfl).quiet
      next => cases stepped
  | call call frame =>
      simp only [State.step, returns.pending] at stepped
      split at stepped
      next idle => cases idle.2
      next => cases stepped
  | resume => exact absurd rfl other

end UnboundWasm.System.Veneer
