import UnboundWasm.Guest.Backend
import UnboundWasm.Host.Sockets.Receive

/-!
# The guest's BSD sockets

`sockets.c`: the socket calls Unbound is compiled against, over the host's imports.  A call
runs up to the import it makes and is resumed with the import's result, so the code here is
two functions, `start` and `resume`, over the table of slots.  What a `struct sockaddr` holds
is a value; its bytes in memory are wasi-libc's.  The local `ip` and `p` that the imports read
and write through pointers are in the guest's memory, in the frame of the call.

The calls that make no import and touch no slot (`fcntl`, `setsockopt`, `shutdown` and the
stubs) are left out.
-/

namespace UnboundWasm.Guest.Veneer

open UnboundWasm.Lib UnboundWasm.Host.Sockets
open UnboundWasm.Guest.Backend (slotOf lookup release)
open UnboundWasm.Host (wasiEAFNOSUPPORT wasiEBADF wasiEFAULT wasiEINVAL wasiEMFILE wasiENOTCONN)

/-- What a `struct sockaddr` holds. Ports are in network order. -/
inductive Sockaddr where
  | inet (port : UInt16) (addr : Vector UInt8 4)
  | inet6 (port : UInt16) (flowinfo : UInt32) (addr : Vector UInt8 16) (scope : UInt32)
  | other
  deriving DecidableEq, Repr

/-- `ntohs` on the little-endian guest. -/
def ntohs (port : UInt16) : UInt16 := .ofNat (port.toNat % 256 * 256 + port.toNat / 256)

/-- `htons`. -/
def htons (port : UInt16) : UInt16 := ntohs port

/-- `memcpy` of the first bytes of the local `ip`. -/
def copied (count : Nat) (ip : Bytes) : Vector UInt8 count := Vector.ofFn fun i => ip.getD i 0

section Addresses

-- `sizeof(struct sockaddr_in)` and `sizeof(struct sockaddr_in6)`, which are wasi-libc's.
variable (sizeof : Family → Nat)

/-- `decode`, for the address bytes and the port; the error is `errno`. -/
def decode (sa : Option Sockaddr) (n : Nat) : Except Int (Bytes × Nat) :=
  match sa with
  | none => .error wasiEFAULT
  | some (.inet port addr) =>
      if n ≥ sizeof .inet4 then .ok (addr.toList, (ntohs port).toNat)
      else .error wasiEAFNOSUPPORT
  | some (.inet6 port _ addr _) =>
      if n ≥ sizeof .inet6 then .ok (addr.toList, (ntohs port).toNat)
      else .error wasiEAFNOSUPPORT
  | some .other => .error wasiEAFNOSUPPORT

/-- `encode`. The room is `*n`, none where `sa` or `n` is NULL. -/
def encode (room : Option Nat) (af : Family) (ip : Bytes) (port : Nat) : Except Int Sockaddr :=
  match room, af with
  | none, _ => .error wasiEFAULT
  | some n, .inet4 =>
      if n < sizeof .inet4 then .error wasiEINVAL
      else .ok (.inet (htons (.ofNat port)) (copied 4 ip))
  | some n, .inet6 =>
      if n < sizeof .inet6 then .error wasiEINVAL
      else .ok (.inet6 (htons (.ofNat port)) 0 (copied 16 ip) 0)

end Addresses

/-- `struct slot` of a slot in use. -/
structure Slot where
  sid : Int
  af : Family
  typ : SockType
  peer : Bytes
  peerlen : Nat
  peerport : Nat
  deriving DecidableEq, Repr

/-- `memset` and the assignments of `uw_socket`. -/
def Slot.new (sid : Int) (af : Family) (typ : SockType) : Slot :=
  ⟨sid, af, typ, List.replicate 16 0, 0, 0⟩

/-- The assignments of `uw_connect`. -/
def Slot.connected (slot : Slot) (ip : Bytes) (port : Nat) : Slot :=
  { slot with peer := ip ++ slot.peer.drop ip.length, peerlen := ip.length, peerport := port }

abbrev Slots := List (Option Slot)

/-- The options `uw_getsockopt` tells apart. -/
inductive SockOption where
  | error | type | other
  deriving DecidableEq, Repr

/-- What `uw_getsockopt` stores: a number, or `SOCK_DGRAM` or `SOCK_STREAM`. -/
inductive OptionValue where
  | number (value : Int)
  | type (typ : SockType)
  deriving DecidableEq, Repr

/-- A call of Unbound. `af` and `type` are none where they are not one of the two known values;
`sl`, `n` and `room` are the lengths behind the pointers, none where one is NULL. -/
inductive Call where
  | socket (af : Option Family) (type : Option SockType)
  | bind (fd : Int) (sa : Option Sockaddr) (n : Nat)
  | connect (fd : Int) (sa : Option Sockaddr) (n : Nat)
  | send (fd : Int) (buf n : Nat)
  | sendto (fd : Int) (buf n : Nat) (sa : Option Sockaddr) (sl : Nat)
  | recv (fd : Int) (buf n : Nat)
  | recvfrom (fd : Int) (buf n : Nat) (sl : Option Nat)
  | close (fd : Int)
  | getsockname (fd : Int) (room : Option Nat)
  | getpeername (fd : Int) (room : Option Nat)
  | getsockopt (fd : Int) (option : SockOption) (n : Option Nat)
  deriving DecidableEq, Repr

/-- What a call leaves behind. -/
structure Outcome where
  result : Int
  errno : Option Int := none
  address : Option Sockaddr := none
  value : Option OptionValue := none
  deriving DecidableEq, Repr

/-- `errno = ...; return -1`. -/
def Outcome.error (errno : Int) : Outcome := { result := -1, errno := some errno }

/-- `fail`. -/
def fail (r : Int) : Outcome := if r < 0 then .error (-r) else { result := r }

/-- Where the locals `ip` and `p` of a call are. -/
structure Frame where
  ip : Nat
  p : Nat
  deriving DecidableEq, Repr

/-- The locals of a call that waits for its import: what `s` points to, and what `decode` gave. -/
structure Locals where
  slot : Slot
  ip : Bytes
  port : Nat
  frame : Frame
  deriving DecidableEq, Repr

/-- What is left of a call once its import returns. `uw_socket` makes two imports where its table
is full. -/
inductive Pending where
  | opening (af : Family) (typ : SockType)
  | discarding (sid : Int)
  | waiting (call : Call) (locals : Locals)
  deriving DecidableEq, Repr

/-- A call returns, or it makes an import. -/
inductive Turn where
  | done (slots : Slots) (outcome : Outcome)
  | ask (memory : Memory) (imp : Import) (pending : Pending)

/-- The address family and the socket type in the ABI. -/
def afNumber : Family → Int
  | .inet4 => 4
  | .inet6 => 6

def typNumber : SockType → Int
  | .udp => 1
  | .tcp => 2

/-- `if (n > INT32_MAX) n = INT32_MAX`. -/
def clamp (n : Nat) : Nat := min n (2 ^ 31 - 1)

section Calls

variable (sizeof : Family → Nat) (slots : Slots) (memory : Memory) (frame : Frame)

/-- The calls that need no address: `lookup` and the import. -/
def withSlot (call : Call) (fd : Int) (imp : Slot → Import) : Turn :=
  match lookup slots fd with
  | none => .done slots (.error wasiEBADF)
  | some slot => .ask memory (imp slot) (.waiting call ⟨slot, [], 0, frame⟩)

/-- The calls that are passed an address: `lookup`, `decode` and the import. -/
def withAddress (call : Call) (fd : Int) (sa : Option Sockaddr) (n : Nat)
    (imp : Slot → Bytes → Nat → Import) : Option Turn :=
  match lookup slots fd with
  | none => some (.done slots (.error wasiEBADF))
  | some slot =>
      match decode sizeof sa n with
      | .error errno => some (.done slots (.error errno))
      | .ok (ip, port) =>
          (memory.write frame.ip ip).map fun memory =>
            .ask memory (imp slot ip port) (.waiting call ⟨slot, ip, port, frame⟩)

/-- What `encode` leaves behind in the calls that end with it. -/
def named (room : Option Nat) (af : Family) (ip : Bytes) (port : Nat) : Outcome :=
  match encode sizeof room af ip port with
  | .error errno => .error errno
  | .ok sa => { result := 0, address := some sa }

/-- A call up to its first import. There is no turn where the frame is not in memory. -/
def start : Call → Option Turn
  | .socket (some af) (some typ) =>
      some (.ask memory (.sockOpen (afNumber af) (typNumber typ)) (.opening af typ))
  | .socket _ _ => some (.done slots (.error wasiEAFNOSUPPORT))
  | .bind fd sa n =>
      withAddress sizeof slots memory frame (.bind fd sa n) fd sa n fun slot _ port =>
        .sockBind slot.sid port
  | .connect fd sa n =>
      withAddress sizeof slots memory frame (.connect fd sa n) fd sa n fun slot ip port =>
        .sockConnect slot.sid frame.ip ip.length port
  | .send fd buf n =>
      some (withSlot slots memory frame (.send fd buf n) fd fun slot =>
        .sockSend slot.sid buf (clamp n))
  | .sendto fd buf n sa sl =>
      withAddress sizeof slots memory frame (.sendto fd buf n sa sl) fd sa sl fun slot ip port =>
        .sockSendTo slot.sid frame.ip ip.length port buf (clamp n)
  | .recv fd buf n =>
      some (withSlot slots memory frame (.recv fd buf n) fd fun slot =>
        .sockRecv slot.sid buf (clamp n))
  | .recvfrom fd buf n sl =>
      (putU32 memory frame.p 0).map fun memory =>
        withSlot slots memory frame (.recvfrom fd buf n sl) fd fun slot =>
          .sockRecvFrom slot.sid buf (clamp n) frame.ip frame.p
  | .close fd =>
      match lookup slots fd with
      | none => some (.done slots { result := 0 })
      | some slot =>
          some (.ask memory (.sockClose slot.sid) (.waiting (.close fd) ⟨slot, [], 0, frame⟩))
  | .getsockname fd room =>
      some (withSlot slots memory frame (.getsockname fd room) fd fun slot =>
        .sockLocalPort slot.sid)
  | .getpeername fd room =>
      match lookup slots fd with
      | none => some (.done slots (.error wasiENOTCONN))
      | some slot =>
          some (.done slots (if slot.peerlen = 0 then .error wasiENOTCONN
            else named sizeof room slot.af slot.peer slot.peerport))
  | .getsockopt fd option n =>
      match lookup slots fd with
      | none => some (.done slots (.error wasiEBADF))
      | some slot =>
          if n.all (· < 4) then some (.done slots (.error wasiEINVAL))
          else
            match option with
            | .error =>
                some (.ask memory (.sockError slot.sid)
                  (.waiting (.getsockopt fd .error n) ⟨slot, [], 0, frame⟩))
            | .type => some (.done slots { result := 0, value := some (.type slot.typ) })
            | .other => some (.done slots { result := 0, value := some (.number 0) })

/-- `uw_recvfrom` after its import: a failure of `encode` sets `errno` and no more. -/
def receivedFrom (r : Int) (sl : Option Nat) (af : Family) (ip : Bytes) (p : Nat) : Outcome :=
  match sl with
  | none => { result := r }
  | some n =>
      match encode sizeof (some n) af ip p with
      | .error errno => { result := r, errno := some errno }
      | .ok sa => { result := r, address := some sa }

/-- A call from the return of its import on. -/
def resume (r : Int) : Pending → Option Turn
  | .opening af typ =>
      if r < 0 then some (.done slots (fail r))
      else
        match Backend.freeSlot slots with
        | some i => some (.done (slots.set i (some (.new r af typ))) { result := fdBase + i })
        | none => some (.ask memory (.sockClose r) (.discarding r))
  | .discarding _ => some (.done slots (.error wasiEMFILE))
  | .waiting (.connect fd _ _) locals =>
      if r < 0 then some (.done slots (fail r))
      else
        some (.done (slots.set (slotOf fd) (some (locals.slot.connected locals.ip locals.port)))
          { result := 0 })
  | .waiting (.recvfrom _ _ _ sl) locals =>
      if r < 0 then some (.done slots (fail r))
      else
        match memory.read locals.frame.ip 16, memory.read locals.frame.p 4 with
        | some ip, some p =>
            some (.done slots (receivedFrom sizeof r sl locals.slot.af ip (bytesWord p)))
        | _, _ => none
  | .waiting (.close fd) _ => some (.done (release slots fd) { result := 0 })
  | .waiting (.getsockname _ room) locals =>
      if r < 0 then some (.done slots (fail r))
      else
        some (.done slots
          (named sizeof room locals.slot.af (List.replicate 16 0) r.toNat))
  | .waiting (.getsockopt _ _ _) _ =>
      some (.done slots { result := 0, value := some (.number r) })
  | .waiting (.bind _ _ _) _ | .waiting (.send _ _ _) _ | .waiting (.sendto _ _ _ _ _) _
  | .waiting (.recv _ _ _) _ => some (.done slots (fail r))
  | .waiting (.socket _ _) _ | .waiting (.getpeername _ _) _ => none

end Calls

/-! ## What an address means -/

/-- The destination a socket address names. -/
def Sockaddr.remote : Sockaddr → Option AddrPort
  | .inet port addr => some ⟨.from4 addr.toList, (ntohs port).toNat⟩
  | .inet6 port _ addr _ => some ⟨.from16 addr.toList, (ntohs port).toNat⟩
  | .other => none

/-- The address the host makes of the bytes it is passed. -/
def addrOf (ip : Bytes) : Addr := if ip.length = 4 then .from4 ip else .from16 ip

/-- How many bytes an address of a family has. -/
def width : Family → Nat
  | .inet4 => 4
  | .inet6 => 16

theorem toNat_ntohs (port : UInt16) :
    (ntohs port).toNat = port.toNat % 256 * 256 + port.toNat / 256 := by
  have small := port.toNat_lt
  rw [ntohs, UInt16.toNat_ofNat']
  exact Nat.mod_eq_of_lt (by omega)

theorem ntohs_htons (port : UInt16) : ntohs (htons port) = port := by
  apply UInt16.toNat_inj.mp
  have small := port.toNat_lt
  have low : (port.toNat % 256 * 256 + port.toNat / 256) % 256 = port.toNat / 256 := by omega
  have high : (port.toNat % 256 * 256 + port.toNat / 256) / 256 = port.toNat % 256 := by omega
  rw [htons, toNat_ntohs, toNat_ntohs, low, high]
  omega

theorem toList_copied {count : Nat} {ip : Bytes} (enough : count ≤ ip.length) :
    (copied count ip).toList = ip.take count := by
  rw [copied, Vector.toList_ofFn]
  apply List.ext_getElem
  · simp [enough]
  · intro i inside inTake
    have short : i < ip.length := by simp at inTake; omega
    simp [List.getD_eq_getElem?_getD, short]

section

variable {sizeof : Family → Nat}

theorem bounds_of_decode {sa : Option Sockaddr} {n port : Nat} {ip : Bytes}
    (decoded : decode sizeof sa n = .ok (ip, port)) :
    (ip.length = 4 ∨ ip.length = 16) ∧ port < 65536 := by
  unfold decode at decoded
  split at decoded
  next => cases decoded
  next number addr =>
    split at decoded <;> cases decoded
    exact ⟨.inl (by simp), (ntohs number).toNat_lt⟩
  next number _ addr _ =>
    split at decoded <;> cases decoded
    exact ⟨.inr (by simp), (ntohs number).toNat_lt⟩
  next => cases decoded

/-- `decode` reads the destination a socket address names. -/
theorem remote_of_decode {sa : Sockaddr} {n port : Nat} {ip : Bytes}
    (decoded : decode sizeof (some sa) n = .ok (ip, port)) :
    sa.remote = some ⟨addrOf ip, port⟩ := by
  cases sa with
  | inet number addr | inet6 number flowinfo addr scope =>
      simp only [decode] at decoded
      split at decoded <;> cases decoded
      simp [Sockaddr.remote, addrOf]
  | other => cases decoded

/-- `encode` writes a socket address that names the destination. -/
theorem remote_of_encode {room : Option Nat} {af : Family} {ip : Bytes} {port : Nat} {sa : Sockaddr}
    (encoded : encode sizeof room af ip port = .ok sa) (enough : width af ≤ ip.length)
    (fits : port < 65536) : sa.remote = some ⟨addrOf (ip.take (width af)), port⟩ := by
  have number : (ntohs (htons (.ofNat port))).toNat = port := by
    rw [ntohs_htons, UInt16.toNat_ofNat']
    omega
  unfold encode at encoded
  split at encoded
  next => cases encoded
  next =>
    split at encoded <;> cases encoded
    have enough : 4 ≤ ip.length := enough
    have length : (ip.take 4).length = 4 := List.length_take_of_le enough
    simp only [Sockaddr.remote, number, toList_copied enough, width, addrOf, length, if_true]
  next =>
    split at encoded <;> cases encoded
    have enough : 16 ≤ ip.length := enough
    have length : (ip.take 16).length = 16 := List.length_take_of_le enough
    have other : ¬ 16 = 4 := by decide
    simp only [Sockaddr.remote, number, toList_copied enough, width, addrOf, length, other,
      if_false]

end

/-- The host reads the address the guest stored in its frame. -/
theorem readAddr_of_write {memory after : Memory} {ptr : Nat} {ip : Bytes}
    (written : memory.write ptr ip = some after) (length : ip.length = 4 ∨ ip.length = 16) :
    readAddr after ptr ip.length = some (addrOf ip) := by
  unfold readAddr
  rw [Memory.read_write written]
  rcases length with four | sixteen
  · simp [addrOf, four]
  · simp [addrOf, sixteen]

end UnboundWasm.Guest.Veneer
