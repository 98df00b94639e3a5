import UnboundWasm.Host.Sockets.State

/-!
# Host sockets: the imports

The `sock_*` imports as the guest calls them (`host.go`) and the sections they
run (`sockets.go`).  `call` covers everything up to the first lock: reading the
arguments out of guest memory, the range checks and the egress policy.
-/

namespace UnboundWasm.Host.Sockets

open UnboundWasm.Lib

/-- The socket imports with their raw arguments: 32-bit integers, and offsets
into guest memory. -/
inductive Import where
  | sockOpen (af typ : Int)
  | sockBind (sid port : Int)
  | sockConnect (sid : Int) (ipPtr ipLen : Nat) (port : Int)
  | sockSend (sid : Int) (ptr count : Nat)
  | sockSendTo (sid : Int) (ipPtr ipLen : Nat) (port : Int) (ptr count : Nat)
  | sockRecv (sid : Int) (ptr capacity : Nat)
  | sockRecvFrom (sid : Int) (ptr capacity ipOut portOut : Nat)
  | sockError (sid : Int)
  | sockLocalPort (sid : Int)
  | sockClose (sid : Int)
  deriving DecidableEq, Repr

/-- What the environment decides in a step: whether the network operation
fails, the local port the system picked, and how a select between two ready
cases goes. -/
structure Reply where
  err : Option NetError := none
  port : Nat := 0
  drop : Bool := false
  deriving DecidableEq, Repr

/-- `readAddr`: exactly 4 or 16 network-order bytes. -/
def readAddr (memory : Memory) (ptr count : Nat) : Option Addr :=
  match memory.read ptr count with
  | none => none
  | some bytes =>
      if count = 4 then some (.from4 bytes)
      else if count = 16 then some (.from16 bytes)
      else none

/-- `writeAddr`: sixteen bytes, an IPv4 address in the first four. -/
def writeAddr (memory : Memory) (ptr : Nat) (addr : Addr) : Option Memory :=
  if addr.is4 then
    memory.write ptr (addr.as4 ++ List.replicate 12 0)
  else
    memory.write ptr addr.as16

/-- `putU32`. -/
def putU32 (memory : Memory) (ptr value : Nat) : Option Memory :=
  memory.write ptr (wordBytes value)

namespace State

/-- `sockSendTo` up to its lookup. -/
def sockSendTo (s : State) (id : Int) (ip : Addr) (port : Int) (data : Bytes) : State :=
  if port ≤ 0 ∨ port > 65535 then
    s.ret (-wasiEINVAL)
  else if egressAllowed ⟨ip, port.toNat⟩ then
    s.goto (.lookup id (.sendTo ⟨ip, port.toNat⟩ data))
  else
    s.ret (-wasiEACCES)

/-- `sockConnect` up to its lookup. -/
def sockConnect (s : State) (id : Int) (ip : Addr) (port : Int) : State :=
  if port ≤ 0 ∨ port > 65535 then
    s.ret (-wasiEINVAL)
  else if egressAllowed ⟨ip, port.toNat⟩ then
    s.goto (.lookup id (.connect ⟨ip, port.toNat⟩))
  else
    s.ret (-wasiEACCES)

/-- An import is called. -/
def call (s : State) : Import → State
  | .sockOpen af typ =>
      if (af ≠ 4 ∧ af ≠ 6) ∨ (typ ≠ 1 ∧ typ ≠ 2) then
        s.ret (-wasiEAFNOSUPPORT)
      else
        s.goto (.openSocket (if af = 4 then .inet4 else .inet6)
          (if typ = 1 then .udp else .tcp))
  | .sockBind sid port =>
      if port < 0 ∨ port > 65535 then s.ret (-wasiEINVAL)
      else s.goto (.lookup sid (.bind port.toNat))
  | .sockConnect sid ipPtr ipLen port =>
      match readAddr s.memory ipPtr ipLen with
      | none => s.ret (-wasiEFAULT)
      | some ip => s.sockConnect sid ip port
  | .sockSend sid ptr count =>
      match s.memory.read ptr count with
      | none => s.ret (-wasiEFAULT)
      | some data => s.goto (.lookup sid (.send data))
  | .sockSendTo sid ipPtr ipLen port ptr count =>
      match readAddr s.memory ipPtr ipLen, s.memory.read ptr count with
      | some ip, some data => s.sockSendTo sid ip port data
      | _, _ => s.ret (-wasiEFAULT)
  | .sockRecv sid ptr capacity => s.goto (.lookup sid (.recv ptr capacity none))
  | .sockRecvFrom sid ptr capacity ipOut portOut =>
      s.goto (.lookup sid (.recv ptr capacity (some (ipOut, portOut))))
  | .sockError sid => s.goto (.lookup sid .error)
  | .sockLocalPort sid => s.goto (.lookup sid .localPort)
  | .sockClose sid => s.goto (.delete sid)

/-- The destinations an import carries to the section it is about to run have
passed the policy. -/
def OpPermitted : SockOp → Prop
  | .connect remote | .sendTo remote _ => egressAllowed remote = true
  | .bind _ | .send _ | .recv _ _ _ | .error | .localPort => True

/-- What a call can do before its first section. -/
inductive Entered (s : State) : State → Prop where
  | ret (result : Int) : Entered s (s.ret result)
  | openSocket (af : Family) (typ : SockType) : Entered s (s.goto (.openSocket af typ))
  | lookup (id : Int) (op : SockOp) :
      OpPermitted op → Entered s (s.goto (.lookup id op))
  | delete (id : Int) : Entered s (s.goto (.delete id))

theorem entered_sockSendTo (s : State) (id : Int) (ip : Addr) (port : Int) (data : Bytes) :
    Entered s (s.sockSendTo id ip port data) := by
  unfold sockSendTo
  split
  · exact .ret _
  · split
    next admitted => exact .lookup _ _ admitted
    next => exact .ret _

theorem entered_sockConnect (s : State) (id : Int) (ip : Addr) (port : Int) :
    Entered s (s.sockConnect id ip port) := by
  unfold sockConnect
  split
  · exact .ret _
  · split
    next admitted => exact .lookup _ _ admitted
    next => exact .ret _

theorem entered_call (s : State) (imp : Import) : Entered s (s.call imp) := by
  cases imp with
  | sockOpen af typ =>
      simp only [call]
      split
      · exact .ret _
      · exact .openSocket _ _
  | sockBind sid port =>
      simp only [call]
      split
      · exact .ret _
      · exact .lookup _ _ trivial
  | sockConnect sid ipPtr ipLen port =>
      simp only [call]
      split
      · exact .ret _
      · exact s.entered_sockConnect sid _ port
  | sockSend sid ptr count =>
      simp only [call]
      split
      · exact .ret _
      · exact .lookup _ _ trivial
  | sockSendTo sid ipPtr ipLen port ptr count =>
      simp only [call]
      split
      · exact s.entered_sockSendTo sid _ port _
      · exact .ret _
  | sockRecv | sockRecvFrom | sockError | sockLocalPort => exact .lookup _ _ trivial
  | sockClose sid => exact .delete sid

/-- The critical section of `sockOpen`. -/
def sockOpen (s : State) (af : Family) (typ : SockType) : State :=
  match s.sockets with
  | none => s.ret (-wasiEBADF)
  | some entries =>
      if entries.keys.length ≥ maxSocketsPerInstance then
        s.ret (-wasiEMFILE)
      else
        { s with
          nextSocket := toInt32 (s.nextSocket + 1)
          sockets := some (entries.insert s.nextSocket s.socks.size)
          socks := s.socks.alloc (.new s.nextSocket af typ) }.ret s.nextSocket

/-- The result of an import whose socket id is unknown. `sockError` reports a
positive errno. -/
def unknownSocket : SockOp → Int
  | .error => wasiEBADF
  | _ => -wasiEBADF

/-- `s.socket(id)`. -/
def lookupSock (s : State) (id : Int) (op : SockOp) : State :=
  match s.socket id with
  | none => s.ret (unknownSocket op)
  | some sock => s.goto (.holding id sock op)

/-- `listenUDPLocked`. -/
def listenUDPLocked (s : State) (sock : Nat) (reply : Reply) :
    State × Option NetError :=
  match (s.socks.get sock).udp, reply.err with
  | some _, _ => (s, none)
  | none, some err => (s, some err)
  | none, none =>
      (((s.allocConn ⟨sock, .udp, .zero, reply.port, true⟩).onSock sock fun sock =>
          { sock with udp := some s.conns.size, bindPort := reply.port % 65536 }).startReader
        sock s.conns.size, none)

/-- The critical section of `sockBind`. -/
def sockBind (s : State) (sock port : Nat) (reply : Reply) : State :=
  let locked := s.socks.get sock
  if locked.closed then
    s.ret (-wasiEBADF)
  else if locked.udp.isSome || locked.tcp.isSome then
    s.ret (-wasiEINVAL)
  else
    let bound := s.onSock sock fun sock => { sock with bindPort := port }
    match locked.typ with
    | .tcp => bound.ret 0
    | .udp =>
        match bound.listenUDPLocked sock reply with
        | (after, some err) => after.ret (-wasiErrno err)
        | (after, none) => after.ret 0

/-- The critical section of `sockConnect`. A dial runs in the background; UDP
readiness is reported after the section. -/
def sockConnectLocked (s : State) (id : Int) (sock : Nat) (remote : AddrPort)
    (reply : Reply) : State :=
  let locked := s.socks.get sock
  if locked.closed then
    s.ret (-wasiEBADF)
  else
    let connected := s.onSock sock fun sock => { sock with remote := remote }
    match locked.typ with
    | .udp =>
        match connected.listenUDPLocked sock reply with
        | (after, some err) => after.ret (-wasiErrno err)
        | (after, none) => after.goto (.enqueue (.io id ioWrite) 0)
    | .tcp =>
        if locked.tcp.isSome then
          connected.ret 0
        else
          (connected.startDial
            ⟨sock, locked.af, locked.bindPort, remote, .dialing⟩).ret 0

/-- The critical section of `sockSend`, and the call of `sockSendTo` after it. -/
def sockSendLocked (s : State) (id : Int) (sock : Nat) (data : Bytes) : State :=
  let remote := (s.socks.get sock).remote
  if remote.isValid then s.sockSendTo id remote.addr remote.port data
  else s.ret (-wasiENOTCONN)

/-- The first critical section of `sockSendTo`. A UDP socket that is not bound
yet is opened in a second one. -/
def sockSendToLocked (s : State) (sock : Nat) (remote : AddrPort) (data : Bytes) : State :=
  let locked := s.socks.get sock
  if locked.closed then
    s.ret (-wasiEBADF)
  else
    match locked.typ, locked.udp, locked.tcp with
    | .udp, none, _ => s.goto (.listen sock remote data)
    | .udp, some conn, _ => s.goto (.writeUdp conn remote data)
    | .tcp, _, none => s.ret (-wasiEAGAIN)
    | .tcp, _, some conn => s.goto (.writeTcp conn data)

/-- The second critical section of `sockSendTo`, which does not look at `closed`
again. -/
def sockSendListen (s : State) (sock : Nat) (remote : AddrPort) (data : Bytes)
    (reply : Reply) : State :=
  match s.listenUDPLocked sock reply with
  | (after, some err) => after.ret (-wasiErrno err)
  | (after, none) =>
      match (after.socks.get sock).udp with
      | none => after.ret (-wasiEINVAL)
      | some conn => after.goto (.writeUdp conn remote data)

/-- The result of writing `data` to a connection. -/
def written (s : State) (conn : Nat) (data : Bytes) (reply : Reply) : Int :=
  if (s.conns.get conn).isOpen then
    match reply.err with
    | some err => -wasiErrno err
    | none => toInt32 data.length
  else
    -wasiErrno .netClosed

/-- `udp.WriteToUDPAddrPort`. -/
def writeUdp (s : State) (conn : Nat) (remote : AddrPort) (data : Bytes)
    (reply : Reply) : State :=
  (s.observe (.udpWrite conn remote data)).ret (s.written conn data reply)

/-- `tcp.Write`. -/
def writeTcp (s : State) (conn : Nat) (data : Bytes) (reply : Reply) : State :=
  (s.observe (.tcpWrite conn data)).ret (s.written conn data reply)

/-- The first packet of a receive queue, cut to the caller's buffer, and the
queue after it: a datagram is consumed whole, a stream keeps its remainder. -/
def takePacket (typ : SockType) (capacity : Nat) :
    List ReceivedPacket → Option (ReceivedPacket × List ReceivedPacket)
  | [] => none
  | packet :: rest =>
      let chunk := { packet with data := packet.data.take capacity }
      if packet.data.length ≤ capacity ∨ typ = .udp then
        some (chunk, rest)
      else
        some (chunk, { packet with data := packet.data.drop capacity } :: rest)

/-- Copy a received packet to guest memory. The buffer and the two address
fields are written one after the other, so a later failure leaves the earlier
writes in place. -/
def deliver (memory : Memory) (ptr : Nat) (fromOut : Option (Nat × Nat))
    (packet : ReceivedPacket) : Memory × Bool :=
  match memory.write ptr packet.data with
  | none => (memory, false)
  | some filled =>
      match fromOut with
      | none => (filled, true)
      | some (ipOut, portOut) =>
          match writeAddr filled ipOut packet.source.addr with
          | none => (filled, false)
          | some addressed =>
              match putU32 addressed portOut packet.source.port with
              | none => (addressed, false)
              | some complete => (complete, true)

/-- The critical section of `sockRecv` and the copy to guest memory after it. -/
def sockRecvLocked (s : State) (id : Int) (sock ptr capacity : Nat)
    (fromOut : Option (Nat × Nat)) : State :=
  let locked := s.socks.get sock
  match takePacket locked.typ capacity locked.queue with
  | none =>
      let cleared := s.onSock sock fun sock => { sock with err := none }
      match locked.err with
      | some err => cleared.ret (-wasiErrno err)
      | none => cleared.ret (-wasiEAGAIN)
  | some (chunk, rest) =>
      let popped :=
        (s.onSock sock fun sock => { sock with queue := rest }).observe (.queued sock)
      match deliver s.memory ptr fromOut chunk with
      | (memory, false) => (popped.store memory).ret (-wasiEFAULT)
      | (memory, true) =>
          if rest.isEmpty then
            (popped.store memory).ret chunk.data.length
          else
            (popped.store memory).goto (.enqueue (.io id ioRead) chunk.data.length)

/-- The critical section of `sockError`. -/
def sockErrorLocked (s : State) (sock : Nat) : State :=
  match (s.socks.get sock).err with
  | none => s.ret 0
  | some err =>
      (s.onSock sock fun sock => { sock with err := none }).ret (wasiErrno err)

/-- The critical section of `sockLocalPort`. -/
def sockLocalPortLocked (s : State) (sock : Nat) : State :=
  let locked := s.socks.get sock
  match locked.udp, locked.tcp with
  | some conn, _ => s.ret (s.conns.get conn).localPort
  | none, some conn => s.ret (s.conns.get conn).localPort
  | none, none => s.ret locked.bindPort

/-- The section an import runs on the socket it has looked up. -/
def onHolding (s : State) (id : Int) (sock : Nat) (reply : Reply) : SockOp → State
  | .bind port => s.sockBind sock port reply
  | .connect remote => s.sockConnectLocked id sock remote reply
  | .send data => s.sockSendLocked id sock data
  | .sendTo remote data => s.sockSendToLocked sock remote data
  | .recv ptr capacity fromOut => s.sockRecvLocked id sock ptr capacity fromOut
  | .error => s.sockErrorLocked sock
  | .localPort => s.sockLocalPortLocked sock

/-- The critical section of `sockClose`. -/
def sockDelete (s : State) (id : Int) : State :=
  let deleted := { s with sockets := s.sockets.map (AList.erase id) }
  match s.socket id with
  | none => deleted.ret 0
  | some sock => deleted.goto (.close sock)

/-- An entry that is left was there before. -/
theorem socket_erase {s : State} {id other : Int} {sock : Nat}
    (found : { s with sockets := s.sockets.map (AList.erase id) }.socket other = some sock) :
    s.socket other = some sock := by
  cases present : s.sockets with
  | none => simp [socket, present] at found
  | some entries =>
      simp only [socket, present, Option.map_some, Option.bind_some] at found ⊢
      by_cases same : other = id
      · rw [same, AList.lookup_erase] at found
        cases found
      · rw [AList.lookup_erase_ne same] at found
        exact found

/-- The operating-system sockets `hostSocket.close` closes after its critical
section. -/
def toClose (sock : HostSocket) : List Nat :=
  if sock.closed then [] else sock.udp.toList ++ sock.tcp.toList

/-- The critical section of `hostSocket.close`. -/
def markClosed (s : State) (sock : Nat) : State :=
  s.onSock sock fun sock => { sock with closed := true }

end State

end UnboundWasm.Host.Sockets
