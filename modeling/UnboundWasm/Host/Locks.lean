import UnboundWasm.Lib.Locks

/-!
# Locks of the host

The locks and `sync.Once` values of `host.go`, `sockets.go`, `runtime.go` and `zygote.go`,
and what each goroutine takes of them in which order.  What the branches of the code
depend on is left open, so a loop that may return early is one that may also go on.  An
`enqueue` may find the queue full wherever it is called, and then shuts the instance
down.  Instances and sockets are numbered; a panic in a host call is a return from it,
because no lock is held there but by functions that defer the release.
-/

namespace UnboundWasm.Host.Locks

open UnboundWasm.Lib.Locks
open UnboundWasm.Lib.Locks.Code

/-- The locks of a runtime, of its instances and of their sockets. -/
inductive Lock where
  | zygoteOnce
  | mu
  | guestMu (i : Nat)
  | once (i : Nat)
  | timersMu (i : Nat)
  | socketsMu (i : Nat)
  | sockMu (i sock : Nat)
  deriving DecidableEq, Repr

/-! ## Shutting down -/

/-- `hostSocket.close`. -/
def hostSocketClose (i sock : Nat) : Code Lock := critical (.sockMu i sock)

/-- `instanceState.shutdown`, which is what `close` and `fail` do. -/
def shutdown (i : Nat) : Code Lock :=
  .once (.once i) <| inOrder
    [critical (.timersMu i),
      .locked .write (.socketsMu i) (.loop (.pick fun sock => hostSocketClose i sock))]

/-- `instanceState.enqueue`. -/
def enqueue (i : Nat) : Code Lock := maybe (shutdown i)

/-! ## Host calls -/

/-- `Runtime.state`. -/
def state : Code Lock := .locked .read .mu .skip

/-- `Runtime.removeState`. -/
def removeState : Code Lock := critical .mu

/-- `instanceState.socket`, and what is done with the socket if there is one. -/
def socket (i : Nat) (body : Nat → Code Lock) : Code Lock :=
  inOrder [critical (.socketsMu i), maybe (.pick body)]

def sockOpen (i : Nat) : Code Lock := maybe (critical (.socketsMu i))

def sockBind (i : Nat) : Code Lock := maybe <| socket i fun sock => critical (.sockMu i sock)

def sockConnect (i : Nat) : Code Lock :=
  maybe <| socket i fun sock => inOrder [critical (.sockMu i sock), maybe (enqueue i)]

def sockSendTo (i : Nat) : Code Lock :=
  maybe <| socket i fun sock =>
    inOrder [critical (.sockMu i sock), maybe (critical (.sockMu i sock))]

def sockSend (i : Nat) : Code Lock :=
  socket i fun sock => inOrder [critical (.sockMu i sock), maybe (sockSendTo i)]

def sockRecv (i : Nat) : Code Lock :=
  socket i fun sock => inOrder [critical (.sockMu i sock), maybe (enqueue i)]

def sockError (i : Nat) : Code Lock := socket i fun sock => critical (.sockMu i sock)

def sockLocalPort (i : Nat) : Code Lock := socket i fun sock => critical (.sockMu i sock)

def sockClose (i : Nat) : Code Lock :=
  inOrder [critical (.socketsMu i), maybe (.pick fun sock => hostSocketClose i sock)]

def timerStart (i : Nat) : Code Lock := critical (.timersMu i)

def timerStop (i : Nat) : Code Lock := critical (.timersMu i)

/-- The functions of `instantiateHostModules` and `instantiateWASI`. The last branch is
for those that only look up the state, to log or for the clock, or not even that. -/
def hostCall (i : Nat) : Code Lock :=
  oneOf
    [inOrder [state, sockOpen i], inOrder [state, sockBind i],
      maybe (inOrder [state, sockConnect i]), maybe (inOrder [state, sockSend i]),
      maybe (inOrder [state, sockSendTo i]), inOrder [state, sockRecv i],
      inOrder [state, sockError i], inOrder [state, sockLocalPort i],
      inOrder [state, sockClose i], inOrder [state, timerStart i], inOrder [state, timerStop i],
      maybe state]

/-! ## Guest calls -/

/-- `instanceState.guest`, which does not run the function once the module is closed. -/
def guest (i : Nat) (fn : Code Lock) : Code Lock := .locked .write (.guestMu i) (maybe fn)

/-- A guest export runs. -/
def guestCode (i : Nat) : Code Lock := .loop (hostCall i)

/-- `Instance.call`, and the guest blocks of `allocWrite` and `pollResult`. -/
def call (i : Nat) : Code Lock := guest i (guestCode i)

/-- `instanceState.closeModule`. -/
def closeModule (i : Nat) : Code Lock := critical (.guestMu i)

/-- `Instance.Close`, and `kill`. -/
def close (i : Nat) : Code Lock := maybe (inOrder [shutdown i, removeState, closeModule i])

/-! ## Timers and sockets -/

/-- The function a timer runs. -/
def timerCallback (i : Nat) : Code Lock := inOrder [critical (.timersMu i), enqueue i]

def push (i sock : Nat) : Code Lock := inOrder [critical (.sockMu i sock), enqueue i]

def readError (i sock : Nat) : Code Lock :=
  inOrder [critical (.sockMu i sock), maybe (enqueue i)]

def readUDP (i sock : Nat) : Code Lock := inOrder [.loop (push i sock), readError i sock]

def readTCP (i sock : Nat) : Code Lock :=
  inOrder [.loop (inOrder [critical (.sockMu i sock), push i sock]), readError i sock]

def connectTCP (i sock : Nat) : Code Lock :=
  inOrder [critical (.sockMu i sock), maybe (enqueue i)]

/-! ## Batches -/

/-- `free` and `cancel`. -/
def release (i : Nat) : Code Lock := maybe (call i)

/-- `pollResult`, and `dispatch`. -/
def callOrKill (i : Nat) : Code Lock := inOrder [call i, maybe (close i)]

/-- The first loop of `ResolveAll`: the allocation of a name, `resolve_start`, the name
freed. -/
def startQueries (i : Nat) : Code Lock :=
  .loop <| maybe <| inOrder [call i, maybe (inOrder [call i, release i, maybe (close i)])]

/-- The second loop: the queries are polled; then the context is done, the instance is
shut down, or an event is dispatched. -/
def awaitResults (i : Nat) : Code Lock :=
  .loop <| inOrder [.loop (callOrKill i), oneOf [.skip, close i, callOrKill i]]

/-- `ResolveAll`, with the deferred functions last. -/
def resolveAll (i : Nat) : Code Lock :=
  maybe <| inOrder
    [startQueries i, maybe (inOrder [call i, maybe (inOrder [awaitResults i, release i])]),
      .loop (release i)]

/-! ## Instances and the runtime -/

/-- `newModuleInstance`. The start function runs before there is a module to lock; a
state that was not published is removed and shut down. -/
def newModuleInstance (i : Nat) (start : Bool) : Code Lock :=
  inOrder
    [critical .mu,
      maybe <| inOrder
        [if start then guestCode i else .skip,
          .choice (inOrder [removeState, shutdown i]) <| inOrder
            [critical (.guestMu i),
              .choice (inOrder [removeState, shutdown i]) (maybe (close i))]]]

/-- `Instance.initialize`. -/
def initInstance (i : Nat) : Code Lock :=
  inOrder [.loop (call i), maybe (call i), .loop (release i)]

def newFullInstance (i : Nat) : Code Lock :=
  inOrder
    [newModuleInstance i true,
      maybe <| inOrder [call i, .choice (close i) (inOrder [initInstance i, maybe (close i)])]]

def newClone (i : Nat) : Code Lock :=
  inOrder
    [newModuleInstance i false,
      maybe <| inOrder
        [guest i .skip,
          .choice (close i) <| inOrder
            [call i, .choice (close i) (inOrder [call i, maybe (close i)])]]]

/-- `initZygote`, whose template is closed at the end. -/
def initZygote (i : Nat) : Code Lock :=
  maybe <| inOrder
    [newFullInstance i,
      maybe <| inOrder
        [call i,
          maybe <| inOrder
            [critical (.socketsMu i), critical (.timersMu i), maybe (guest i .skip)],
          close i]]

def newInstance : Code Lock :=
  maybe <| inOrder
    [.once .zygoteOnce (.pick initZygote),
      maybe <| .pick fun i => .choice (newClone i) (newFullInstance i)]

/-- `Runtime.Close`. -/
def runtimeClose : Code Lock :=
  maybe <| inOrder
    [.once .zygoteOnce .skip, critical .mu,
      .loop (.pick fun i => inOrder [shutdown i, closeModule i])]

/-- The kinds of goroutines. -/
inductive Goroutine where
  | call (i : Nat)
  | timerCallback (i : Nat)
  | readUDP (i sock : Nat)
  | readTCP (i sock : Nat)
  | connectTCP (i sock : Nat)
  | resolveAll (i : Nat)
  | close (i : Nat)
  | newInstance
  | runtimeClose

def Goroutine.code : Goroutine → Code Lock
  | .call i => Locks.call i
  | .timerCallback i => Locks.timerCallback i
  | .readUDP i sock => Locks.readUDP i sock
  | .readTCP i sock => Locks.readTCP i sock
  | .connectTCP i sock => Locks.connectTCP i sock
  | .resolveAll i => Locks.resolveAll i
  | .close i => Locks.close i
  | .newInstance => Locks.newInstance
  | .runtimeClose => Locks.runtimeClose

/-- Any number of goroutines of each kind. -/
def goroutines : Lib.Machine (State Lock) (Action Goroutine) := machine Goroutine.code

/-! ## The order of the locks -/

/-- `mu` comes last because nothing is locked while it is held. -/
def rank : Lock → Nat
  | .zygoteOnce => 0
  | .guestMu _ => 1
  | .once _ => 2
  | .timersMu _ => 3
  | .socketsMu _ => 4
  | .sockMu _ _ => 5
  | .mu => 6

section

variable {low i sock : Nat}

@[simp] theorem above_shutdown : (shutdown i).Above rank low ↔ low ≤ 2 := by
  simp [shutdown, hostSocketClose, Code.Above, rank]

@[simp] theorem above_enqueue : (enqueue i).Above rank low ↔ low ≤ 2 := by
  simp [enqueue]

@[simp] theorem above_socket {body : Nat → Code Lock} :
    (socket i body).Above rank low ↔ low ≤ 4 ∧ ∀ sock, (body sock).Above rank low := by
  simp [socket, Code.Above, rank]

@[simp] theorem above_sockSendTo : (sockSendTo i).Above rank low ↔ low ≤ 4 := by
  simp only [sockSendTo, above_maybe, above_socket, above_inOrder, List.mem_cons,
    List.not_mem_nil, or_false, forall_eq_or_imp, forall_eq, above_critical, rank, forall_const]
  omega

/-- A host call takes locks above those of a guest call only. -/
@[simp] theorem above_hostCall : (hostCall i).Above rank low ↔ low ≤ 2 := by
  simp only [hostCall, state, sockOpen, sockBind, sockConnect, sockSend, sockRecv, sockError,
    sockLocalPort, sockClose, hostSocketClose, timerStart, timerStop, above_maybe, above_socket,
    above_oneOf, above_inOrder, List.mem_cons, List.not_mem_nil, or_false, or_self_left,
    forall_eq_or_imp, forall_eq, above_critical, above_enqueue, above_sockSendTo, Code.Above,
    and_true, rank, forall_const]
  omega

@[simp] theorem above_guest {fn : Code Lock} :
    (guest i fn).Above rank low ↔ low ≤ 1 ∧ fn.Above rank 2 := by
  simp [guest, Code.Above, rank]

@[simp] theorem above_guestCode : (guestCode i).Above rank low ↔ low ≤ 2 := by
  simp [guestCode, Code.Above]

@[simp] theorem above_call : (call i).Above rank low ↔ low ≤ 1 := by
  simp [call]

@[simp] theorem above_closeModule : (closeModule i).Above rank low ↔ low ≤ 1 := by
  simp [closeModule, rank]

@[simp] theorem above_close : (close i).Above rank low ↔ low ≤ 1 := by
  simp only [close, removeState, above_maybe, above_inOrder, List.mem_cons, List.not_mem_nil,
    or_false, forall_eq_or_imp, forall_eq, above_critical, above_shutdown, above_closeModule, rank]
  omega

@[simp] theorem above_newModuleInstance {start : Bool} :
    (newModuleInstance i start).Above rank low ↔ low ≤ 1 := by
  have body : (if start then guestCode i else .skip : Code Lock).Above rank low ↔
      (start = true → low ≤ 2) := by
    cases start <;> simp [Code.Above]
  simp only [newModuleInstance, removeState, above_maybe, above_inOrder, List.mem_cons,
    List.not_mem_nil, or_false, forall_eq_or_imp, forall_eq, above_critical, above_shutdown,
    above_close, body, Code.Above, rank]
  omega

@[simp] theorem above_newFullInstance : (newFullInstance i).Above rank low ↔ low ≤ 1 := by
  simp [newFullInstance, initInstance, release, Code.Above]

/-- Everything in the zygote's initialization is above `zygoteOnce`. -/
@[simp] theorem above_initZygote : (initZygote i).Above rank low ↔ low ≤ 1 := by
  simp only [initZygote, above_maybe, above_inOrder, List.mem_cons, List.not_mem_nil, or_false,
    forall_eq_or_imp, forall_eq, above_critical, above_newFullInstance, above_call, above_guest,
    above_close, Code.Above, and_true, rank]
  omega

end

/-- Every goroutine takes its locks in order. -/
theorem above_code (kind : Goroutine) : kind.code.Above rank 0 := by
  cases kind with
  | call i => simp [Goroutine.code]
  | timerCallback i => simp [Goroutine.code, timerCallback]
  | readUDP i sock => simp [Goroutine.code, readUDP, push, readError, Code.Above]
  | readTCP i sock => simp [Goroutine.code, readTCP, push, readError, Code.Above]
  | connectTCP i sock => simp [Goroutine.code, connectTCP]
  | resolveAll i =>
      simp [Goroutine.code, resolveAll, startQueries, awaitResults, callOrKill, release, Code.Above]
  | close i => simp [Goroutine.code]
  | newInstance => simp [Goroutine.code, newInstance, newClone, Code.Above, rank]
  | runtimeClose => simp [Goroutine.code, runtimeClose, Code.Above, rank]

/-- In no run of any number of goroutines is there a set of them each of which waits for
a lock, or for a `sync.Once`, that a member of the set holds. -/
theorem no_lock_deadlock {s : State Lock} (reachable : goroutines.Reachable s)
    (members : Finset Nat) : ¬ s.Deadlocked members :=
  not_deadlocked above_code reachable members

/-- A timer callback is in its block when `Close` comes to stop the timers. -/
def timerAgainstClose : List (Action Goroutine) :=
  [.spawn (.timerCallback 1), .run 0 0, .run 0 0, .spawn (.close 1), .run 1 1, .run 1 0, .run 1 0,
    .run 1 0]

theorem no_lock_deadlock_timerAgainstClose :
    ∃ s, goroutines.run goroutines.initial timerAgainstClose = some s ∧
      s.Awaits 1 (.timersMu 1) ∧ s.Holds 0 (.timersMu 1) ∧ ¬ s.Deadlocked {0, 1} := by
  obtain ⟨s, ran⟩ : ∃ s, goroutines.run goroutines.initial timerAgainstClose = some s := ⟨_, rfl⟩
  have free := no_lock_deadlock (Lib.Machine.reaches_of_run ran) {0, 1}
  refine ⟨s, ran, ?_, ?_, free⟩
  · cases ran
    exact ⟨_, rfl, rfl⟩
  · cases ran
    exact ⟨_, rfl, List.mem_cons_self⟩

end UnboundWasm.Host.Locks
