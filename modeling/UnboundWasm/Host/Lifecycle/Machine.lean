import UnboundWasm.Lib.Heap
import UnboundWasm.Lib.Machine

/-!
# The lifecycle of a runtime

`NewInstance`, `Instance.Close`, `Runtime.Close` and the guest blocks of
`runtime.go`, `host.go` and `zygote.go`, interleaved at the granularity of atomic
operations, of sections under `r.mu` and `guestMu`, and of the once.

What a call into the guest or the file system comes to is left open, so an
instance under construction may fail or succeed at any point.  Of wazero it is
used that `Runtime.Close` closes every module instantiated before it; an
instantiation under way at that time may still succeed afterwards.  The names of
instances are random texts in the source and fresh numbers here.  `state.close`
is the subject of the sockets model and takes no step here.
-/

namespace UnboundWasm.Host.Lifecycle

open UnboundWasm.Lib

/-- A module or file: not made yet, in use, or closed. -/
inductive Resource where
  | absent | live | closed
  deriving DecidableEq, Repr

/-- Where the construction of an instance stands, from its registration on. A
template goes on to the image file and is always closed again. `failed` also
stands for a template that has served its purpose. -/
inductive Phase where
  | instantiate
  | publish
  | discard
  | forget
  | working
  | image
  | closing
  | returned
  | failed
  deriving DecidableEq, Repr

/-- The `Instance.Close` that won the compare-and-swap. -/
inductive Closer where
  | none | removeState | closeModule | done
  deriving DecidableEq, Repr

/-- An `Instance` with its `instanceState` and its wazero module. `mod` says that
the module was published, `locked` that a guest block holds `guestMu`, `torn` that
`closeModule` has closed the module. -/
structure Inst where
  template : Bool
  phase : Phase
  closed : Bool
  closer : Closer
  modDead : Bool
  mod : Bool
  module : Resource
  locked : Bool
  torn : Bool
  deriving DecidableEq, Repr

/-- As registered by `newModuleInstance`. -/
def Inst.new (template : Bool) : Inst :=
  ⟨template, .instantiate, false, .none, false, false, .absent, false, false⟩

/-- `closeModule`. -/
def Inst.closeModule (i : Inst) : Inst :=
  if i.mod then { i with modDead := true, module := .closed, torn := true }
  else { i with modDead := true }

/-- `zygoteOnce`. -/
inductive Once where
  | idle | running | done
  deriving DecidableEq, Repr

/-- Where a `NewInstance` call stands. -/
inductive Caller where
  | check
  | once
  | initZygote
  | template (id : Nat)
  | zygoteErr
  | register
  | building (id : Nat)
  | returned
  deriving DecidableEq, Repr

/-- The call is inside `zygoteOnce`. -/
def Caller.inInit : Caller → Bool
  | .initZygote | .template _ => true
  | .check | .once | .zygoteErr | .register | .building _ | .returned => false

/-- Where a call stands while it builds an instance. -/
def Caller.waiting (template : Bool) (id : Nat) : Caller :=
  if template then .template id else .building id

/-- Where `Runtime.Close` stands; `sweep` holds the states it still has to close. -/
inductive Shutter where
  | idle
  | once
  | take
  | sweep (rest : List Nat)
  | file
  | returned
  deriving DecidableEq, Repr

/-- A guest block that began, and whether `closeModule` had closed its module. -/
structure Start where
  inst : Nat
  late : Bool
  deriving DecidableEq, Repr

structure State where
  closed : Bool
  states : List Nat
  once : Once
  zygote : Bool
  zygoteErr : Bool
  file : Resource
  insts : Heap Inst
  callers : Heap Caller
  shutter : Shutter
  starts : List Start

/-- Which of its outcomes a call has. -/
inductive Outcome where
  | ok | fail | skip
  deriving DecidableEq, Repr

/-- Whose turn it is. -/
inductive Action where
  | newInstance
  | caller (ref : Nat) (outcome : Outcome)
  | construct (id : Nat) (outcome : Outcome)
  | close (id : Nat)
  | closer (id : Nat)
  | enter (id : Nat)
  | leave (id : Nat)
  | shutter
  | sweep (id : Nat)
  deriving DecidableEq, Repr

namespace State

def initial : State :=
  ⟨false, [], .idle, false, false, .absent, .empty (.new false), .empty .check, .idle, []⟩

def onInst (s : State) (id : Nat) (change : Inst → Inst) : State :=
  { s with insts := s.insts.modify id change }

def toPhase (s : State) (id : Nat) (phase : Phase) : State :=
  s.onInst id fun i => { i with phase := phase }

def callerTo (s : State) (ref : Nat) (caller : Caller) : State :=
  { s with callers := s.callers.modify ref fun _ => caller }

/-- The section under `r.mu` in `newModuleInstance`. -/
def register (s : State) (template : Bool) : State :=
  { s with insts := s.insts.alloc (.new template), states := s.insts.size :: s.states }

/-- The construction is over, one way or the other. -/
def built (s : State) (id : Nat) : Bool :=
  (s.insts.get id).phase = .returned || (s.insts.get id).phase = .failed

/-- A step of `NewInstance` outside of the construction. -/
def callerStep (s : State) (ref : Nat) (outcome : Outcome) : Option State :=
  if ref < s.callers.size then
    match s.callers.get ref with
    | .check =>
        some (if s.closed then s.callerTo ref .returned else s.callerTo ref .once)
    | .once =>
        match s.once with
        | .idle => some ({ s with once := .running }.callerTo ref .initZygote)
        | .running => none
        | .done => some (s.callerTo ref .zygoteErr)
    | .initZygote =>
        if outcome = .skip then
          some ({ s with once := .done }.callerTo ref .zygoteErr)
        else if s.closed then
          some ({ s with once := .done, zygoteErr := true }.callerTo ref .zygoteErr)
        else
          some ((s.register true).callerTo ref (.template s.insts.size))
    | .template id =>
        if s.built id then some ({ s with once := .done }.callerTo ref .zygoteErr) else none
    | .zygoteErr =>
        some (if s.zygoteErr then s.callerTo ref .returned else s.callerTo ref .register)
    | .register =>
        if s.closed then some (s.callerTo ref .returned)
        else some ((s.register false).callerTo ref (.building s.insts.size))
    | .building id => if s.built id then some (s.callerTo ref .returned) else none
    | .returned => none
  else
    none

/-- What a step of `NewInstance` can be. -/
inductive Called (s : State) (ref : Nat) : State → Prop where
  | move {caller : Caller} (before : (s.callers.get ref).inInit = false)
      (after : caller.inInit = false)
      (free : ∀ id, s.callers.get ref = .building id → s.built id = true) :
      Called s ref (s.callerTo ref caller)
  | begin (idle : s.once = .idle) (here : s.callers.get ref = .once) :
      Called s ref ({ s with once := .running }.callerTo ref .initZygote)
  | finish {zygoteErr : Bool} (before : (s.callers.get ref).inInit = true)
      (free : ∀ id, s.callers.get ref = .template id → s.built id = true) :
      Called s ref ({ s with once := .done, zygoteErr := zygoteErr }.callerTo ref .zygoteErr)
  | register {template : Bool} (isOpen : s.closed = false)
      (here : s.callers.get ref = if template then .initZygote else .register) :
      Called s ref ((s.register template).callerTo ref (.waiting template s.insts.size))

theorem called_of_callerStep {s after : State} {ref : Nat} {outcome : Outcome}
    (stepped : s.callerStep ref outcome = some after) :
    ref < s.callers.size ∧ Called s ref after := by
  unfold callerStep at stepped
  split at stepped
  next inside =>
    refine ⟨inside, ?_⟩
    split at stepped
    next here =>
      cases stepped
      split <;> exact .move (by rw [here]; rfl) rfl (by simp [here])
    next here =>
      split at stepped
      next idle =>
        cases stepped
        exact .begin idle here
      · cases stepped
      · cases stepped
        exact .move (by rw [here]; rfl) rfl (by simp [here])
    next here =>
      split at stepped
      · cases stepped
        exact .finish (by rw [here]; rfl) (by simp [here])
      · split at stepped
        · cases stepped
          exact .finish (by rw [here]; rfl) (by simp [here])
        next isOpen =>
          cases stepped
          exact @Called.register _ _ true (by simpa using isOpen) here
    next here =>
      split at stepped
      next built =>
        cases stepped
        exact .finish (by rw [here]; rfl) (by simpa [here] using built)
      · cases stepped
    next here =>
      cases stepped
      split <;> exact .move (by rw [here]; rfl) rfl (by simp [here])
    next here =>
      split at stepped
      · cases stepped
        exact .move (by rw [here]; rfl) rfl (by simp [here])
      next isOpen =>
        cases stepped
        exact @Called.register _ _ false (by simpa using isOpen) here
    next here =>
      split at stepped
      next built =>
        cases stepped
        exact .move (by rw [here]; rfl) rfl (by simpa [here] using built)
      · cases stepped
    · cases stepped
  · cases stepped

/-- `inst.Close` by the call that builds the instance, which nobody else has. -/
def abandon (s : State) (id : Nat) : State :=
  s.onInst id fun i => { i with phase := .closing, closed := true, closer := .removeState }

/-- A template that failed fails every `NewInstance`. -/
def blame (s : State) (id : Nat) : State :=
  { s with zygoteErr := s.zygoteErr || (s.insts.get id).template }

/-- A step of the construction. -/
def construct (s : State) (id : Nat) (outcome : Outcome) : Option State :=
  if id < s.insts.size then
    let i := s.insts.get id
    match i.phase with
    | .instantiate =>
        if outcome = .ok then
          some (s.onInst id fun i => { i with module := .live, phase := .publish })
        else some (s.toPhase id .forget)
    | .publish =>
        if i.modDead then some (s.toPhase id .discard)
        else some (s.onInst id fun i => { i with mod := true, phase := .working })
    | .discard => some (s.onInst id fun i => { i with module := .closed, phase := .forget })
    | .forget =>
        some ({ s.blame id with states := s.states.erase id }.toPhase id .failed)
    | .working =>
        match outcome, i.template with
        | .fail, _ => some ((s.blame id).abandon id)
        | .skip, true => some (s.abandon id)
        | .skip, false => none
        | .ok, true => some ({ s with file := .live }.toPhase id .image)
        | .ok, false => some (s.toPhase id .returned)
    | .image =>
        if outcome = .ok then some ({ s with zygote := true }.abandon id)
        else some ({ s with file := .closed }.abandon id)
    | .closing => if i.closer = .done then some (s.toPhase id .failed) else none
    | .returned | .failed => none
  else
    none

/-- `Instance.Close` on an instance that was returned, up to the swap. -/
def close (s : State) (id : Nat) : Option State :=
  if id < s.insts.size ∧ (s.insts.get id).phase = .returned then
    if (s.insts.get id).closed then some s
    else some (s.onInst id fun i => { i with closed := true, closer := .removeState })
  else
    none

/-- The rest of `Instance.Close`. -/
def closerStep (s : State) (id : Nat) : Option State :=
  if id < s.insts.size then
    match (s.insts.get id).closer with
    | .removeState =>
        some ({ s with states := s.states.erase id }.onInst id fun i =>
          { i with closer := .closeModule })
    | .closeModule =>
        if (s.insts.get id).locked then none
        else some (s.onInst id fun i => { i.closeModule with closer := .done })
    | .none | .done => none
  else
    none

/-- `guest` takes the lock and begins its block, or fails. -/
def enter (s : State) (id : Nat) : Option State :=
  let i := s.insts.get id
  if id < s.insts.size ∧ i.mod = true ∧ i.locked = false then
    if i.modDead then some s
    else
      some { s.onInst id fun i => { i with locked := true } with
        starts := s.starts ++ [⟨id, i.torn⟩] }
  else
    none

/-- The block ends. -/
def leave (s : State) (id : Nat) : Option State :=
  if id < s.insts.size ∧ (s.insts.get id).locked = true then
    some (s.onInst id fun i => { i with locked := false })
  else
    none

/-- `wazero.Runtime.Close`. -/
def closeWazero (s : State) : State :=
  { s with insts := s.insts.map fun i =>
      if i.module = .live then { i with module := .closed } else i }

/-- A step of `Runtime.Close`, the sweep of single states apart. -/
def shutterStep (s : State) : Option State :=
  match s.shutter with
  | .idle => some { s with closed := true, shutter := .once }
  | .once =>
      if s.once = .running then none else some { s with once := .done, shutter := .take }
  | .take => some { s with states := [], shutter := .sweep s.states }
  | .sweep [] => some { s.closeWazero with shutter := .file }
  | .sweep (_ :: _) => none
  | .file =>
      some { s with
        file := if s.zygote then .closed else s.file
        shutter := .returned }
  | .returned => none

/-- `closeModule` on one of the states taken. -/
def sweepStep (s : State) (id : Nat) : Option State :=
  match s.shutter with
  | .sweep rest =>
      if id ∈ rest ∧ (s.insts.get id).locked = false then
        some { s.onInst id Inst.closeModule with shutter := .sweep (rest.erase id) }
      else
        none
  | _ => none

/-- One step of the system. -/
def step (s : State) : Action → Option State
  | .newInstance => some { s with callers := s.callers.alloc .check }
  | .caller ref outcome => s.callerStep ref outcome
  | .construct id outcome => s.construct id outcome
  | .close id => s.close id
  | .closer id => s.closerStep id
  | .enter id => s.enter id
  | .leave id => s.leave id
  | .shutter => s.shutterStep
  | .sweep id => s.sweepStep id

end State

/-- One runtime, from `NewRuntime` on. -/
def runtime : Machine State Action := ⟨State.initial, State.step⟩

end UnboundWasm.Host.Lifecycle
