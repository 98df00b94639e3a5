import UnboundWasm.Host.Lifecycle.Safety
import UnboundWasm.Host.Resolve.Interrupted

/-!
# Imports and the states map

An import finds the instance that calls it in `r.states`, under the module's name,
and panics when it is not there.  Both `Instance.Close` and `Runtime.Close` take the
entry out before `closeModule` waits for the guest block under way, so a block may
be cut short by its own import, and the batch it belongs to then fails with that
panic.  When no block overlaps the time between the two, the entry is there whenever
a block runs.

`Resolving` puts the runtime and a batch on one of its instances together.  A guest
call of the batch is a guest block of the runtime, with imports called in between;
the steps of a close that both models have are taken at once.
-/

namespace UnboundWasm.Host.Lifecycle

open UnboundWasm.Lib

/-- The panic of `Runtime.state`, which wazero makes the error of the export. -/
def unknownModule : Error := .new "unbound: host call from unknown module"

/-- `Runtime.state`. -/
def State.state (s : State) (id : Nat) : Except Error Unit :=
  if id ∈ s.states then .ok () else .error unknownModule

/-- No guest block runs when the state of its instance is removed, and none begins
from then to `closeModule`. -/
def undisturbedStep (s : State) : Action → Bool
  | .closer id => (s.insts.get id).closer ≠ .removeState || !(s.insts.get id).locked
  | .shutter => s.shutter ≠ .take || s.states.all fun id => !(s.insts.get id).locked
  | .enter id =>
      (s.insts.get id).modDead || ((s.insts.get id).closer ≠ .closeModule && id ∉ s.shutter.rest)
  | .newInstance | .caller _ _ | .construct _ _ | .close _ | .leave _ | .sweep _ => true

def Undisturbed (s : State) (action : Action) : Prop := undisturbedStep s action = true

instance (s : State) (action : Action) : Decidable (Undisturbed s action) :=
  inferInstanceAs (Decidable (_ = _))

/-! ## A published module is listed until it is closed -/

@[simp] theorem Inst.mod_closeModule (i : Inst) : i.closeModule.mod = i.mod := by
  rw [closeModule]
  split <;> rfl

@[simp] theorem Inst.locked_closeModule (i : Inst) : i.closeModule.locked = i.locked := by
  rw [closeModule]
  split <;> rfl

/-- Phases before the module is published. -/
def Phase.unpublished : Phase → Bool
  | .instantiate | .publish | .discard | .forget => true
  | .working | .image | .closing | .returned | .failed => false

structure Known (v : View) : Prop where
  unpublished : v.inst.phase.unpublished = true → v.inst.mod = false
  listed : v.inst.mod = true → v.inst.modDead = false →
    v.inst.closer ≠ .closeModule → v.listed

theorem Known.new (template : Bool) : Known ⟨.new template, True, False⟩ :=
  ⟨fun _ => rfl, fun _ _ _ => trivial⟩

/-- Once `closeModule` has run, nobody needs the entry. -/
theorem Known.dead {i : Inst} {listed swept after : Prop} {closer : Closer}
    (known : Known ⟨i, listed, swept⟩) :
    Known ⟨{ i.closeModule with closer := closer }, after, swept⟩ := by
  have spec := i.closeModule_spec
  constructor
  · dsimp only
    rw [spec.1, i.mod_closeModule]
    exact known.unpublished
  · intro _ alive
    exact absurd alive (by simp [spec.2.2.2.1])

theorem Known.move {v w : View} (known : Known v) (good : Good v) (move : Move v w) :
    Known w := by
  have unpublished := known.unpublished
  have listed := known.listed
  cases move with
  | publish here alive =>
      dsimp only at *
      refine ⟨fun impossible => (by cases impossible), fun _ _ _ => ?_⟩
      have isOpen := (good.early (by dsimp only; rw [here]; rfl)).1
      rcases good.tracked (by dsimp only; rw [here]; rfl) with closed | dead | isListed
      · rw [isOpen] at closed
        cases closed
      · rw [alive] at dead
        cases dead
      · exact isListed
  | closeModule here => exact known.dead
  | @sweep i listed after isSwept fewer =>
      have dead : Known ⟨{ i.closeModule with closer := i.closeModule.closer }, after, isSwept⟩ :=
        known.dead
      exact dead
  | remove here fewer =>
      exact ⟨unpublished, fun _ _ early => absurd rfl early⟩
  | forget here fewer =>
      dsimp only at *
      refine ⟨fun impossible => (by cases impossible), fun published => ?_⟩
      rw [unpublished (by rw [here]; rfl)] at published
      cases published
  | wazero nobody =>
      dsimp only at *
      split <;> exact ⟨unpublished, listed⟩
  | lock => exact ⟨unpublished, listed⟩
  | instantiate here | miss here | tooLate here | discard here =>
      dsimp only at *
      exact ⟨fun _ => unpublished (by rw [here]; rfl), listed⟩
  | image | hand | give => exact ⟨fun impossible => (by cases impossible), listed⟩
  | close here isOpen =>
      refine ⟨unpublished, fun published alive _ => listed published alive ?_⟩
      intro begun
      have closed := good.closer (by dsimp only at *; simp [begun])
      exact absurd closed (by simp [isOpen])
  | abandon here =>
      refine ⟨fun impossible => (by cases impossible), fun published alive _ => ?_⟩
      have unbegun := good.early (by dsimp only; rcases here with here | here <;> rw [here] <;> rfl)
      exact listed published alive (by rw [unbegun.2]; simp)

/-! ## The entry of a running guest block -/

namespace State

variable {s after : State} {id : Nat}

/-- An instance with a guest block under way is published and in `r.states`. -/
def Sheltered (s : State) : Prop :=
  ∀ id, (s.insts.get id).locked = true → (s.insts.get id).mod = true ∧ id ∈ s.states

/-- No block begins, and no entry of a running block is removed. -/
theorem Sheltered.keep (sheltered : s.Sheltered)
    (insts : ∀ id, (after.insts.get id).locked = true → (s.insts.get id).locked = true ∧
      ((s.insts.get id).mod = true → (after.insts.get id).mod = true))
    (states : ∀ id, (s.insts.get id).locked = true → id ∈ s.states → id ∈ after.states) :
    after.Sheltered := by
  intro id locked
  obtain ⟨before, mod⟩ := insts id locked
  have known := sheltered id before
  exact ⟨mod known.1, states id before known.2⟩

theorem Sheltered.same (sheltered : s.Sheltered) (insts : after.insts = s.insts)
    (states : after.states = s.states) : after.Sheltered := by
  intro id
  rw [insts, states]
  exact sheltered id

/-- One instance changes, with its lock not taken. -/
theorem Sheltered.onInst {change : Inst → Inst} {closed zygote zygoteErr : Bool} {once : Once}
    {file : Resource} {states : List Nat} {callers : Heap Caller} {shutter : Shutter}
    {starts : List Start} (sheltered : s.Sheltered)
    (locked : (change (s.insts.get id)).locked = true → (s.insts.get id).locked = true)
    (mod : (s.insts.get id).mod = true → (change (s.insts.get id)).mod = true)
    (kept : ∀ id, (s.insts.get id).locked = true → id ∈ s.states → id ∈ states) :
    Sheltered ⟨closed, states, once, zygote, zygoteErr, file, s.insts.modify id change, callers,
      shutter, starts⟩ := by
  refine sheltered.keep ?_ kept
  intro other
  dsimp only
  rw [Heap.get_modify]
  split
  next same =>
    rw [same]
    exact fun isLocked => ⟨locked isLocked, mod⟩
  · exact fun isLocked => ⟨isLocked, fun known => known⟩

theorem Sheltered.called {ref : Nat} (sheltered : s.Sheltered) (called : Called s ref after) :
    after.Sheltered := by
  cases called with
  | move | begin | finish => exact sheltered.same rfl rfl
  | @register template isOpen here =>
      intro id locked
      simp only [callerTo, register, Heap.get_alloc] at locked ⊢
      split at locked
      · cases locked
      next old =>
        rw [if_neg old]
        exact (sheltered id locked).imp_right (List.mem_cons_of_mem _)

theorem Sheltered.construct {outcome : Outcome} (sheltered : s.Sheltered)
    (known : ∀ id < s.insts.size, Known (s.view id))
    (stepped : s.construct id outcome = some after) : after.Sheltered := by
  unfold State.construct at stepped
  split at stepped
  next inside =>
    dsimp only at stepped
    split at stepped
    case h_4 here =>
      cases stepped
      refine sheltered.onInst (fun locked => locked) (fun mod => mod) ?_
      intro other locked listed
      -- The module was never published, so no block runs on it.
      have different : other ≠ id := by
        intro same
        have unpublished := (known id inside).unpublished (by rw [view_inst, here]; rfl)
        rw [same] at locked
        rw [view_inst, (sheltered id locked).1] at unpublished
        cases unpublished
      exact (List.mem_erase_of_ne different).mpr listed
    case h_8 => cases stepped
    case h_9 => cases stepped
    case h_3 =>
      cases stepped
      exact sheltered.onInst (fun locked => locked) (fun mod => mod) (fun _ _ listed => listed)
    case h_2 =>
      split at stepped
      · cases stepped
        exact sheltered.onInst (fun locked => locked) (fun mod => mod)
          (fun _ _ listed => listed)
      · cases stepped
        exact sheltered.onInst (fun locked => locked) (fun _ => rfl)
          (fun _ _ listed => listed)
    all_goals
      split at stepped <;> cases stepped
      all_goals
        exact sheltered.onInst (fun locked => locked) (fun mod => mod)
          (fun _ _ listed => listed)
  · cases stepped

theorem Sheltered.close (sheltered : s.Sheltered) (stepped : s.close id = some after) :
    after.Sheltered := by
  unfold State.close at stepped
  split at stepped
  · split at stepped
    · cases stepped
      exact sheltered
    · cases stepped
      exact sheltered.onInst (fun locked => locked) (fun mod => mod)
        (fun _ _ listed => listed)
  · cases stepped

theorem Sheltered.closer (sheltered : s.Sheltered) (calm : Undisturbed s (.closer id))
    (stepped : s.closerStep id = some after) : after.Sheltered := by
  unfold State.closerStep at stepped
  split at stepped
  · split at stepped
    next here =>
      cases stepped
      refine sheltered.onInst (fun locked => locked) (fun mod => mod) ?_
      intro other locked listed
      have different : other ≠ id := by
        intro same
        rw [same] at locked
        simp [Undisturbed, undisturbedStep, here, locked] at calm
      exact (List.mem_erase_of_ne different).mpr listed
    · split at stepped
      · cases stepped
      · cases stepped
        refine sheltered.onInst ?_ ?_ (fun _ _ listed => listed)
        · simp
        · simp
    · cases stepped
    · cases stepped
  · cases stepped

/-- A block begins while the entry is there. -/
theorem Sheltered.enter (sheltered : s.Sheltered)
    (known : ∀ id < s.insts.size, Known (s.view id)) (calm : Undisturbed s (.enter id))
    (stepped : s.enter id = some after) : after.Sheltered := by
  unfold State.enter at stepped
  dsimp only at stepped
  split at stepped
  next free =>
    split at stepped
    · cases stepped
      exact sheltered
    next alive =>
      cases stepped
      have live : (s.insts.get id).modDead = false := by simpa using alive
      have present : id ∈ s.states := by
        simp only [Undisturbed, undisturbedStep, live, Bool.false_or, Bool.and_eq_true,
          decide_eq_true_eq] at calm
        exact ((known id free.1).listed free.2.1 live calm.1).resolve_right calm.2
      intro other
      simp only [State.onInst, Heap.get_modify]
      split
      next same =>
        subst same
        exact fun _ => ⟨free.2.1, present⟩
      · exact sheltered other
  · cases stepped

theorem Sheltered.leave (sheltered : s.Sheltered) (stepped : s.leave id = some after) :
    after.Sheltered := by
  unfold State.leave at stepped
  split at stepped
  · cases stepped
    exact sheltered.onInst (fun impossible => by cases impossible) (fun mod => mod)
      (fun _ _ listed => listed)
  · cases stepped

theorem Sheltered.sweep (sheltered : s.Sheltered) (stepped : s.sweepStep id = some after) :
    after.Sheltered := by
  unfold sweepStep at stepped
  split at stepped
  · split at stepped
    · cases stepped
      refine sheltered.onInst ?_ ?_ (fun _ _ listed => listed)
      · simp
      · simp
    · cases stepped
  · cases stepped

theorem Sheltered.shutter (sheltered : s.Sheltered) (calm : Undisturbed s .shutter)
    (stepped : s.shutterStep = some after) : after.Sheltered := by
  unfold shutterStep at stepped
  split at stepped
  · cases stepped
    exact sheltered.same rfl rfl
  · split at stepped
    · cases stepped
    · cases stepped
      exact sheltered.same rfl rfl
  next here =>
    cases stepped
    refine sheltered.keep (fun _ locked => ⟨locked, fun mod => mod⟩) ?_
    intro id locked listed
    simp only [Undisturbed, undisturbedStep, here, ne_eq, not_true_eq_false, decide_false,
      Bool.false_or, List.all_eq_true] at calm
    have free := calm id listed
    simp [locked] at free
  · cases stepped
    refine sheltered.keep ?_ (fun _ _ listed => listed)
    intro id
    simp only [closeWazero, Heap.get_map]
    split <;> exact fun locked => ⟨locked, fun mod => mod⟩
  · cases stepped
  · cases stepped
    exact sheltered.same rfl rfl
  · cases stepped

/-- What holds in every state of an undisturbed run. -/
structure Guarded (s : State) : Prop where
  holds : s.Holds
  known : ∀ id < s.insts.size, Known (s.view id)
  sheltered : s.Sheltered

theorem Guarded.initial : initial.Guarded :=
  ⟨.initial, fun id inside => absurd inside (Nat.not_lt_zero id), fun _ locked => (by cases locked)⟩

theorem Guarded.step {action : Action} (guarded : s.Guarded) (calm : Undisturbed s action)
    (stepped : s.step action = some after) : after.Guarded := by
  obtain ⟨holds, known, sheltered⟩ := guarded
  constructor
  case holds => exact holds.step stepped
  case known =>
    intro id inside
    rcases traced_step holds.ordered stepped id inside with ⟨old, same | move⟩ | ⟨_, template, new⟩
    · rw [same]
      exact known id old
    · exact (known id old).move (holds.good id old) move
    · rw [new]
      exact .new template
  case sheltered =>
    cases action with
    | newInstance =>
        cases stepped
        exact sheltered.same rfl rfl
    | caller ref outcome => exact sheltered.called (called_of_callerStep stepped).2
    | construct id outcome => exact sheltered.construct known stepped
    | close id => exact sheltered.close stepped
    | closer id => exact sheltered.closer calm stepped
    | enter id => exact sheltered.enter known calm stepped
    | leave id => exact sheltered.leave stepped
    | shutter => exact sheltered.shutter calm stepped
    | sweep id => exact sheltered.sweep stepped

end State

/-! ## A batch beside the runtime -/

/-- `inside` says that the guest block under way on the instance is the batch's and
`panic` what an import of it panicked with. `faulted` records that the batch was let
down by something other than a close or such a panic. -/
structure Resolving where
  runtime : State
  batch : Resolve.State
  inside : Bool
  panic : Option Error
  faulted : Bool

/-- Whose turn it is. `both` is a step of a close that both models have; `enter`,
`hostCall` and `leave` are the batch's guest block. -/
inductive Turn where
  | runtime (action : Action)
  | batch (action : Resolve.Action)
  | both (action : Action) (same : Resolve.Action)
  | enter
  | hostCall
  | leave (reply : Resolve.Call)

/-- The places at which `ResolveAll` has a guest block to run. -/
def takesCall : Resolve.Pc → Bool
  | .allocName _ | .callStart _ _ | .freeName _ _ _ | .allocResult | .poll _ _ | .dispatch _ _
  | .callCancel _ _ => true
  | .free p _ => p ≠ 0
  | .entry | .start _ | .select _ | .closing _ _ _ | .cancel _ _ | .returned _ => false

/-- The step of a close as the runtime and as the batch take it. -/
def sameStep (id : Nat) : Action → Resolve.Action → Bool
  | .close other, .step | .close other, .interfere .close | .closer other, .step
  | .closer other, .interfere .close | .sweep other, .interfere .sweep => other = id
  | _, _ => false

namespace Resolving

variable (parser : MessageParser) (id : Nat)

/-- Both models see the same instance, from when it is returned. `Instance.Close`
removes the state after `state.close`. -/
def agrees (s : Resolving) : Bool :=
  let i := s.runtime.insts.get id
  i.phase ≠ .returned ||
    (i.closed = s.batch.inst.closed && i.modDead = s.batch.inst.modDead &&
      (i.closer = .none || i.closer = .removeState || s.batch.inst.once = .finished))

/-- The batch may take this step without a guest block. -/
def alone (s : Resolving) : Resolve.Action → Bool
  | .interfere _ => true
  | action =>
      (s.runtime.insts.get id).phase = .returned && !s.inside &&
        match action with
        | .call _ => s.batch.inst.modDead || !takesCall s.batch.pc
        | _ => true

/-- The models after a step of one or both, if they agree. -/
def joined (s : Resolving) (runtime : Option State) (batch : Option Resolve.State) :
    Option Resolving :=
  match runtime, batch with
  | some runtime, some batch =>
      let after := { s with runtime := runtime, batch := batch }
      if after.agrees id then some after else none
  | _, _ => none

def step (s : Resolving) : Turn → Option Resolving
  | .runtime action =>
      if s.inside = true ∧ action = .leave id then none
      else s.joined id (s.runtime.step action) (some s.batch)
  | .batch action =>
      if s.alone id action then
        { s with faulted := s.faulted || s.batch.faults action }.joined id (some s.runtime)
          (s.batch.step parser action)
      else none
  | .both action same =>
      if sameStep id action same ∧ s.alone id same = true then
        s.joined id (s.runtime.step action) (s.batch.step parser same)
      else none
  | .enter =>
      if s.alone id .step = true ∧ takesCall s.batch.pc = true ∧ s.batch.inst.modDead = false then
        { s with inside := true }.joined id (s.runtime.step (.enter id)) (some s.batch)
      else none
  | .hostCall =>
      if s.inside = true ∧ (s.runtime.insts.get id).locked = true ∧ s.panic = none then
        match s.runtime.state id with
        | .ok _ => some s
        | .error err => some { s with panic := some err }
      else none
  | .leave reply =>
      if s.inside then
        let outcome := match s.panic with
          | some err => .error err
          | none => reply
        { s with
          inside := false
          panic := none
          faulted := s.faulted || (s.panic.isNone && s.batch.faults (.call reply)) }.joined id
            (s.runtime.step (.leave id)) (s.batch.step parser (.call outcome))
      else none

def initial (queries : List Resolve.Query) : Resolving :=
  ⟨.initial, .initial queries, false, none, false⟩

/-- The runtime's part of a step is undisturbed. -/
def Undisturbed (s : Resolving) : Turn → Prop
  | .runtime action | .both action _ => Lifecycle.Undisturbed s.runtime action
  | .enter => Lifecycle.Undisturbed s.runtime (.enter id)
  | .batch _ | .hostCall | .leave _ => True

instance (s : Resolving) (turn : Turn) : Decidable (s.Undisturbed id turn) :=
  match turn with
  | .runtime action | .both action _ => inferInstanceAs (Decidable (Lifecycle.Undisturbed _ action))
  | .enter => inferInstanceAs (Decidable (Lifecycle.Undisturbed _ _))
  | .batch _ | .hostCall | .leave _ => inferInstanceAs (Decidable True)

end Resolving

/-- A runtime with a batch on instance `id`. -/
def resolving (parser : MessageParser) (queries : List Resolve.Query) (id : Nat) :
    Machine Resolving Turn :=
  ⟨.initial queries, Resolving.step parser id⟩

namespace Resolving

variable {parser : MessageParser} {queries : List Resolve.Query} {id : Nat} {s after : Resolving}

theorem of_joined {runtime : Option State} {batch : Option Resolve.State}
    (stepped : s.joined id runtime batch = some after) :
    ∃ r b, runtime = some r ∧ batch = some b ∧ after = { s with runtime := r, batch := b } := by
  unfold joined at stepped
  split at stepped
  next r b =>
    dsimp only at stepped
    split at stepped
    · cases stepped
      exact ⟨r, b, rfl, rfl, rfl⟩
    · cases stepped
  · cases stepped

/-- What holds in every state of an undisturbed run. -/
structure Attended (parser : MessageParser) (queries : List Resolve.Query) (s : Resolving) :
    Prop where
  guarded : s.runtime.Guarded
  tidy : Resolve.Tidy queries s.batch
  calm : s.faulted = false → Resolve.Calm parser s.batch
  panic : s.panic = none

theorem Attended.initial (queries : List Resolve.Query) :
    Attended parser queries (initial queries) :=
  ⟨.initial, .resolveAll (.initial queries) queries, fun _ => .initial queries, rfl⟩

theorem Attended.batch {action : Resolve.Action} {b : Resolve.State}
    (attended : Attended parser queries s) (stepped : s.batch.step parser action = some b)
    (fine : after.faulted = false → s.faulted = false ∧ s.batch.faults action = false)
    (guarded : after.runtime.Guarded) (same : after.batch = b) (panic : after.panic = none) :
    Attended parser queries after := by
  subst same
  refine ⟨guarded, attended.tidy.step stepped, ?_, panic⟩
  intro unfaulted
  obtain ⟨before, fine⟩ := fine unfaulted
  exact (attended.calm before).step fine stepped

theorem faults_of_sameStep {action : Action} {same : Resolve.Action}
    (agree : sameStep id action same = true) (b : Resolve.State) : b.faults same = false := by
  unfold sameStep at agree
  split at agree <;> first | rfl | cases agree

theorem Attended.step {turn : Turn} (attended : Attended parser queries s)
    (calm : s.Undisturbed id turn) (stepped : s.step parser id turn = some after) :
    Attended parser queries after := by
  have guarded := attended.guarded
  cases turn with
  | runtime action =>
      rw [Resolving.step] at stepped
      split at stepped
      · cases stepped
      · obtain ⟨r, b, moved, same, rfl⟩ := of_joined stepped
        cases same
        exact ⟨guarded.step calm moved, attended.tidy, attended.calm, attended.panic⟩
  | batch action =>
      rw [Resolving.step] at stepped
      split at stepped
      · obtain ⟨r, b, same, moved, rfl⟩ := of_joined stepped
        cases same
        refine attended.batch moved ?_ guarded rfl attended.panic
        exact fun fine => by simpa using fine
      · cases stepped
  | both action same =>
      rw [Resolving.step] at stepped
      split at stepped
      next agree =>
        obtain ⟨r, b, moved, ran, rfl⟩ := of_joined stepped
        refine attended.batch ran ?_ (guarded.step calm moved) rfl attended.panic
        exact fun fine => ⟨fine, faults_of_sameStep agree.1 s.batch⟩
      · cases stepped
  | enter =>
      rw [Resolving.step] at stepped
      split at stepped
      · obtain ⟨r, b, moved, same, rfl⟩ := of_joined stepped
        cases same
        exact ⟨guarded.step calm moved, attended.tidy, attended.calm, attended.panic⟩
      · cases stepped
  | hostCall =>
      rw [Resolving.step] at stepped
      split at stepped
      next running =>
        have listed := (guarded.sheltered id running.2.1).2
        rw [State.state, if_pos listed] at stepped
        cases stepped
        exact attended
      · cases stepped
  | leave reply =>
      rw [Resolving.step] at stepped
      split at stepped
      · simp only [attended.panic] at stepped
        obtain ⟨r, b, moved, ran, rfl⟩ := of_joined stepped
        have free : Lifecycle.Undisturbed s.runtime (.leave id) := rfl
        refine attended.batch ran ?_ (guarded.step free moved) rfl rfl
        exact fun fine => by simpa using fine
      · cases stepped

end Resolving

/-- Where no guest block overlaps the removal of its instance's state, every import
finds the instance it is called by, and a batch that only a close can have interrupted
reports no error but its queries' own and `ErrClosed`. -/
theorem imports_find_instance (parser : MessageParser) (queries : List Resolve.Query) (id : Nat)
    {s : Resolving} (run : (resolving parser queries id).Reaches
      (fun before turn => before.Undisturbed id turn) (.initial queries) s) :
    (∀ other, (s.runtime.insts.get other).locked = true →
      other ∈ s.runtime.states ∧ s.runtime.state other = .ok ()) ∧
    s.panic = none ∧
    (s.faulted = false → ∀ ret, s.batch.pc = .returned ret →
      Resolve.Excused parser queries ret) := by
  have attended : s.Attended parser queries := by
    have kept : ∀ (before : Resolving) (turn : Turn) (after : Resolving),
        before.Attended parser queries → before.Undisturbed id turn →
        before.step parser id turn = some after → after.Attended parser queries :=
      fun _ _ _ held calm stepped => held.step calm stepped
    have carried := Machine.Reaches.invariant kept run (Resolving.Attended.initial queries)
    exact carried
  refine ⟨?_, attended.panic, ?_⟩
  · intro other locked
    have listed := (attended.guarded.sheltered other locked).2
    exact ⟨listed, by rw [State.state, if_pos listed]⟩
  · intro unfaulted ret returned
    exact (attended.calm unfaulted).returned attended.tidy returned

/-- A memory with room for names and results. -/
def guestMemory : Memory := ⟨256, fun _ => 0⟩

/-- An instance is made, without a template, and returned. -/
def returning : List Turn :=
  [.runtime .newInstance, .runtime (.caller 0 .ok), .runtime (.caller 0 .ok),
    .runtime (.caller 0 .skip), .runtime (.caller 0 .ok), .runtime (.caller 0 .ok),
    .runtime (.construct 0 .ok), .runtime (.construct 0 .ok), .runtime (.construct 0 .ok),
    .runtime (.caller 0 .ok)]

/-- A guest block of the batch that returns a value. -/
def block (out : Nat) : List Turn := [.enter, .leave (.ok (out, guestMemory))]

/-- A batch of one query up to its wait for events. -/
def waiting : List Turn :=
  returning ++ [.batch .step, .batch .step] ++ block 64 ++ block 1 ++ block 0 ++ [.batch .step] ++
    block 128 ++ block 0 ++ [.batch .step]

/-- `Instance.Close` up to the removal of the state. -/
def closing : List Turn :=
  [.both (.close 0) (.interfere .close), .batch (.interfere .close), .batch (.interfere .close),
    .runtime (.closer 0)]

/-- The rest of `Instance.Close`. -/
def closed : List Turn := [.both (.closer 0) (.interfere .close)]

/-- The deferred functions of the batch, which find the instance closed. -/
def unwinding : List Turn := [.batch (.call (.ok (0, guestMemory))), .batch .step, .batch .step]

def oneQuery : List Resolve.Query := [⟨[97], 1⟩]

theorem imports_find_instance_closed :
    ∃ s, (resolving emptyParser oneQuery 0).Reaches
        (fun before turn => before.Undisturbed 0 turn) (.initial oneQuery) s ∧
      s.panic = none ∧ s.faulted = false ∧
      s.batch.pc = .returned (.batch [none] [⟨⟨[97], 1⟩, .errClosed⟩]) ∧
      Resolve.Excused emptyParser oneQuery (.batch [none] [⟨⟨[97], 1⟩, .errClosed⟩]) := by
  obtain ⟨s, ran⟩ : ∃ s, (resolving emptyParser oneQuery 0).runWhen
      (fun before turn => before.Undisturbed 0 turn) (.initial oneQuery)
      (waiting ++ closing ++ closed ++ [.batch .done] ++ unwinding) = some s := ⟨_, rfl⟩
  have run := Machine.reaches_of_runWhen ran
  have unfaulted : s.faulted = false := by
    cases ran
    rfl
  have returned : s.batch.pc = .returned (.batch [none] [⟨⟨[97], 1⟩, .errClosed⟩]) := by
    cases ran
    rfl
  have found := imports_find_instance emptyParser oneQuery 0 run
  exact ⟨s, run, found.2.1, unfaulted, returned, found.2.2 unfaulted _ returned⟩

/-- A `Close` that comes while the guest handles an event removes the state; the next
host call panics, and the batch fails with the panic. -/
theorem closed_instance_unknown :
    ∃ middle s, (resolving emptyParser oneQuery 0).Reachable middle ∧
      (middle.runtime.insts.get 0).locked = true ∧ 0 ∉ middle.runtime.states ∧
      (resolving emptyParser oneQuery 0).Reaches Machine.always middle s ∧ s.faulted = false ∧
      s.batch.pc = .returned
        (.batch [none] [⟨⟨[97], 1⟩, .wrap "unbound: dispatch event" unknownModule⟩]) ∧
      (Error.wrap "unbound: dispatch event" unknownModule).isClosed = false := by
  obtain ⟨middle, began⟩ : ∃ middle, (resolving emptyParser oneQuery 0).run (.initial oneQuery)
      (waiting ++ [.batch (.event (.timer 1)), .enter] ++ closing) = some middle := ⟨_, rfl⟩
  obtain ⟨s, ended⟩ : ∃ s, (resolving emptyParser oneQuery 0).run middle
      ([.hostCall, .leave (.ok (0, guestMemory)), .batch .step] ++ closed ++ unwinding) =
        some s := by
    cases began
    exact ⟨_, rfl⟩
  refine ⟨middle, s, Machine.reaches_of_run began, ?_, ?_, Machine.reaches_of_run ended, ?_⟩
  · cases began
    rfl
  · cases began
    decide
  · cases began
    cases ended
    exact ⟨rfl, rfl, rfl⟩

end UnboundWasm.Host.Lifecycle
