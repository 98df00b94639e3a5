import UnboundWasm.Host.Lifecycle.Machine

/-!
# Closing a runtime

Responsibility for closing a module passes between goroutines: from the call that
builds the instance to `r.states`, from there to the sweep of `Runtime.Close` or
to the instance's own `Close`, and back to the builder when the sweep came before
the module was published.  `Move` says what can happen to one instance; `Good` is
what every move keeps, and the machine is shown to make only such moves.
-/

namespace UnboundWasm.Host.Lifecycle

open UnboundWasm.Lib

/-- One instance as the runtime sees it: whether it is in `r.states` or among the
states the sweep still has to close, and whether wazero was closed. -/
structure View where
  inst : Inst
  listed : Prop
  swept : Prop

/-- Phases of an instance that only its builder knows. -/
def Phase.early : Phase → Bool
  | .instantiate | .publish | .discard | .forget | .working | .image => true
  | .closing | .returned | .failed => false

/-- Phases in which somebody must still be going to close the module. -/
def Phase.tracked : Phase → Bool
  | .instantiate | .publish | .working | .image | .returned => true
  | .discard | .forget | .closing | .failed => false

structure Good (v : View) : Prop where
  early : v.inst.phase.early = true → v.inst.closed = false ∧ v.inst.closer = .none
  closer : v.inst.closer ≠ .none → v.inst.closed = true
  torn : v.inst.torn = true → v.inst.modDead = true
  tracked : v.inst.phase.tracked = true →
    v.inst.closed = true ∨ v.inst.modDead = true ∨ v.listed
  unlisted : v.swept → ¬ v.listed
  swept : v.swept → v.inst.module = .live →
    v.inst.phase = .publish ∨ v.inst.phase = .discard
  image : v.inst.phase = .image → v.inst.template = true

/-- What can happen to one instance. -/
inductive Move : View → View → Prop where
  | lock {i : Inst} {listed swept : Prop} (locked : Bool) :
      Move ⟨i, listed, swept⟩ ⟨{ i with locked := locked }, listed, swept⟩
  | instantiate {i : Inst} {listed swept : Prop} (here : i.phase = .instantiate) :
      Move ⟨i, listed, swept⟩ ⟨{ i with module := .live, phase := .publish }, listed, swept⟩
  | miss {i : Inst} {listed swept : Prop} (here : i.phase = .instantiate) :
      Move ⟨i, listed, swept⟩ ⟨{ i with phase := .forget }, listed, swept⟩
  | publish {i : Inst} {listed swept : Prop} (here : i.phase = .publish)
      (alive : i.modDead = false) :
      Move ⟨i, listed, swept⟩ ⟨{ i with mod := true, phase := .working }, listed, swept⟩
  | tooLate {i : Inst} {listed swept : Prop} (here : i.phase = .publish) :
      Move ⟨i, listed, swept⟩ ⟨{ i with phase := .discard }, listed, swept⟩
  | discard {i : Inst} {listed swept : Prop} (here : i.phase = .discard) :
      Move ⟨i, listed, swept⟩ ⟨{ i with module := .closed, phase := .forget }, listed, swept⟩
  | forget {i : Inst} {listed after swept : Prop} (here : i.phase = .forget)
      (fewer : after → listed) :
      Move ⟨i, listed, swept⟩ ⟨{ i with phase := .failed }, after, swept⟩
  | image {i : Inst} {listed swept : Prop} (here : i.phase = .working)
      (template : i.template = true) :
      Move ⟨i, listed, swept⟩ ⟨{ i with phase := .image }, listed, swept⟩
  | hand {i : Inst} {listed swept : Prop} (here : i.phase = .working) :
      Move ⟨i, listed, swept⟩ ⟨{ i with phase := .returned }, listed, swept⟩
  | abandon {i : Inst} {listed swept : Prop} (here : i.phase = .working ∨ i.phase = .image) :
      Move ⟨i, listed, swept⟩
        ⟨{ i with phase := .closing, closed := true, closer := .removeState }, listed, swept⟩
  | give {i : Inst} {listed swept : Prop} (here : i.phase = .closing) :
      Move ⟨i, listed, swept⟩ ⟨{ i with phase := .failed }, listed, swept⟩
  | close {i : Inst} {listed swept : Prop} (here : i.phase = .returned)
      (isOpen : i.closed = false) :
      Move ⟨i, listed, swept⟩ ⟨{ i with closed := true, closer := .removeState }, listed, swept⟩
  | remove {i : Inst} {listed after swept : Prop} (here : i.closer = .removeState)
      (fewer : after → listed) :
      Move ⟨i, listed, swept⟩ ⟨{ i with closer := .closeModule }, after, swept⟩
  | closeModule {i : Inst} {listed swept : Prop} (here : i.closer = .closeModule) :
      Move ⟨i, listed, swept⟩ ⟨{ i.closeModule with closer := .done }, listed, swept⟩
  | sweep {i : Inst} {listed after swept : Prop} (fewer : after → listed) :
      Move ⟨i, listed, swept⟩ ⟨i.closeModule, after, swept⟩
  | wazero {i : Inst} {listed swept : Prop} (nobody : ¬ listed) :
      Move ⟨i, listed, swept⟩
        ⟨if i.module = .live then { i with module := .closed } else i, listed, True⟩

/-- `closeModule` closes what was published and changes nothing else of interest. -/
theorem Inst.closeModule_spec (i : Inst) :
    i.closeModule.phase = i.phase ∧ i.closeModule.closed = i.closed ∧
      i.closeModule.closer = i.closer ∧ i.closeModule.modDead = true ∧
      (i.closeModule.module = .live → i.module = .live) ∧
      i.closeModule.template = i.template := by
  rw [Inst.closeModule]
  split
  · exact ⟨rfl, rfl, rfl, rfl, fun impossible => (by cases impossible), rfl⟩
  · exact ⟨rfl, rfl, rfl, rfl, id, rfl⟩

/-- An instance that has just been registered. -/
theorem Good.new (template : Bool) : Good ⟨.new template, True, False⟩ := by
  constructor
  case early => exact fun _ => ⟨rfl, rfl⟩
  case closer => exact fun started => absurd rfl started
  case torn => exact fun impossible => by cases impossible
  case tracked => exact fun _ => .inr (.inr trivial)
  case unlisted => exact False.elim
  case swept => exact False.elim
  case image => exact fun impossible => by cases impossible

theorem Good.move {v w : View} (good : Good v) (move : Move v w) : Good w := by
  obtain ⟨early, closer, torn, tracked, unlisted, swept, image⟩ := good
  cases move with
  | publish here alive =>
      dsimp only at *
      rw [here] at early tracked
      have open' := early rfl
      have known : _ ∨ _ ∨ _ := tracked rfl
      simp only [open'.1, alive, Bool.false_eq_true, false_or] at known
      constructor
      case early => exact fun _ => open'
      case closer => exact closer
      case torn => exact torn
      case tracked => exact fun _ => .inr (.inr known)
      case unlisted => exact unlisted
      case swept => exact fun isSwept => absurd known (unlisted isSwept)
      case image => exact fun impossible => by cases impossible
  | @closeModule i listed isSwept here =>
      obtain ⟨phase, isClosed, _, dead, module, template⟩ := i.closeModule_spec
      have already : i.closed = true := closer (by simp [here])
      constructor
      case early =>
        dsimp only
        rw [phase]
        intro isEarly
        rw [(early isEarly).1] at already
        cases already
      case closer => exact fun _ => isClosed.trans already
      case torn => exact fun _ => dead
      case tracked => exact fun _ => .inr (.inl dead)
      case unlisted => exact unlisted
      case swept =>
        dsimp only
        rw [phase]
        exact fun isSwept live => swept isSwept (module live)
      case image =>
        dsimp only
        rw [phase, template]
        exact image
  | @sweep i listed after isSwept fewer =>
      obtain ⟨phase, isClosed, sameCloser, dead, module, template⟩ := i.closeModule_spec
      constructor
      case early =>
        dsimp only
        rw [phase, isClosed, sameCloser]
        exact early
      case closer =>
        dsimp only
        rw [sameCloser, isClosed]
        exact closer
      case torn => exact fun _ => dead
      case tracked => exact fun _ => .inr (.inl dead)
      case unlisted => exact fun isSwept isListed => unlisted isSwept (fewer isListed)
      case swept =>
        dsimp only
        rw [phase]
        exact fun isSwept live => swept isSwept (module live)
      case image =>
        dsimp only
        rw [phase, template]
        exact image
  | wazero nobody =>
      dsimp only at *
      split
      · exact ⟨early, closer, torn, tracked, fun _ => nobody, fun _ live => (by cases live), image⟩
      next notLive =>
        exact ⟨early, closer, torn, tracked, fun _ => nobody,
          fun _ live => absurd live notLive, image⟩
  | lock =>
      exact ⟨early, closer, torn, tracked, unlisted, swept, image⟩
  | remove here fewer =>
      dsimp only at *
      have already := closer (by simp [here])
      constructor
      case early =>
        intro isEarly
        rw [(early isEarly).1] at already
        cases already
      case closer => exact fun _ => already
      case torn => exact torn
      case tracked => exact fun _ => .inl already
      case unlisted => exact fun isSwept isListed => unlisted isSwept (fewer isListed)
      case swept => exact swept
      case image => exact image
  | forget here fewer =>
      dsimp only at *
      constructor
      case early => exact fun impossible => by cases impossible
      case closer => exact closer
      case torn => exact torn
      case tracked => exact fun impossible => by cases impossible
      case unlisted => exact fun isSwept isListed => unlisted isSwept (fewer isListed)
      case swept =>
        intro isSwept live
        have before := swept isSwept live
        simp [here] at before
      case image => exact fun impossible => by cases impossible
  | abandon here =>
      rcases here with here | here <;> constructor <;> simp_all [Phase.early, Phase.tracked]
  | instantiate here | miss here | tooLate here | discard here | image here template | hand here
  | give here | close here isOpen =>
      constructor <;> simp_all [Phase.early, Phase.tracked]

/-! ## The machine makes only such moves -/

/-- How far `Runtime.Close` is. -/
def Shutter.rank : Shutter → Nat
  | .idle => 0
  | .once => 1
  | .take => 2
  | .sweep _ => 3
  | .file => 4
  | .returned => 5

/-- The states taken and not closed yet. -/
def Shutter.rest : Shutter → List Nat
  | .sweep rest => rest
  | .idle | .once | .take | .file | .returned => []

namespace State

def view (s : State) (id : Nat) : View :=
  ⟨s.insts.get id, id ∈ s.states ∨ id ∈ s.shutter.rest, 4 ≤ s.shutter.rank⟩

@[simp] theorem view_inst (s : State) (id : Nat) : (s.view id).inst = s.insts.get id := rfl

/-- What `Runtime.Close` has achieved by each of its steps. -/
structure Ordered (s : State) : Prop where
  closed : 1 ≤ s.shutter.rank → s.closed = true
  once : 2 ≤ s.shutter.rank → s.once = .done
  states : 3 ≤ s.shutter.rank → s.states = []

/-- An old instance made a move or none; a new one is as registered. -/
def Traced (s after : State) : Prop :=
  ∀ id < after.insts.size,
    (id < s.insts.size ∧ (after.view id = s.view id ∨ Move (s.view id) (after.view id))) ∨
      (id = s.insts.size ∧ ∃ template, after.view id = ⟨.new template, True, False⟩)

variable {s after : State} {id other : Nat}

theorem Traced.same (insts : after.insts = s.insts) (states : after.states = s.states)
    (shutter : after.shutter = s.shutter) : Traced s after := by
  intro id inside
  rw [insts] at inside
  left
  refine ⟨inside, .inl ?_⟩
  rw [view, view, insts, states, shutter]

/-- A step on one instance, with no other instance listed or unlisted. -/
theorem Traced.onInst {change : Inst → Inst} (insts : after.insts = s.insts.modify id change)
    (rank : after.shutter.rank = s.shutter.rank)
    (listed : ∀ other, other ≠ id → ((other ∈ after.states ∨ other ∈ after.shutter.rest) ↔
      (other ∈ s.states ∨ other ∈ s.shutter.rest)))
    (move : Move (s.view id) (after.view id)) : Traced s after := by
  intro other inside
  rw [insts, Heap.size_modify] at inside
  left
  refine ⟨inside, ?_⟩
  by_cases same : other = id
  · subst same
    exact .inr move
  · left
    rw [view, view, insts, Heap.get_modify, if_neg same, rank]
    congr 1
    exact propext (listed other same)

/-- The usual case: of the instances and what is listed, one instance changes. -/
theorem Traced.modify {change : Inst → Inst} {closed zygote zygoteErr : Bool} {once : Once}
    {file : Resource} {callers : Heap Caller} {starts : List Start}
    (move : Move (s.view id) ⟨change (s.insts.get id), (s.view id).listed, (s.view id).swept⟩) :
    Traced s ⟨closed, s.states, once, zygote, zygoteErr, file, s.insts.modify id change, callers,
      s.shutter, starts⟩ := by
  apply Traced.onInst rfl
  · rfl
  · intro other _
    rfl
  · have seen : State.view ⟨closed, s.states, once, zygote, zygoteErr, file,
        s.insts.modify id change, callers, s.shutter, starts⟩ id =
        ⟨change (s.insts.get id), (s.view id).listed, (s.view id).swept⟩ := by
      rw [view, Heap.get_modify_self]
      rfl
    rw [seen]
    exact move

/-- One instance changes and leaves `r.states`. -/
theorem Traced.erase {change : Inst → Inst} {closed zygote zygoteErr : Bool} {once : Once}
    {file : Resource} {callers : Heap Caller} {starts : List Start}
    (move : ∀ listed : Prop, (listed → (s.view id).listed) →
      Move (s.view id) ⟨change (s.insts.get id), listed, (s.view id).swept⟩) :
    Traced s ⟨closed, s.states.erase id, once, zygote, zygoteErr, file, s.insts.modify id change,
      callers, s.shutter, starts⟩ := by
  apply Traced.onInst rfl
  · rfl
  · intro other different
    dsimp only
    rw [List.mem_erase_of_ne different]
  · have seen : State.view ⟨closed, s.states.erase id, once, zygote, zygoteErr, file,
        s.insts.modify id change, callers, s.shutter, starts⟩ id =
        ⟨change (s.insts.get id), id ∈ s.states.erase id ∨ id ∈ s.shutter.rest,
          (s.view id).swept⟩ := by
      rw [view, Heap.get_modify_self]
      rfl
    rw [seen]
    apply move
    exact fun listed => listed.imp_left List.mem_of_mem_erase

/-- A registration; the runtime is still open. -/
theorem Traced.register {template : Bool} (idle : s.shutter.rank = 0)
    (insts : after.insts = s.insts.alloc (.new template))
    (states : after.states = s.insts.size :: s.states) (shutter : after.shutter = s.shutter) :
    Traced s after := by
  intro other inside
  rw [insts] at inside
  rcases Heap.eq_or_lt_of_alloc inside with new | old
  · right
    refine ⟨new, template, ?_⟩
    subst new
    rw [view, insts, Heap.get_alloc_size, states, shutter, idle]
    simp
  · left
    refine ⟨old, .inl ?_⟩
    rw [view, view, insts, Heap.get_alloc_of_lt _ _ _ old, states, shutter]
    have different : other ≠ s.insts.size := Nat.ne_of_lt old
    simp [different]

theorem traced_callerStep {ref : Nat} {outcome : Outcome} (ordered : s.Ordered)
    (stepped : s.callerStep ref outcome = some after) : Traced s after := by
  have idle : s.closed = false → s.shutter.rank = 0 := by
    intro isOpen
    by_contra begun
    have closed := ordered.closed (Nat.one_le_iff_ne_zero.mpr begun)
    rw [isOpen] at closed
    cases closed
  cases (called_of_callerStep stepped).2 with
  | move | begin | finish => exact Traced.same rfl rfl rfl
  | register isOpen => exact Traced.register (idle isOpen) rfl rfl rfl

theorem traced_construct {outcome : Outcome} (stepped : s.construct id outcome = some after) :
    Traced s after := by
  unfold construct at stepped
  split at stepped
  · dsimp only at stepped
    split at stepped
    next here =>
      split at stepped
      · cases stepped
        exact Traced.modify (.instantiate here)
      · cases stepped
        exact Traced.modify (.miss here)
    next here =>
      split at stepped
      · cases stepped
        exact Traced.modify (.tooLate here)
      next alive =>
        cases stepped
        exact Traced.modify (.publish here (by simpa using alive))
    next here =>
      cases stepped
      exact Traced.modify (.discard here)
    next here =>
      cases stepped
      exact Traced.erase fun _ fewer => .forget here fewer
    next here =>
      split at stepped
      · cases stepped
        exact Traced.modify (.abandon (.inl here))
      · cases stepped
        exact Traced.modify (.abandon (.inl here))
      · cases stepped
      next template =>
        cases stepped
        exact Traced.modify (.image here template)
      · cases stepped
        exact Traced.modify (.hand here)
    next here =>
      split at stepped
      · cases stepped
        exact Traced.modify (.abandon (.inr here))
      · cases stepped
        exact Traced.modify (.abandon (.inr here))
    next here =>
      split at stepped
      · cases stepped
        exact Traced.modify (.give here)
      · cases stepped
    · cases stepped
    · cases stepped
  · cases stepped

theorem traced_close (stepped : s.close id = some after) : Traced s after := by
  unfold close at stepped
  split at stepped
  next here =>
    split at stepped
    · cases stepped
      exact Traced.same rfl rfl rfl
    next isOpen =>
      cases stepped
      exact Traced.modify (.close here.2 (by simpa using isOpen))
  · cases stepped

theorem traced_closerStep (stepped : s.closerStep id = some after) : Traced s after := by
  unfold closerStep at stepped
  split at stepped
  · split at stepped
    next here =>
      cases stepped
      exact Traced.erase fun _ fewer => .remove here fewer
    next here =>
      split at stepped
      · cases stepped
      · cases stepped
        exact Traced.modify (.closeModule here)
    · cases stepped
    · cases stepped
  · cases stepped

theorem traced_enter (stepped : s.enter id = some after) : Traced s after := by
  unfold enter at stepped
  dsimp only at stepped
  split at stepped
  · split at stepped
    · cases stepped
      exact Traced.same rfl rfl rfl
    · cases stepped
      exact Traced.modify (.lock true)
  · cases stepped

theorem traced_leave (stepped : s.leave id = some after) : Traced s after := by
  unfold leave at stepped
  split at stepped
  · cases stepped
    exact Traced.modify (.lock false)
  · cases stepped

theorem traced_sweepStep (stepped : s.sweepStep id = some after) : Traced s after := by
  unfold sweepStep at stepped
  split at stepped
  next rest sweeping =>
    split at stepped
    · cases stepped
      have taken : s.shutter.rest = rest := by rw [sweeping]; rfl
      apply Traced.onInst rfl
      · rw [sweeping]
        rfl
      · intro other different
        rw [taken]
        simp only [onInst, Shutter.rest, List.mem_erase_of_ne different]
      · have seen : State.view { s.onInst id Inst.closeModule with
            shutter := .sweep (rest.erase id) } id =
            ⟨(s.insts.get id).closeModule, id ∈ s.states ∨ id ∈ rest.erase id,
              (s.view id).swept⟩ := by
          simp [view, onInst, Shutter.rest, Shutter.rank, sweeping]
        rw [seen]
        apply Move.sweep
        rw [taken]
        exact fun listed => listed.imp_right List.mem_of_mem_erase
    · cases stepped
  · cases stepped

theorem traced_shutterStep (ordered : s.Ordered) (stepped : s.shutterStep = some after) :
    Traced s after := by
  -- Up to the sweep only the place of the list changes.
  have moved : ∀ next : State, next.insts = s.insts →
      (∀ id, (id ∈ next.states ∨ id ∈ next.shutter.rest) ↔
        (id ∈ s.states ∨ id ∈ s.shutter.rest)) →
      (4 ≤ next.shutter.rank ↔ 4 ≤ s.shutter.rank) → Traced s next := by
    intro next insts listed rank id inside
    rw [insts] at inside
    left
    refine ⟨inside, .inl ?_⟩
    rw [view, view, insts, propext (listed id), propext rank]
  unfold shutterStep at stepped
  split at stepped
  next here =>
    cases stepped
    apply moved <;> simp [here, Shutter.rest, Shutter.rank]
  next here =>
    split at stepped
    · cases stepped
    · cases stepped
      apply moved <;> simp [here, Shutter.rest, Shutter.rank]
  next here =>
    cases stepped
    apply moved <;> simp [here, Shutter.rest, Shutter.rank]
  next here =>
    cases stepped
    have states := ordered.states (by simp [here, Shutter.rank])
    intro id inside
    left
    refine ⟨inside, .inr ?_⟩
    have before : s.view id = ⟨s.insts.get id, False, False⟩ := by
      simp [view, here, states, Shutter.rest, Shutter.rank]
    have later : State.view { s.closeWazero with shutter := .file } id =
        ⟨if (s.insts.get id).module = .live then { s.insts.get id with module := .closed }
          else s.insts.get id, False, True⟩ := by
      simp [view, closeWazero, states, Shutter.rest, Shutter.rank]
    rw [before, later]
    exact .wazero not_false
  · cases stepped
  next here =>
    cases stepped
    apply moved <;> simp [here, Shutter.rest, Shutter.rank]
  · cases stepped

/-- Every step of the system is a move, or none, of each instance. -/
theorem traced_step {action : Action} (ordered : s.Ordered)
    (stepped : s.step action = some after) : Traced s after := by
  cases action with
  | newInstance =>
      cases stepped
      exact Traced.same rfl rfl rfl
  | caller ref outcome => exact traced_callerStep ordered stepped
  | construct id outcome => exact traced_construct stepped
  | close id => exact traced_close stepped
  | closer id => exact traced_closerStep stepped
  | enter id => exact traced_enter stepped
  | leave id => exact traced_leave stepped
  | shutter => exact traced_shutterStep ordered stepped
  | sweep id => exact traced_sweepStep stepped

end State

end UnboundWasm.Host.Lifecycle
