import UnboundWasm.Host.Lifecycle.Closing
import UnboundWasm.Host.Resolve.Closed

/-!
# The once and the image file

The once of the zygote hands the image file from the call that builds the
template to `Runtime.Close`.  Every instance under construction has a call of
`NewInstance` waiting for it, and only the one inside the once builds a template,
so when the once is done the file belongs to `r.zygote` or is closed.
-/

namespace UnboundWasm.Host.Lifecycle

open UnboundWasm.Lib

/-- The construction is over. -/
def Phase.built : Phase → Bool
  | .returned | .failed => true
  | .instantiate | .publish | .discard | .forget | .working | .image | .closing => false

/-- No move makes an instance a template or takes its construction up again. -/
theorem Move.kept {v w : View} (move : Move v w) :
    w.inst.template = v.inst.template ∧
      (v.inst.phase.built = true → w.inst.phase.built = true) := by
  cases move with
  | lock | close | remove => exact ⟨rfl, id⟩
  | @closeModule i | @sweep i =>
      obtain ⟨phase, _, _, _, _, template⟩ := i.closeModule_spec
      refine ⟨template, ?_⟩
      dsimp only
      rw [phase]
      exact id
  | wazero =>
      dsimp only
      split <;> exact ⟨rfl, id⟩
  | forget | hand | give => exact ⟨rfl, fun _ => rfl⟩
  | instantiate here | miss here | publish here | tooLate here | discard here | image here =>
      refine ⟨rfl, ?_⟩
      dsimp only
      rw [here]
      exact fun impossible => by cases impossible
  | abandon here =>
      refine ⟨rfl, ?_⟩
      dsimp only
      rcases here with here | here <;> rw [here] <;> exact fun impossible => by cases impossible

namespace State

theorem built_eq (s : State) (id : Nat) : s.built id = (s.insts.get id).phase.built := by
  rw [built]
  cases (s.insts.get id).phase <;> rfl

/-- What a step outside of `NewInstance` and `Runtime.Close` leaves alone. -/
structure Frame (s after : State) : Prop where
  closed : after.closed = s.closed
  once : after.once = s.once
  callers : after.callers = s.callers
  size : after.insts.size = s.insts.size
  rank : after.shutter.rank = s.shutter.rank
  states : s.states = [] → after.states = []
  starts : after.starts = s.starts ∨ ∃ id < s.insts.size, (s.insts.get id).modDead = false ∧
    after.starts = s.starts ++ [⟨id, (s.insts.get id).torn⟩]

/-- What a step outside of the construction leaves alone as well. -/
structure Still (s after : State) : Prop extends Frame s after where
  file : after.file = s.file
  zygote : after.zygote = s.zygote
  phase : ∀ id, (after.insts.get id).phase = (s.insts.get id).phase

variable {s after : State} {id : Nat}

theorem Frame.onInst {change : Inst → Inst} {zygote zygoteErr : Bool} {file : Resource}
    {states : List Nat} (fewer : s.states = [] → states = []) :
    Frame s ⟨s.closed, states, s.once, zygote, zygoteErr, file, s.insts.modify id change,
      s.callers, s.shutter, s.starts⟩ :=
  ⟨rfl, rfl, rfl, Heap.size_modify .., rfl, fewer, .inl rfl⟩

theorem frame_construct {outcome : Outcome} (stepped : s.construct id outcome = some after) :
    Frame s after := by
  unfold construct at stepped
  split at stepped
  · dsimp only at stepped
    split at stepped
    case h_4 =>
      cases stepped
      apply Frame.onInst
      intro empty
      rw [empty]
      rfl
    case h_8 => cases stepped
    case h_9 => cases stepped
    case h_3 =>
      cases stepped
      exact Frame.onInst fun empty => empty
    all_goals
      split at stepped <;> cases stepped <;> exact Frame.onInst fun empty => empty
  · cases stepped

theorem Still.refl (s : State) : Still s s :=
  ⟨⟨rfl, rfl, rfl, rfl, rfl, fun empty => empty, .inl rfl⟩, rfl, rfl, fun _ => rfl⟩

/-- One instance changes, but not how far its construction is. -/
theorem Still.onInst {change : Inst → Inst} {states : List Nat} {shutter : Shutter}
    {starts : List Start}
    (keeps : (change (s.insts.get id)).phase = (s.insts.get id).phase)
    (fewer : s.states = [] → states = []) (rank : shutter.rank = s.shutter.rank)
    (began : starts = s.starts ∨ ∃ id < s.insts.size, (s.insts.get id).modDead = false ∧
      starts = s.starts ++ [⟨id, (s.insts.get id).torn⟩]) :
    Still s ⟨s.closed, states, s.once, s.zygote, s.zygoteErr, s.file, s.insts.modify id change,
      s.callers, shutter, starts⟩ := by
  refine ⟨⟨rfl, rfl, rfl, Heap.size_modify .., rank, fewer, began⟩, rfl, rfl, ?_⟩
  intro other
  dsimp only
  rw [Heap.get_modify]
  split
  next same =>
    rw [same]
    exact keeps
  · rfl

theorem still_close (stepped : s.close id = some after) : Still s after := by
  unfold close at stepped
  split at stepped
  · split at stepped
    · cases stepped
      exact .refl s
    · cases stepped
      exact Still.onInst rfl (fun empty => empty) rfl (.inl rfl)
  · cases stepped

theorem still_closerStep (stepped : s.closerStep id = some after) : Still s after := by
  unfold closerStep at stepped
  split at stepped
  · split at stepped
    · cases stepped
      refine Still.onInst rfl ?_ rfl (.inl rfl)
      intro empty
      rw [empty]
      rfl
    · split at stepped
      · cases stepped
      · cases stepped
        have keeps := (Inst.closeModule_spec (s.insts.get id)).1
        exact Still.onInst keeps (fun empty => empty) rfl (.inl rfl)
    · cases stepped
    · cases stepped
  · cases stepped

theorem still_enter (stepped : s.enter id = some after) : Still s after := by
  unfold enter at stepped
  dsimp only at stepped
  split at stepped
  next inside =>
    split at stepped
    · cases stepped
      exact .refl s
    next alive =>
      cases stepped
      have live : (s.insts.get id).modDead = false := by simpa using alive
      dsimp only [onInst]
      apply Still.onInst
      · rfl
      · exact fun empty => empty
      · rfl
      · exact .inr ⟨id, inside.1, live, rfl⟩
  · cases stepped

theorem still_leave (stepped : s.leave id = some after) : Still s after := by
  unfold leave at stepped
  split at stepped
  · cases stepped
    exact Still.onInst rfl (fun empty => empty) rfl (.inl rfl)
  · cases stepped

theorem still_sweepStep (stepped : s.sweepStep id = some after) : Still s after := by
  unfold sweepStep at stepped
  split at stepped
  next rest sweeping =>
    split at stepped
    · cases stepped
      have keeps := (Inst.closeModule_spec (s.insts.get id)).1
      have rank : Shutter.rank (.sweep (rest.erase id)) = s.shutter.rank := by
        rw [sweeping]
        rfl
      exact Still.onInst keeps (fun empty => empty) rank (.inl rfl)
    · cases stepped
  · cases stepped

/-! ## What the steps keep -/

/-- The calls of `NewInstance` and the instances they wait for. -/
structure Staffed (s : State) : Prop where
  waiting : ∀ id < s.insts.size, (s.insts.get id).phase.built = false →
    ∃ ref < s.callers.size, s.callers.get ref = .waiting (s.insts.get id).template id
  running : ∀ ref < s.callers.size, (s.callers.get ref).inInit = true → s.once = .running
  alone : ∀ left < s.callers.size, ∀ right < s.callers.size,
    (s.callers.get left).inInit = true → (s.callers.get right).inInit = true → left = right

/-- Who has the image file. -/
structure Filed (s : State) : Prop where
  owner : s.file = .live →
    s.zygote = true ∨ ∃ id < s.insts.size, (s.insts.get id).phase = .image
  shut : 5 ≤ s.shutter.rank → s.file ≠ .live

/-- What holds in every state. -/
structure Holds (s : State) : Prop where
  ordered : s.Ordered
  good : ∀ id < s.insts.size, Good (s.view id)
  staffed : s.Staffed
  filed : s.Filed
  prompt : ∀ start ∈ s.starts, start.late = false

/-- While a template is under construction the once is running. -/
theorem Staffed.once (staffed : s.Staffed) (inside : id < s.insts.size)
    (template : (s.insts.get id).template = true)
    (unbuilt : (s.insts.get id).phase.built = false) : s.once = .running := by
  obtain ⟨ref, called, waits⟩ := staffed.waiting id inside unbuilt
  apply staffed.running ref called
  rw [waits, template]
  rfl

theorem Traced.good (traced : Traced s after) (good : ∀ id < s.insts.size, Good (s.view id)) :
    ∀ id < after.insts.size, Good (after.view id) := by
  intro id inside
  rcases traced id inside with ⟨old, same | move⟩ | ⟨_, template, new⟩
  · rw [same]
    exact good id old
  · exact (good id old).move move
  · rw [new]
    exact .new template

/-- An instance still under construction was so before, and for the same purpose. -/
theorem Traced.unbuilt (traced : Traced s after) (inside : id < after.insts.size)
    (old : id < s.insts.size) (unbuilt : (after.insts.get id).phase.built = false) :
    (after.insts.get id).template = (s.insts.get id).template ∧
      (s.insts.get id).phase.built = false := by
  rcases traced id inside with ⟨_, same | move⟩ | ⟨new, _⟩
  · have inst : after.insts.get id = s.insts.get id := congrArg View.inst same
    rw [inst] at unbuilt ⊢
    exact ⟨rfl, unbuilt⟩
  · have kept := move.kept
    refine ⟨kept.1, ?_⟩
    by_contra already
    have built := kept.2 (by simpa using already)
    rw [view_inst, unbuilt] at built
    cases built
  · omega

theorem Ordered.frame (ordered : s.Ordered) (frame : Frame s after) : after.Ordered := by
  constructor
  case closed =>
    rw [frame.rank, frame.closed]
    exact ordered.closed
  case once =>
    rw [frame.rank, frame.once]
    exact ordered.once
  case states =>
    rw [frame.rank]
    exact fun late => frame.states (ordered.states late)

theorem Staffed.frame (staffed : s.Staffed) (traced : Traced s after) (frame : Frame s after) :
    after.Staffed := by
  constructor
  case waiting =>
    intro id inside unbuilt
    have old : id < s.insts.size := frame.size ▸ inside
    obtain ⟨template, before⟩ := traced.unbuilt inside old unbuilt
    rw [frame.callers, template]
    exact staffed.waiting id old before
  case running =>
    rw [frame.callers, frame.once]
    exact staffed.running
  case alone =>
    rw [frame.callers]
    exact staffed.alone

/-- The file stays where it is, and no instance leaves the phase `image`. -/
theorem Filed.carry (filed : s.Filed) (file : after.file = s.file)
    (zygote : after.zygote = s.zygote)
    (phase : ∀ id < s.insts.size, (s.insts.get id).phase = .image →
      id < after.insts.size ∧ (after.insts.get id).phase = .image)
    (rank : 5 ≤ after.shutter.rank → 5 ≤ s.shutter.rank) : after.Filed := by
  constructor
  case owner =>
    rw [file, zygote]
    intro live
    refine (filed.owner live).imp_right ?_
    rintro ⟨id, inside, image⟩
    exact ⟨id, phase id inside image⟩
  case shut =>
    rw [file]
    exact fun shut => filed.shut (rank shut)

theorem Filed.still (filed : s.Filed) (still : Still s after) : after.Filed := by
  apply filed.carry still.file still.zygote
  · intro id inside image
    exact ⟨still.size ▸ inside, (still.phase id).trans image⟩
  · rw [still.rank]
    exact fun shut => shut

/-- A step of the construction that does not concern the file. -/
theorem Filed.away {change : Inst → Inst} {closed zygoteErr : Bool} {once : Once}
    {states : List Nat} {callers : Heap Caller} {starts : List Start} (filed : s.Filed)
    (elsewhere : (s.insts.get id).phase ≠ .image) :
    Filed ⟨closed, states, once, s.zygote, zygoteErr, s.file, s.insts.modify id change, callers,
      s.shutter, starts⟩ := by
  apply filed.carry
  · rfl
  · rfl
  · intro other inside image
    have different : other ≠ id := by
      intro same
      rw [same] at image
      exact elsewhere image
    dsimp only
    rw [Heap.size_modify, Heap.get_modify, if_neg different]
    exact ⟨inside, image⟩
  · exact fun shut => shut

theorem filed_construct {outcome : Outcome} (holds : s.Holds)
    (stepped : s.construct id outcome = some after) : after.Filed := by
  unfold construct at stepped
  split at stepped
  next inside =>
    dsimp only at stepped
    split at stepped
    next here =>
      split at stepped <;> cases stepped <;> exact holds.filed.away (by simp [here])
    next here =>
      split at stepped <;> cases stepped <;> exact holds.filed.away (by simp [here])
    next here =>
      cases stepped
      exact holds.filed.away (by simp [here])
    next here =>
      cases stepped
      exact holds.filed.away (by simp [here])
    next here =>
      split at stepped
      · cases stepped
        exact holds.filed.away (by simp [here])
      · cases stepped
        exact holds.filed.away (by simp [here])
      · cases stepped
      next template =>
        cases stepped
        constructor
        case owner =>
          intro _
          right
          refine ⟨id, ?_, ?_⟩
          · exact (Heap.size_modify ..).symm ▸ inside
          · simp [toPhase, onInst]
        case shut =>
          intro shut
          have running := holds.staffed.once inside template (by rw [here]; rfl)
          have done := holds.ordered.once (Nat.le_trans (by decide) shut)
          rw [running] at done
          cases done
      · cases stepped
        exact holds.filed.away (by simp [here])
    next here =>
      split at stepped
      · cases stepped
        exact ⟨fun _ => .inl rfl, holds.filed.shut⟩
      · cases stepped
        exact ⟨fun live => (by cases live), fun _ live => (by cases live)⟩
    next here =>
      split at stepped
      · cases stepped
        exact holds.filed.away (by simp [here])
      · cases stepped
    · cases stepped
    · cases stepped
  · cases stepped

/-- A guest block begins only on a module that `closeModule` has not closed. -/
theorem prompt_frame (holds : s.Holds) (frame : Frame s after) :
    ∀ start ∈ after.starts, start.late = false := by
  rcases frame.starts with same | ⟨id, inside, alive, began⟩
  · rw [same]
    exact holds.prompt
  · rw [began]
    intro start member
    rcases List.mem_append.mp member with earlier | now
    · exact holds.prompt start earlier
    · rw [List.mem_singleton.mp now]
      by_contra late
      have dead := (holds.good id inside).torn (by simpa using late)
      rw [view_inst, alive] at dead
      cases dead

theorem Holds.still (holds : s.Holds) (traced : Traced s after) (still : Still s after) :
    after.Holds where
  ordered := holds.ordered.frame still.toFrame
  good := traced.good holds.good
  staffed := holds.staffed.frame traced still.toFrame
  filed := holds.filed.still still
  prompt := prompt_frame holds still.toFrame

theorem holds_construct {outcome : Outcome} (holds : s.Holds)
    (stepped : s.construct id outcome = some after) : after.Holds where
  ordered := holds.ordered.frame (frame_construct stepped)
  good := (traced_construct stepped).good holds.good
  staffed := holds.staffed.frame (traced_construct stepped) (frame_construct stepped)
  filed := filed_construct holds stepped
  prompt := prompt_frame holds (frame_construct stepped)

/-! ## `NewInstance` -/

section Callers

variable {ref : Nat} {caller : Caller}

/-- One call goes on to another place. Every instance under construction is waited
for by another call, or by this one from now on. -/
theorem Staffed.place (callers : after.callers = s.callers.modify ref fun _ => caller)
    (waiting : ∀ id < after.insts.size, (after.insts.get id).phase.built = false →
      (∃ other < s.callers.size, other ≠ ref ∧
        s.callers.get other = .waiting (after.insts.get id).template id) ∨
      (ref < s.callers.size ∧ caller = .waiting (after.insts.get id).template id))
    (here : caller.inInit = true → after.once = .running)
    (elsewhere : ∀ other < s.callers.size, other ≠ ref →
      (s.callers.get other).inInit = true → after.once = .running ∧ caller.inInit = false)
    (alone : ∀ left < s.callers.size, ∀ right < s.callers.size, left ≠ ref → right ≠ ref →
      (s.callers.get left).inInit = true → (s.callers.get right).inInit = true →
      left = right) : after.Staffed := by
  have moved : after.callers.get ref = caller := by
    rw [callers, Heap.get_modify_self]
  have kept : ∀ other, other ≠ ref → after.callers.get other = s.callers.get other := by
    intro other different
    rw [callers, Heap.get_modify, if_neg different]
  have size : after.callers.size = s.callers.size := by
    rw [callers, Heap.size_modify]
  constructor
  case waiting =>
    intro id inside unbuilt
    rw [size]
    rcases waiting id inside unbuilt with ⟨other, called, different, waits⟩ | ⟨called, waits⟩
    · exact ⟨other, called, (kept other different).trans waits⟩
    · exact ⟨ref, called, moved.trans waits⟩
  case running =>
    intro other called isInside
    rw [size] at called
    by_cases same : other = ref
    · rw [same, moved] at isInside
      exact here isInside
    · rw [kept other same] at isInside
      exact (elsewhere other called same isInside).1
  case alone =>
    intro left leftCalled right rightCalled leftInside rightInside
    rw [size] at leftCalled rightCalled
    by_cases sameLeft : left = ref
    · by_cases sameRight : right = ref
      · rw [sameLeft, sameRight]
      · rw [kept right sameRight] at rightInside
        rw [sameLeft, moved, (elsewhere right rightCalled sameRight rightInside).2] at leftInside
        cases leftInside
    · rw [kept left sameLeft] at leftInside
      by_cases sameRight : right = ref
      · rw [sameRight, moved, (elsewhere left leftCalled sameLeft leftInside).2] at rightInside
        cases rightInside
      · rw [kept right sameRight] at rightInside
        exact alone left leftCalled right rightCalled sameLeft sameRight leftInside rightInside

/-- A call whose wait is over is not the one an instance under construction has. -/
theorem Staffed.others (staffed : s.Staffed) (inside : id < s.insts.size)
    (unbuilt : (s.insts.get id).phase.built = false)
    (building : ∀ id, s.callers.get ref = .building id → s.built id = true)
    (template : ∀ id, s.callers.get ref = .template id → s.built id = true) :
    ∃ other < s.callers.size, other ≠ ref ∧
      s.callers.get other = .waiting (s.insts.get id).template id := by
  obtain ⟨other, called, waits⟩ := staffed.waiting id inside unbuilt
  refine ⟨other, called, ?_, waits⟩
  intro same
  rw [same, Caller.waiting] at waits
  have built : s.built id = true := by
    split at waits
    · exact template id waits
    · exact building id waits
  rw [built_eq, unbuilt] at built
  cases built

theorem staffed_called (staffed : s.Staffed) (inside : ref < s.callers.size)
    (called : Called s ref after) : after.Staffed := by
  have alone : ∀ left < s.callers.size, ∀ right < s.callers.size, left ≠ ref → right ≠ ref →
      (s.callers.get left).inInit = true → (s.callers.get right).inInit = true →
      left = right :=
    fun left leftCalled right rightCalled _ _ => staffed.alone left leftCalled right rightCalled
  cases called with
  | move before outside free =>
      refine Staffed.place rfl ?_ ?_ ?_ alone
      · intro id old unbuilt
        left
        apply staffed.others old unbuilt free
        intro id template
        rw [template] at before
        cases before
      · rw [outside]
        exact fun impossible => by cases impossible
      · intro other called _ isInside
        exact ⟨staffed.running other called isInside, outside⟩
  | begin idle here =>
      refine Staffed.place rfl ?_ (fun _ => rfl) ?_ alone
      · intro id old unbuilt
        left
        apply staffed.others old unbuilt <;> simp [here]
      · intro other called _ isInside
        have running := staffed.running other called isInside
        rw [idle] at running
        cases running
  | finish before free =>
      refine Staffed.place rfl ?_ (fun impossible => by cases impossible) ?_ alone
      · intro id old unbuilt
        left
        refine staffed.others old unbuilt ?_ free
        intro id building
        rw [building] at before
        cases before
      · intro other called different isInside
        exact absurd (staffed.alone other called ref inside isInside before) different
  | @register template isOpen here =>
      refine Staffed.place rfl ?_ ?_ ?_ alone
      · intro id new unbuilt
        rcases Heap.eq_or_lt_of_alloc new with new | old
        · right
          refine ⟨inside, ?_⟩
          rw [new]
          simp [State.register, callerTo, Inst.new]
        · left
          have kept : (((s.register template).callerTo ref
              (.waiting template s.insts.size)).insts.get id) = s.insts.get id :=
            Heap.get_alloc_of_lt _ _ _ old
          rw [kept] at unbuilt ⊢
          apply staffed.others old unbuilt
          all_goals
            intro id waits
            rw [here] at waits
            split at waits <;> cases waits
      · cases template with
        | true => exact fun _ => staffed.running ref inside (by rw [here]; rfl)
        | false => exact fun impossible => by cases impossible
      · intro other called different isInside
        refine ⟨staffed.running other called isInside, ?_⟩
        cases template with
        | true =>
            have same := staffed.alone other called ref inside isInside (by rw [here]; rfl)
            exact absurd same different
        | false => rfl

theorem ordered_called (ordered : s.Ordered) (called : Called s ref after) : after.Ordered := by
  cases called with
  | move => exact ⟨ordered.closed, ordered.once, ordered.states⟩
  | begin idle =>
      refine ⟨ordered.closed, ?_, ordered.states⟩
      intro taken
      have done := ordered.once taken
      rw [idle] at done
      cases done
  | finish => exact ⟨ordered.closed, fun _ => rfl, ordered.states⟩
  | register isOpen =>
      refine ⟨ordered.closed, ordered.once, ?_⟩
      intro swept
      have closed := ordered.closed (Nat.le_trans (by decide) swept)
      rw [isOpen] at closed
      cases closed

theorem filed_called (filed : s.Filed) (called : Called s ref after) : after.Filed := by
  cases called with
  | move | begin | finish => exact ⟨filed.owner, filed.shut⟩
  | register =>
      apply filed.carry
      · rfl
      · rfl
      · intro id inside image
        refine ⟨Nat.lt_succ_of_lt inside, ?_⟩
        exact (congrArg Inst.phase (Heap.get_alloc_of_lt _ _ _ inside)).trans image
      · exact fun shut => shut

theorem holds_callerStep {outcome : Outcome} (holds : s.Holds)
    (stepped : s.callerStep ref outcome = some after) : after.Holds := by
  obtain ⟨inside, called⟩ := called_of_callerStep stepped
  constructor
  case ordered => exact ordered_called holds.ordered called
  case good => exact (traced_callerStep holds.ordered stepped).good holds.good
  case staffed => exact staffed_called holds.staffed inside called
  case filed => exact filed_called holds.filed called
  case prompt =>
    cases called <;> exact holds.prompt

end Callers

/-! ## `Runtime.Close` -/

theorem ordered_shutterStep (ordered : s.Ordered) (stepped : s.shutterStep = some after) :
    after.Ordered := by
  unfold shutterStep at stepped
  split at stepped
  next here =>
    cases stepped
    constructor <;> simp [Shutter.rank]
  next here =>
    split at stepped
    · cases stepped
    · cases stepped
      have closed := ordered.closed (by simp [here, Shutter.rank])
      constructor <;> simp [Shutter.rank, closed]
  next here =>
    cases stepped
    have closed := ordered.closed (by simp [here, Shutter.rank])
    have once := ordered.once (by simp [here, Shutter.rank])
    constructor <;> simp [Shutter.rank, closed, once]
  next here =>
    cases stepped
    have closed := ordered.closed (by simp [here, Shutter.rank])
    have once := ordered.once (by simp [here, Shutter.rank])
    have states := ordered.states (by simp [here, Shutter.rank])
    constructor <;> simp [closeWazero, closed, once, states]
  · cases stepped
  next here =>
    cases stepped
    have closed := ordered.closed (by simp [here, Shutter.rank])
    have once := ordered.once (by simp [here, Shutter.rank])
    have states := ordered.states (by simp [here, Shutter.rank])
    constructor <;> simp [closed, once, states]
  · cases stepped

/-- What `Runtime.Close` leaves alone, and what it does to the once and the file. -/
structure Shut (s after : State) : Prop where
  callers : after.callers = s.callers
  size : after.insts.size = s.insts.size
  phase : ∀ id, (after.insts.get id).phase = (s.insts.get id).phase
  starts : after.starts = s.starts
  zygote : after.zygote = s.zygote
  once : after.once = s.once ∨ s.once ≠ .running
  file : (after.file = s.file ∧ after.shutter.rank ≤ 4) ∨
    (after.file = (if s.zygote then .closed else s.file) ∧ 4 ≤ s.shutter.rank)

theorem shut_shutterStep (stepped : s.shutterStep = some after) : Shut s after := by
  unfold shutterStep at stepped
  split at stepped
  · cases stepped
    exact ⟨rfl, rfl, fun _ => rfl, rfl, rfl, .inl rfl, .inl ⟨rfl, by simp [Shutter.rank]⟩⟩
  · split at stepped
    · cases stepped
    next waited =>
      cases stepped
      exact ⟨rfl, rfl, fun _ => rfl, rfl, rfl, .inr waited, .inl ⟨rfl, by simp [Shutter.rank]⟩⟩
  · cases stepped
    exact ⟨rfl, rfl, fun _ => rfl, rfl, rfl, .inl rfl, .inl ⟨rfl, by simp [Shutter.rank]⟩⟩
  · cases stepped
    refine ⟨rfl, rfl, ?_, rfl, rfl, .inl rfl, .inl ⟨rfl, by simp [Shutter.rank]⟩⟩
    intro id
    simp only [closeWazero, Heap.get_map]
    split <;> rfl
  · cases stepped
  next here =>
    cases stepped
    exact ⟨rfl, rfl, fun _ => rfl, rfl, rfl, .inl rfl, .inr ⟨rfl, by simp [here, Shutter.rank]⟩⟩
  · cases stepped

theorem Staffed.shut (staffed : s.Staffed) (traced : Traced s after) (shut : Shut s after) :
    after.Staffed := by
  constructor
  case waiting =>
    intro id inside unbuilt
    have old : id < s.insts.size := shut.size ▸ inside
    obtain ⟨template, before⟩ := traced.unbuilt inside old unbuilt
    rw [shut.callers, template]
    exact staffed.waiting id old before
  case running =>
    intro ref called isInside
    rw [shut.callers] at called isInside
    have running := staffed.running ref called isInside
    rcases shut.once with same | waited
    · exact same.trans running
    · exact absurd running waited
  case alone =>
    rw [shut.callers]
    exact staffed.alone

theorem Holds.noImage (holds : s.Holds) (done : s.once = .done) (inside : id < s.insts.size) :
    (s.insts.get id).phase ≠ .image := by
  intro image
  have template := (holds.good id inside).image image
  have running := holds.staffed.once inside template (by rw [image]; rfl)
  rw [done] at running
  cases running

/-- When the once is done, the file is closed with the zygote or has no owner. -/
theorem Filed.shutter (holds : s.Holds) (shut : Shut s after) : after.Filed := by
  rcases shut.file with ⟨file, early⟩ | ⟨file, late⟩
  · apply holds.filed.carry file shut.zygote
    · intro id inside image
      exact ⟨shut.size ▸ inside, (shut.phase id).trans image⟩
    · intro returned
      omega
  · have unowned : after.file ≠ .live := by
      rw [file]
      split
      · exact fun live => by cases live
      next noZygote =>
        intro live
        rcases holds.filed.owner live with zygote | ⟨id, inside, image⟩
        · exact noZygote zygote
        · have done := holds.ordered.once (Nat.le_trans (by decide) late)
          exact holds.noImage done inside image
    exact ⟨fun live => absurd live unowned, fun _ => unowned⟩

theorem holds_shutterStep (holds : s.Holds) (stepped : s.shutterStep = some after) :
    after.Holds := by
  have shut := shut_shutterStep stepped
  have traced := traced_shutterStep holds.ordered stepped
  constructor
  case ordered => exact ordered_shutterStep holds.ordered stepped
  case good => exact traced.good holds.good
  case staffed => exact holds.staffed.shut traced shut
  case filed => exact Filed.shutter holds shut
  case prompt =>
    rw [shut.starts]
    exact holds.prompt

/-! ## Every run -/

/-- A call of `NewInstance` that arrives is not inside the once. -/
theorem holds_newInstance (holds : s.Holds) :
    State.Holds { s with callers := s.callers.alloc .check } := by
  have old : ∀ ref, ((s.callers.alloc .check).get ref).inInit = true →
      ref < (s.callers.alloc .check).size → ref < s.callers.size ∧
        (s.callers.get ref).inInit = true := by
    intro ref isInside called
    rcases Heap.eq_or_lt_of_alloc called with new | before
    · rw [new, Heap.get_alloc_size] at isInside
      cases isInside
    · rw [Heap.get_alloc_of_lt _ _ _ before] at isInside
      exact ⟨before, isInside⟩
  constructor
  case ordered => exact ⟨holds.ordered.closed, holds.ordered.once, holds.ordered.states⟩
  case good => exact holds.good
  case staffed =>
    constructor
    case waiting =>
      intro id inside unbuilt
      obtain ⟨ref, called, waits⟩ := holds.staffed.waiting id inside unbuilt
      refine ⟨ref, Nat.lt_succ_of_lt called, ?_⟩
      exact (Heap.get_alloc_of_lt _ _ _ called).trans waits
    case running =>
      intro ref called isInside
      obtain ⟨before, isInside⟩ := old ref isInside called
      exact holds.staffed.running ref before isInside
    case alone =>
      intro left leftCalled right rightCalled leftInside rightInside
      obtain ⟨leftBefore, leftInside⟩ := old left leftInside leftCalled
      obtain ⟨rightBefore, rightInside⟩ := old right rightInside rightCalled
      exact holds.staffed.alone left leftBefore right rightBefore leftInside rightInside
  case filed => exact ⟨holds.filed.owner, holds.filed.shut⟩
  case prompt => exact holds.prompt

theorem Holds.step {action : Action} (holds : s.Holds) (stepped : s.step action = some after) :
    after.Holds := by
  have traced := traced_step holds.ordered stepped
  cases action with
  | newInstance =>
      cases stepped
      exact holds_newInstance holds
  | caller ref outcome => exact holds_callerStep holds stepped
  | construct id outcome => exact holds_construct holds stepped
  | close id => exact holds.still traced (still_close stepped)
  | closer id => exact holds.still traced (still_closerStep stepped)
  | enter id => exact holds.still traced (still_enter stepped)
  | leave id => exact holds.still traced (still_leave stepped)
  | shutter => exact holds_shutterStep holds stepped
  | sweep id => exact holds.still traced (still_sweepStep stepped)

theorem Holds.initial : initial.Holds where
  ordered := ⟨fun late => (by cases late), fun late => (by cases late), fun late => (by cases late)⟩
  good := fun id inside => absurd inside (Nat.not_lt_zero id)
  staffed :=
    ⟨fun id inside => absurd inside (Nat.not_lt_zero id),
      fun ref called => absurd called (Nat.not_lt_zero ref),
      fun ref called => absurd called (Nat.not_lt_zero ref)⟩
  filed := ⟨fun live => (by cases live), fun late => (by cases late)⟩
  prompt := fun _ member => (by cases member)

theorem Holds.of_reachable (reachable : runtime.Reachable s) : s.Holds := by
  have preserved : ∀ (before : State) (action : Action) (after : State), before.Holds →
      before.step action = some after → after.Holds :=
    fun _ _ _ holds stepped => holds.step stepped
  exact Machine.Reachable.invariant preserved reachable Holds.initial

end State

/-- `Runtime.Close` and every call of `NewInstance` have returned. -/
def State.Over (s : State) : Prop :=
  s.shutter = .returned ∧ ∀ ref < s.callers.size, s.callers.get ref = .returned

instance (s : State) : Decidable s.Over := inferInstanceAs (Decidable (_ ∧ _))

/-- The instance as `ResolveAll` finds it. -/
def Inst.Seen (i : Inst) (inst : Resolve.Instance) : Prop :=
  inst.closed = i.closed ∧ inst.modDead = i.modDead

/-- What is left of a runtime that is over: nothing that is open. -/
structure State.Released (s : State) : Prop where
  modules : ∀ id < s.insts.size, (s.insts.get id).module ≠ .live
  states : s.states = []
  later : ∀ after, runtime.Reaches Machine.always s after → after.states = []
  file : s.file ≠ .live
  resolve : ∀ id < s.insts.size, (s.insts.get id).phase = .returned →
    ∀ (parser : MessageParser) (queries : List Resolve.Query) (before after : Resolve.State)
      (ret : Resolve.Returned), (s.insts.get id).Seen before.inst →
      (Resolve.machine parser queries).Reaches Machine.always (before.resolveAll queries) after →
      after.pc = .returned ret → Resolve.Denied queries ret

namespace State

variable {s after : State} {id : Nat}

/-- An instance that was returned is closed, or its module is. -/
theorem Holds.barred (holds : s.Holds) (shut : s.shutter = .returned)
    (inside : id < s.insts.size) (returned : (s.insts.get id).phase = .returned)
    {inst : Resolve.Instance} (seen : (s.insts.get id).Seen inst) : inst.Barred := by
  have good := holds.good id inside
  have unlisted := good.unlisted (by simp [view, shut, Shutter.rank])
  rcases good.tracked (by rw [view_inst, returned]; rfl) with closed | dead | listed
  · exact .inl (seen.1.trans closed)
  · exact .inr (seen.2.trans dead)
  · exact absurd listed unlisted

/-- When all calls have returned, no instance is under construction. -/
theorem Holds.built (holds : s.Holds) (finished : s.Over) (inside : id < s.insts.size) :
    (s.insts.get id).phase.built = true := by
  by_contra unbuilt
  obtain ⟨ref, called, waits⟩ := holds.staffed.waiting id inside (by simpa using unbuilt)
  rw [finished.2 ref called, Caller.waiting] at waits
  split at waits <;> cases waits

/-- `Runtime.Close` has returned for good. -/
theorem rank_step {action : Action} (returned : 5 ≤ s.shutter.rank)
    (stepped : s.step action = some after) : 5 ≤ after.shutter.rank := by
  cases action with
  | newInstance =>
      cases stepped
      exact returned
  | caller ref outcome =>
      cases (called_of_callerStep stepped).2 <;> exact returned
  | construct id outcome => exact (frame_construct stepped).rank ▸ returned
  | close id => exact (still_close stepped).rank ▸ returned
  | closer id => exact (still_closerStep stepped).rank ▸ returned
  | enter id => exact (still_enter stepped).rank ▸ returned
  | leave id => exact (still_leave stepped).rank ▸ returned
  | shutter =>
      rw [step, shutterStep] at stepped
      cases place : s.shutter with
      | returned => simp [place] at stepped
      | idle | once | take | sweep | file => simp [place, Shutter.rank] at returned
  | sweep id => exact (still_sweepStep stepped).rank ▸ returned

/-- Once `Runtime.Close` has returned, `r.states` stays empty. -/
theorem Holds.later (holds : s.Holds) (shut : s.shutter = .returned)
    (reaches : runtime.Reaches Machine.always s after) : after.states = [] := by
  have preserved : ∀ (before : State) (action : Action) (next : State),
      before.Holds ∧ 5 ≤ before.shutter.rank → Machine.always before action →
      before.step action = some next → next.Holds ∧ 5 ≤ next.shutter.rank :=
    fun _ _ _ held _ stepped => ⟨held.1.step stepped, rank_step held.2 stepped⟩
  have carried := Machine.Reaches.invariant preserved reaches
    ⟨holds, by simp [shut, Shutter.rank]⟩
  exact carried.1.ordered.states (Nat.le_trans (by decide) carried.2)

end State

/-- In every run of a runtime no guest block begins on a module that `closeModule`
has closed; and when `Runtime.Close` and all calls of `NewInstance` have returned,
modules, states and the image file are released and every instance that was
returned is closed. -/
theorem runtime_released {s : State} (reachable : runtime.Reachable s) :
    (∀ start ∈ s.starts, start.late = false) ∧ (s.Over → s.Released) := by
  have holds := State.Holds.of_reachable reachable
  refine ⟨holds.prompt, ?_⟩
  intro finished
  have shut : s.shutter.rank = 5 := by rw [finished.1]; rfl
  constructor
  case modules =>
    intro id inside live
    have built := holds.built finished inside
    have swept : (s.view id).swept := by simp [State.view, shut]
    rcases (holds.good id inside).swept swept live with here | here
    · rw [show (s.insts.get id).phase = .publish from here] at built
      cases built
    · rw [show (s.insts.get id).phase = .discard from here] at built
      cases built
  case states => exact holds.ordered.states (by omega)
  case later => exact fun after reaches => holds.later finished.1 reaches
  case file => exact holds.filed.shut (by omega)
  case resolve =>
    intro id inside returned parser queries before after ret seen reaches ended
    exact Resolve.denied_of_barred (holds.barred finished.1 inside returned seen) reaches ended

/-- The template, a clone that is returned, and a third instance that is being
instantiated while `Runtime.Close` runs. -/
def racingClose : List Action :=
  [.newInstance, .caller 0 .ok, .caller 0 .ok, .caller 0 .ok, .construct 0 .ok, .construct 0 .ok,
    .enter 0, .leave 0, .construct 0 .ok, .construct 0 .ok, .closer 0, .closer 0,
    .construct 0 .ok, .caller 0 .ok, .caller 0 .ok, .caller 0 .ok, .construct 1 .ok,
    .construct 1 .ok, .enter 1, .leave 1, .construct 1 .ok, .caller 0 .ok, .newInstance,
    .caller 1 .ok, .caller 1 .ok, .caller 1 .ok, .caller 1 .ok, .shutter, .shutter, .shutter,
    .sweep 2, .sweep 1, .shutter, .construct 2 .ok, .construct 2 .ok, .construct 2 .ok,
    .construct 2 .ok, .shutter, .caller 1 .ok]

theorem runtime_released_racingClose :
    ∃ s, runtime.Reachable s ∧ s.Over ∧ s.insts.size = 3 ∧ s.starts.length = 2 ∧
      (∀ start ∈ s.starts, start.late = false) ∧ s.Released := by
  obtain ⟨s, ran⟩ : ∃ s, runtime.run .initial racingClose = some s := ⟨_, rfl⟩
  have reachable := Machine.reaches_of_run ran
  have finished : s.Over := by
    cases ran
    decide
  have safe := runtime_released reachable
  refine ⟨s, reachable, finished, ?_, ?_, safe.1, safe.2 finished⟩
  · cases ran
    rfl
  · cases ran
    rfl

end UnboundWasm.Host.Lifecycle
