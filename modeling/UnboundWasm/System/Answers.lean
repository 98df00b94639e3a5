import UnboundWasm.Guest.SlotHeap
import UnboundWasm.System.Batches

/-!
# Questions and answers

`ResolveAll` over the guest, from the names it is given to the results it returns, with the
memory between them.  A name is written to a block of the guest and read back from it by
`resolve_start`, which asks libunbound; what libunbound reports goes through a result slot, the
heap and a buffer of the host.  Guest calls may fail at any time, and allocations too.

Three things are recorded beside the state: what libunbound has been asked, which of its queries
each position of the batch was given, and the log of the slots.
-/

namespace UnboundWasm.System.Answers

open UnboundWasm.Lib UnboundWasm.Host UnboundWasm.Host.Resolve UnboundWasm.Guest
open UnboundWasm.System.Batches (reply record)

/-- The name and the type that `ub_resolve_event` is given. -/
structure Question where
  name : Bytes
  qtype : Nat
  deriving DecidableEq, Repr

/-- The guest, the log of its slots, what libunbound was asked by the numbers of its queries,
and the query of each position of the batch. -/
structure World where
  guest : Slots
  notes : List SlotNote
  questions : Nat → Option Question
  position : Nat → Option Nat

structure State where
  resolve : Resolve.State
  world : World

/-- `alloc` is a call of `alloc` that returns, with the memory it leaves. `enter` and `leave` are
the two ends of `resolve_start`. `callback` and `write` are what the guest does in any call. -/
inductive Action where
  | resolve (action : Resolve.Action)
  | alloc (p : UInt32) (memory : Memory)
  | enter (start : Start)
  | leave
  | callback (completion : Completion)
  | write (memory : Memory)
  | get
  | cancel
  | next (queries : List Query)

/-- A call that returns is answered by the guest, while there is one. -/
def answered (s : Resolve.State) : Resolve.Action → Bool
  | .call (.ok _) =>
      match s.pc with
      | .allocName _ | .callStart _ _ | .allocResult | .poll _ _ | .callCancel _ _ =>
          !s.inst.modDead
      | _ => false
  | _ => false

/-- What the host writes to the block it asks for. -/
def wanted (s : Resolve.State) : Option Bytes :=
  match s.pc with
  | .allocName n => some (s.nameAt n)
  | .allocResult => some (List.replicate resultSize 0)
  | _ => none

/-- The memory after `allocWrite`. -/
def stored (memory : Memory) (p : UInt32) (data : Bytes) : Memory :=
  if p = 0 then memory else (memory.write p.toNat data).getD memory

/-- A step of the guest, with its entry in the log. -/
def World.act (w : World) (action : SlotAction) : Option World :=
  (w.guest.step action).map fun guest =>
    { w with guest := guest, notes := w.notes ++ (w.guest.note action).toList }

namespace State

/-- The guest is in one of its calls, or between two of them; but it does nothing between the
call of `alloc` for a name and its `resolve_start`. -/
def running (s : State) : Bool :=
  match s.resolve.pc with
  | .callStart _ _ => s.world.guest.starting.isSome
  | _ => true

/-- A call of the guest returns to the host. -/
def answer (parser : MessageParser) (s : State) (value : Int) (world : World) : Option State :=
  if s.resolve.inst.modDead then none
  else
    (s.resolve.step parser (.call (reply value world.guest.memory))).map fun resolve =>
      ⟨resolve, world⟩

/-- What `copy_input` and `ub_resolve_event` make of the arguments of `resolve_start`. -/
def question (s : State) (n p : Nat) : Option Question :=
  s.resolve.entries[n]?.bind fun e =>
    (s.world.guest.memory.read p e.name.length).map fun bytes =>
      ⟨cString (copyInput bytes), e.query.type⟩

def alloc (parser : MessageParser) (s : State) (p : UInt32) (memory : Memory) : Option State :=
  if s.resolve.inst.modDead then none
  else
    match wanted s.resolve with
    | none => none
    | some data =>
        match s.resolve.step parser (.call (.ok (p.toNat, memory))),
            s.world.act (.write (stored memory p data)) with
        | some resolve, some world => some ⟨resolve, world⟩
        | _, _ => none

/-- `resolve_start` begins; when it does not call libunbound, it returns at once. -/
def enter (parser : MessageParser) (s : State) (start : Start) : Option State :=
  match s.resolve.pc, s.world.act (.resolveStart start) with
  | .callStart n p, some world =>
      match s.world.guest.refusal start with
      | some value => s.answer parser value world
      | none =>
          some { s with world := { world with
            questions := Function.update world.questions s.world.guest.queries
              (s.question n p) } }
  | _, _ => none

/-- The query of a `resolve_start` that succeeds belongs to the position it was called for. -/
def leave (parser : MessageParser) (s : State) : Option State :=
  match s.resolve.pc, s.world.guest.starting, s.world.act .startReturn with
  | .callStart n _, some starting, some world =>
      s.answer parser starting.value { world with
        position := match starting.result with
          | .ok _ => Function.update world.position n (some starting.query)
          | .error _ => world.position }
  | _, _, _ => none

def get (parser : MessageParser) (s : State) : Option State :=
  match s.resolve.pc with
  | .poll n p =>
      match s.resolve.entries[n]? with
      | none => none
      | some e =>
          match guestResultGet s.world.guest.memory s.world.guest.results e.rid p,
              s.world.act (.resultGet e.rid p) with
          | some (value, _), some world => s.answer parser value world
          | _, _ => none
  | _ => none

def cancel (parser : MessageParser) (s : State) : Option State :=
  match s.resolve.pc with
  | .callCancel n _ =>
      match s.resolve.entries[n]? with
      | none => none
      | some e => (s.world.act (.resolveCancel e.rid)).bind (s.answer parser 0)
  | _ => none

/-- What the guest does in a call, whichever it is. -/
def inside (s : State) (action : SlotAction) : Option State :=
  if s.running then (s.world.act action).map fun world => { s with world := world } else none

/-- One step of host and guest. -/
def step (parser : MessageParser) (s : State) : Action → Option State
  | .resolve action =>
      if answered s.resolve action then none
      else (s.resolve.step parser action).map fun resolve => { s with resolve := resolve }
  | .alloc p memory => s.alloc parser p memory
  | .enter start => s.enter parser start
  | .leave => s.leave parser
  | .callback completion => s.inside (.callback completion)
  | .write memory => s.inside (.write memory)
  | .get => s.get parser
  | .cancel => s.cancel parser
  | .next queries =>
      match s.resolve.pc with
      | .returned _ =>
          some ⟨s.resolve.resolveAll queries, { s.world with position := fun _ => none }⟩
      | _ => none

end State

/-- An instance that starts with this memory, from its first batch on. -/
def answers (parser : MessageParser) (memory : Memory) (queries : List Query) :
    Machine State Action where
  initial := ⟨.initial queries, .initial memory, [], fun _ => none, fun _ => none⟩
  step := State.step parser

/-- What a step of host and guest can be. -/
inductive State.Moved (parser : MessageParser) (s : State) : Action → State → Prop where
  | host {action : Resolve.Action} {resolve : Resolve.State}
      (own : answered s.resolve action = false)
      (stepped : s.resolve.step parser action = some resolve) :
      Moved parser s (.resolve action) { s with resolve := resolve }
  | alloc {p : UInt32} {memory : Memory} {data : Bytes} {resolve : Resolve.State} {world : World}
      (alive : s.resolve.inst.modDead = false) (asked : wanted s.resolve = some data)
      (stepped : s.resolve.step parser (.call (.ok (p.toNat, memory))) = some resolve)
      (written : s.world.act (.write (stored memory p data)) = some world) :
      Moved parser s (.alloc p memory) ⟨resolve, world⟩
  | refused {n p : Nat} {start : Start} {value : Int} {world : World} {after : State}
      (here : s.resolve.pc = .callStart n p) (refused : s.world.guest.refusal start = some value)
      (begun : s.world.act (.resolveStart start) = some world)
      (answered : s.answer parser value world = some after) : Moved parser s (.enter start) after
  | entered {n p : Nat} {start : Start} {world : World} (here : s.resolve.pc = .callStart n p)
      (proceeds : s.world.guest.refusal start = none)
      (begun : s.world.act (.resolveStart start) = some world) :
      Moved parser s (.enter start) { s with world := { world with
        questions := Function.update world.questions s.world.guest.queries (s.question n p) } }
  | left {n p : Nat} {starting : Starting} {world : World} {after : State}
      (here : s.resolve.pc = .callStart n p) (inside : s.world.guest.starting = some starting)
      (returned : s.world.act .startReturn = some world)
      (answered : s.answer parser starting.value { world with
        position := match starting.result with
          | .ok _ => Function.update world.position n (some starting.query)
          | .error _ => world.position } = some after) :
      Moved parser s .leave after
  | callback {completion : Completion} {world : World} (running : s.running = true)
      (called : s.world.act (.callback completion) = some world) :
      Moved parser s (.callback completion) { s with world := world }
  | write {memory : Memory} {world : World} (running : s.running = true)
      (written : s.world.act (.write memory) = some world) :
      Moved parser s (.write memory) { s with world := world }
  | got {n p : Nat} {e : Entry} {value : Int} {memory : Memory} {world : World} {after : State}
      (here : s.resolve.pc = .poll n p) (present : s.resolve.entries[n]? = some e)
      (got : guestResultGet s.world.guest.memory s.world.guest.results e.rid p =
        some (value, memory))
      (moved : s.world.act (.resultGet e.rid p) = some world)
      (answered : s.answer parser value world = some after) : Moved parser s .get after
  | cancelled {n : Nat} {ret : Returned} {e : Entry} {world : World} {after : State}
      (here : s.resolve.pc = .callCancel n ret) (present : s.resolve.entries[n]? = some e)
      (moved : s.world.act (.resolveCancel e.rid) = some world)
      (answered : s.answer parser 0 world = some after) : Moved parser s .cancel after
  | next {ret : Returned} (queries : List Query) (here : s.resolve.pc = .returned ret) :
      Moved parser s (.next queries)
        ⟨s.resolve.resolveAll queries, { s.world with position := fun _ => none }⟩

namespace State

variable {parser : MessageParser} {s after : State}

theorem moved_of_alloc {p : UInt32} {memory : Memory}
    (stepped : s.alloc parser p memory = some after) : Moved parser s (.alloc p memory) after := by
  unfold alloc at stepped
  split at stepped
  · cases stepped
  next alive =>
    split at stepped
    · cases stepped
    next data asked =>
      split at stepped
      next hosted written =>
        cases stepped
        exact .alloc (by simpa using alive) asked hosted written
      · cases stepped

theorem moved_of_enter {start : Start} (stepped : s.enter parser start = some after) :
    Moved parser s (.enter start) after := by
  unfold enter at stepped
  split at stepped
  next here begun =>
    split at stepped
    next refused => exact .refused here refused begun stepped
    next proceeds =>
      cases stepped
      exact .entered here proceeds begun
  · cases stepped

theorem moved_of_leave (stepped : s.leave parser = some after) : Moved parser s .leave after := by
  unfold leave at stepped
  split at stepped
  next here inside returned => exact .left here inside returned stepped
  · cases stepped

theorem moved_of_get (stepped : s.get parser = some after) : Moved parser s .get after := by
  unfold get at stepped
  split at stepped
  next here =>
    split at stepped
    · cases stepped
    next present =>
      split at stepped
      next got moved => exact .got here present got moved stepped
      · cases stepped
  · cases stepped

theorem moved_of_cancel (stepped : s.cancel parser = some after) :
    Moved parser s .cancel after := by
  unfold cancel at stepped
  split at stepped
  next here =>
    split at stepped
    · cases stepped
    next present =>
      obtain ⟨world, moved, answered⟩ := Option.bind_eq_some_iff.mp stepped
      exact .cancelled here present moved answered
  · cases stepped

theorem eq_of_answer {value : Int} {world : World}
    (answered : s.answer parser value world = some after) :
    s.resolve.inst.modDead = false ∧ after.world = world ∧
      s.resolve.step parser (.call (reply value world.guest.memory)) = some after.resolve := by
  unfold answer at answered
  split at answered
  · cases answered
  next alive =>
    obtain ⟨resolve, stepped, rfl⟩ := Option.map_eq_some_iff.mp answered
    exact ⟨by simpa using alive, rfl, stepped⟩

theorem eq_of_inside {action : SlotAction} (stepped : s.inside action = some after) :
    s.running = true ∧ ∃ world, s.world.act action = some world ∧
      after = { s with world := world } := by
  unfold inside at stepped
  split at stepped
  next running =>
    obtain ⟨world, moved, rfl⟩ := Option.map_eq_some_iff.mp stepped
    exact ⟨running, world, moved, rfl⟩
  · cases stepped

theorem moved_of_step {action : Action} (stepped : s.step parser action = some after) :
    Moved parser s action after := by
  cases action with
  | resolve action =>
      simp only [step] at stepped
      split at stepped
      · cases stepped
      next own =>
        obtain ⟨resolve, hosted, rfl⟩ := Option.map_eq_some_iff.mp stepped
        exact .host (by simpa using own) hosted
  | alloc p memory => exact moved_of_alloc stepped
  | enter start => exact moved_of_enter stepped
  | leave => exact moved_of_leave stepped
  | callback completion =>
      obtain ⟨running, world, moved, rfl⟩ := eq_of_inside stepped
      exact .callback running moved
  | write memory =>
      obtain ⟨running, world, moved, rfl⟩ := eq_of_inside stepped
      exact .write running moved
  | get => exact moved_of_get stepped
  | cancel => exact moved_of_cancel stepped
  | next queries =>
      simp only [step] at stepped
      split at stepped
      next here =>
        cases stepped
        exact .next queries here
      · cases stepped

end State

/-! ## What the host does on its own -/

/-- An error that tells what a query came to. -/
def reported : Error → Bool
  | .bogus _ _ | .response _ _ => true
  | .errClosed | .new _ | .errno _ _ | .wrap _ _ | .foreign _ => false

/-- Where a batch stands: in its first loop at a position, before and after its block is
allocated, and after its `resolve_start`; between the loops; polling, with a buffer; and past the
point where a result may be added. -/
inductive Stage where
  | loading (n : Nat)
  | naming (n : Nat)
  | asking (n p : Nat)
  | asked (n : Nat) (out : Except Error Int)
  | waiting
  | polling (p : Nat)
  | ended

def stage : Pc → Stage
  | .entry => .loading 0
  | .start n => .loading n
  | .allocName n => .naming n
  | .callStart n p => .asking n p
  | .freeName n _ out => .asked n out
  | .allocResult => .waiting
  | .poll _ p | .select p | .dispatch p _ => .polling p
  | .closing _ _ _ | .free _ _ | .cancel _ _ | .callCancel _ _ | .returned _ => .ended

/-- The errors that the host may yet report for what has not settled tell of no query. -/
structure Plain (s : Resolve.State) : Prop where
  closing : ∀ stage err p, s.pc = .closing stage err p → reported err = false
  cause : ∀ err, s.inst.cause = some err → reported err = false

/-- A step of the host to which the guest does not contribute. -/
inductive Hosted : Stage → List Entry → Stage → List Entry → Prop where
  | stay (here : Stage) (entries : List Entry) : Hosted here entries here entries
  | reject {n : Nat} {e : Entry} {err : Error} {entries : List Entry}
      (present : entries[n]? = some e) (rejected : normalizeName e.query.name = .error err) :
      Hosted (.loading n) entries (.loading (n + 1))
        (entries.modify n fun e => { e with err := some err })
  | name {n : Nat} {e : Entry} {name : Bytes} {entries : List Entry}
      (present : entries[n]? = some e) (accepted : normalizeName e.query.name = .ok name) :
      Hosted (.loading n) entries (.naming n) (entries.modify n fun e => { e with name := name })
  | recorded (n : Nat) (rid : Int) (entries : List Entry) :
      Hosted (.asked n (.ok rid)) entries (.loading (n + 1)) (entries.modify n (record rid))
  | trapped (n p : Nat) (err : Error) (entries : List Entry) :
      Hosted (.asking n p) entries (.asked n (.error err)) entries
  | loaded (n : Nat) (entries : List Entry) : Hosted (.loading n) entries .waiting entries
  | ended (here : Stage) (entries : List Entry) : Hosted here entries .ended entries
  | fail (here : Stage) {err : Error} (entries : List Entry) (plain : reported err = false) :
      Hosted here entries .ended (entries.map (Entry.fail err))

section

variable {parser : MessageParser} {s after : Resolve.State}

theorem hosted_startNext (s : Resolve.State) (n : Nat) :
    Hosted (.loading n) s.entries (stage (s.startNext n).pc) (s.startNext n).entries := by
  unfold Resolve.State.startNext
  split
  · split
    · exact .ended _ _
    · exact .loaded _ _
  next e present =>
    split
    next rejected => exact .reject present rejected
    next accepted => exact .name present accepted

theorem hosted_started (s : Resolve.State) (n : Nat) (out : Except Error Int) :
    Hosted (.asked n out) s.entries (stage (s.started n out).pc) (s.started n out).entries := by
  cases out with
  | error err => exact .ended _ _
  | ok rid =>
      have recorded := Hosted.recorded n rid s.entries
      simp only [Resolve.State.started]
      split
      next negative =>
        have same : record rid = fun e =>
            { e with err := some (Batches.startFailure (-rid)) } := by
          funext e
          exact if_pos negative
        rw [same] at recorded
        exact recorded
      next positive =>
        have same : record rid = fun e => { e with rid := rid } := by
          funext e
          exact if_neg positive
        rw [same] at recorded
        exact recorded

/-- An allocation that does not return. -/
theorem reported_allocWrite {modDead : Bool} {call : Call} {data : Bytes} {err : Error}
    (failed : allocWrite modDead call data = .error err) : reported err = false := by
  unfold allocWrite Host.guest at failed
  split at failed
  · cases failed
    rfl
  split at failed
  · cases failed
    rfl
  · dsimp only at failed
    split at failed
    · cases failed
      rfl
    · split at failed <;> cases failed
      rfl

/-- The guest is asked by one of the calls it answers. -/
def asks : Pc → Bool
  | .allocName _ | .callStart _ _ | .allocResult | .poll _ _ | .callCancel _ _ => true
  | _ => false

/-- A call that the guest does not answer fails. -/
theorem failed_of_unanswered {call : Call} (own : answered s (.call call) = false)
    (asking : asks s.pc = true) : s.inst.modDead = true ∨ ∃ err, call = .error err := by
  cases call with
  | error err => exact .inr ⟨err, rfl⟩
  | ok returned =>
      left
      unfold answered at own
      dsimp only at own
      split at own
      case h_6 => simp_all [asks]
      all_goals simpa using own

theorem refused_of_unanswered {call : Call} (own : answered s (.call call) = false)
    (asking : asks s.pc = true) (data : Bytes) :
    ∃ err, allocWrite s.inst.modDead call data = .error err := by
  rcases failed_of_unanswered own asking with dead | ⟨err, rfl⟩
  · exact ⟨_, if_pos dead⟩
  · rw [allocWrite, Host.guest]
    split <;> exact ⟨_, rfl⟩

theorem trapped_of_unanswered {call : Call} (own : answered s (.call call) = false)
    (asking : asks s.pc = true) : ∃ err, Resolve.call s.inst.modDead call = .error err := by
  rcases failed_of_unanswered own asking with dead | ⟨err, rfl⟩
  · exact ⟨_, by rw [Resolve.call, Host.guest, if_pos dead]⟩
  · rw [Resolve.call, asInt32, Host.guest]
    split <;> exact ⟨_, rfl⟩

theorem fatal_of_unanswered {call : Call} (own : answered s (.call call) = false)
    (asking : asks s.pc = true) (parser : MessageParser) (p : Nat) (qname : Bytes) (qtype : Nat) :
    ∃ err, pollResult parser s.inst.modDead (asInt32 call) p qname qtype = .fatal err := by
  rcases failed_of_unanswered own asking with dead | ⟨err, rfl⟩
  · exact ⟨_, by rw [pollResult, Host.guest, if_pos dead]⟩
  · rw [asInt32, pollResult, fetchResult, Host.guest]
    split
    next refused => split at refused <;> exact ⟨_, rfl⟩
    next passed => split at passed <;> cases passed

theorem hosted_of_ran {action : Resolve.Action} (ran : Resolve.State.Ran parser s action after)
    (own : answered s action = false) (plain : Plain s) :
    Hosted (stage s.pc) s.entries (stage after.pc) after.entries := by
  cases ran with
  | enter here =>
      rw [here]
      unfold Resolve.State.enter
      split
      · split
        · exact .ended _ _
        · exact .fail _ _ rfl
      · exact .stay _ _
  | startNext here =>
      rw [here]
      exact hosted_startNext s _
  | nameRefused here _ refused | resultRefused here _ refused =>
      rw [here]
      exact .fail _ _ (reported_allocWrite refused)
  | allocName here _ allocated | allocResult here _ allocated =>
      obtain ⟨err, refused⟩ := refused_of_unanswered own (by simp [here, asks]) _
      rw [refused] at allocated
      cases allocated
  | callStart here =>
      obtain ⟨err, trapped⟩ := trapped_of_unanswered own (by simp [here, asks])
      rw [here, trapped]
      exact .trapped _ _ err _
  | @freeName n p out _ failed here =>
      rw [here]
      exact hosted_started { s with failed := failed } n out
  | @pollCall n p e _ _ here =>
      obtain ⟨err, fatal⟩ := fatal_of_unanswered own (by simp [here, asks]) parser p e.name
        e.query.type
      rw [here, fatal]
      exact .ended _ _
  | pollEnd here | ctxDone here | doneFailed here | dispatchFailed here =>
      rw [here]
      exact .ended _ _
  | pollWait here | pollSkip here | event here | dispatch here | free here | callCancel here =>
      rw [here]
      exact .stay _ _
  | done here | eventsClosed here =>
      rw [here]
      exact .fail _ _ rfl
  | @closing stage err p _ here closing =>
      rw [here]
      cases closing with
      | goesOn => exact .stay _ _
      | ends => exact .fail _ _ (plain.closing stage err p here)
  | @cancelNext n ret here =>
      rw [here]
      unfold Resolve.State.cancelNext
      split
      · exact .stay _ _
      · split <;> exact .stay _ _

theorem hosted_of_step {action : Resolve.Action} (stepped : s.step parser action = some after)
    (own : answered s action = false) (plain : Plain s) :
    Hosted (stage s.pc) s.entries (stage after.pc) after.entries := by
  cases action with
  | interfere what =>
      obtain ⟨-, inst, other, sweep, failing, rfl⟩ := Resolve.State.interfere_eq stepped
      exact .stay _ _
  | step | call | ctxDone | done | event | eventsClosed =>
      exact hosted_of_ran (Resolve.State.ran_of_resolveStep stepped) own plain

/-! ## Errors that tell of no query -/

/-- The errors that other goroutines and the context bring in tell of no query. -/
def Unreported : Resolve.Action → Prop
  | .ctxDone err | .interfere (.fail err) => reported err = false
  | .step | .call _ | .done | .event _ | .eventsClosed | .interfere .close | .interfere .sweep
  | .interfere .failed => True

theorem reported_fatal {modDead : Bool} {call : Except Error (Int × Memory)} {p : Nat}
    {qname : Bytes} {qtype : Nat} {err : Error}
    (fatal : pollResult parser modDead call p qname qtype = .fatal err) :
    reported err = false := by
  have buffer {memory : Memory} {ptr count : Nat} {err : Error}
      (failed : readBuffer memory ptr count = .error err) : reported err = false := by
    unfold readBuffer at failed
    split at failed
    · cases failed
    split at failed
    · cases failed
      rfl
    · split at failed <;> cases failed
      rfl
  have read {memory : Memory} {err : Error} (failed : readResult memory p = .error err) :
      reported err = false := by
    unfold readResult at failed
    split at failed
    · cases failed
      rfl
    · dsimp only at failed
      split at failed
      next why =>
        cases failed
        exact buffer why
      · split at failed
        next packet =>
          cases failed
          exact buffer packet
        · cases failed
  unfold pollResult at fatal
  split at fatal
  next failed =>
    cases fatal
    unfold Host.guest fetchResult at failed
    split at failed
    · cases failed
      rfl
    split at failed
    · cases failed
      rfl
    · split at failed
      · cases failed
      · split at failed
        next unreadable =>
          cases failed
          exact read unreadable
        · cases failed
  · split at fatal
    · cases fatal
    split at fatal
    · cases fatal
    · unfold settle at fatal
      dsimp only at fatal
      split at fatal
      · cases fatal
      split at fatal
      · cases fatal
      split at fatal
      · split at fatal <;> cases fatal
      · cases fatal

theorem cause_of_moved {i next : Instance} {stage : CloseStage} {more : Option CloseStage}
    (moved : stage.Moved i next more) : next.cause = i.cause ∨ next.cause = none := by
  cases moved with
  | begins => exact .inr rfl
  | again | first | passes | tornDown | dead => exact .inl rfl

/-- Where a cause comes from. -/
theorem cause_of_step {action : Resolve.Action} (stepped : s.step parser action = some after) :
    (after.inst.cause = s.inst.cause ∨ after.inst.cause = none) ∨
      ∃ err, action = .interfere (.fail err) ∧ after.inst.cause = some err := by
  cases action with
  | interfere what =>
      cases Resolve.State.interfered_of_step stepped with
      | close moved | sweep moved => exact .inl (cause_of_moved moved)
      | fail err => exact .inr ⟨err, rfl, rfl⟩
      | failed => exact .inl (.inl rfl)
  | step | call | ctxDone | done | event | eventsClosed =>
      rcases Resolve.State.own_of_ran (Resolve.State.ran_of_resolveStep stepped) with
        ⟨⟨_, _, _, _, rfl, _⟩, _⟩ | ⟨stage, err, p, _, _, closing⟩
      · exact .inl (.inl rfl)
      · cases closing with
        | goesOn moved | ends moved => exact .inl (cause_of_moved moved)

/-- A close that the host begins is for an error that tells of no query. -/
theorem closing_of_ran {action : Resolve.Action} (ran : Resolve.State.Ran parser s action after)
    (plain : Plain s) (unreported : Unreported action) {stage : CloseStage} {err : Error} {p : Nat}
    (here : after.pc = .closing stage err p) : reported err = false := by
  cases ran with
  | enter =>
      unfold Resolve.State.enter at here
      split at here
      · split at here <;> cases here
      · cases here
  | startNext =>
      unfold Resolve.State.startNext at here
      split at here
      · split at here <;> cases here
      · split at here <;> cases here
  | nameRefused | allocName | callStart | resultRefused | allocResult | pollEnd | pollWait
  | pollSkip | done | event | eventsClosed | dispatch | free | callCancel => cases here
  | freeName =>
      unfold Resolve.State.started at here
      split at here
      · cases here
        rfl
      · split at here <;> cases here
  | pollCall =>
      unfold Resolve.State.polled at here
      split at here
      next fatal =>
        cases here
        exact reported_fatal fatal
      all_goals cases here
  | ctxDone =>
      cases here
      exact unreported
  | doneFailed before cause =>
      cases here
      exact plain.cause _ cause
  | dispatchFailed =>
      cases here
      rfl
  | closing before closing =>
      cases closing with
      | goesOn =>
          cases here
          exact plain.closing _ _ _ before
      | ends => cases here
  | cancelNext =>
      unfold Resolve.State.cancelNext at here
      split at here
      · cases here
      · split at here <;> cases here

theorem Plain.step {action : Resolve.Action} (plain : Plain s)
    (stepped : s.step parser action = some after) (unreported : Unreported action) :
    Plain after := by
  constructor
  case closing =>
    intro stage err p here
    cases action with
    | interfere what =>
        obtain ⟨-, inst, other, sweep, failing, rfl⟩ := Resolve.State.interfere_eq stepped
        exact plain.closing stage err p here
    | step | call | ctxDone | done | event | eventsClosed =>
        exact closing_of_ran (Resolve.State.ran_of_resolveStep stepped) plain unreported here
  case cause =>
    intro err found
    rcases cause_of_step stepped with (kept | gone) | ⟨cause, rfl, set⟩
    · exact plain.cause err (kept ▸ found)
    · simp [gone] at found
    · rw [set] at found
      cases found
      exact unreported

end

end UnboundWasm.System.Answers
