import UnboundWasm.Host.Resolve.Leaving
import UnboundWasm.Guest.Attribution

/-!
# Batches and result slots

`ResolveAll` over the slots of the guest, batch after batch on one instance.  The slot
functions of the guest answer the calls of the host; the rest of what a guest call may
do is left open, except that an allocation does not fail.  What the host does with its
slots is a matter of a few phases, and what a call of the guest does to them is whether
it leaves the same ones in use.
-/

namespace UnboundWasm.System.Batches

open UnboundWasm.Lib UnboundWasm.Host UnboundWasm.Host.Resolve UnboundWasm.Guest

/-- `asked` records what `resolve_start` met with for each position of the batch. -/
structure State where
  resolve : Resolve.State
  guest : Slots
  asked : Nat → Option Start

/-- `start`, `get` and `cancel` are the calls of `resolve_start`, `result_get` and
`resolve_cancel`. Callbacks also come with the delivery of an event. -/
inductive Action where
  | resolve (action : Resolve.Action)
  | callback (completion : Completion)
  | write (memory : Memory)
  | start (start : Start) (during : List Completion)
  | get
  | cancel
  | next (queries : List Query)

/-- A return value of a guest call, with the memory it leaves. -/
def reply (value : Int) (memory : Memory) : Call := .ok ((value % 2 ^ 32).toNat, memory)

/-- The calls that are not of a slot function: an allocation does not fail while the
module is alive. -/
def permits (s : Resolve.State) : Resolve.Action → Bool
  | .call answer =>
      match s.pc with
      | .callStart _ _ | .poll _ _ | .callCancel _ _ => s.inst.modDead
      | .allocName n => s.inst.modDead || (allocWrite false answer (s.nameAt n)).isOk
      | .allocResult =>
          s.inst.modDead || (allocWrite false answer (List.replicate resultSize 0)).isOk
      | _ => true
  | _ => true

namespace State

/-- `resolve_start` is called. -/
def start (parser : MessageParser) (s : State) (start : Start) (during : List Completion) :
    Option State :=
  match s.resolve.pc, s.guest.start start during with
  | .callStart n _, some (value, guest) =>
      if s.resolve.inst.modDead then none
      else
        (s.resolve.step parser (.call (reply value guest.memory))).map fun resolve =>
          ⟨resolve, guest, Function.update s.asked n (some start)⟩
  | _, _ => none

/-- `result_get` is called. -/
def get (parser : MessageParser) (s : State) : Option State :=
  match s.resolve.pc with
  | .poll n p =>
      match s.resolve.entries[n]? with
      | none => none
      | some e =>
          match guestResultGet s.guest.memory s.guest.results e.rid p,
              s.guest.step (.resultGet e.rid p) with
          | some (value, memory), some guest =>
              if s.resolve.inst.modDead then none
              else
                (s.resolve.step parser (.call (reply value memory))).map fun resolve =>
                  { s with resolve := resolve, guest := guest }
          | _, _ => none
  | _ => none

/-- `resolve_cancel` is called. -/
def cancel (parser : MessageParser) (s : State) : Option State :=
  match s.resolve.pc with
  | .callCancel n _ =>
      match s.resolve.entries[n]? with
      | none => none
      | some e =>
          match s.guest.step (.resolveCancel e.rid) with
          | none => none
          | some guest =>
              if s.resolve.inst.modDead then none
              else
                (s.resolve.step parser (.call (reply 0 guest.memory))).map fun resolve =>
                  { s with resolve := resolve, guest := guest }
  | _ => none

/-- One step of host and guest. -/
def step (parser : MessageParser) (s : State) : Action → Option State
  | .resolve action =>
      if permits s.resolve action then
        (s.resolve.step parser action).map fun resolve => { s with resolve := resolve }
      else none
  | .callback completion =>
      (s.guest.step (.callback completion)).map fun guest => { s with guest := guest }
  | .write memory => (s.guest.step (.write memory)).map fun guest => { s with guest := guest }
  | .start start during => s.start parser start during
  | .get => s.get parser
  | .cancel => s.cancel parser
  | .next queries =>
      match s.resolve.pc with
      | .returned _ =>
          some { s with resolve := s.resolve.resolveAll queries, asked := fun _ => none }
      | _ => none

end State

/-- What a step of host and guest can be. -/
inductive State.Moved (parser : MessageParser) (s : State) : State → Prop where
  | resolve {action : Resolve.Action} {resolve : Resolve.State}
      (permitted : permits s.resolve action = true)
      (stepped : s.resolve.step parser action = some resolve) :
      Moved parser s { s with resolve := resolve }
  | callback {completion : Completion} {guest : Slots}
      (moved : s.guest.step (.callback completion) = some guest) :
      Moved parser s { s with guest := guest }
  | write {memory : Memory} {guest : Slots}
      (moved : s.guest.step (.write memory) = some guest) :
      Moved parser s { s with guest := guest }
  | start {n p : Nat} {start : Start} {during : List Completion} {value : Int} {guest : Slots}
      {resolve : Resolve.State} (here : s.resolve.pc = .callStart n p)
      (alive : s.resolve.inst.modDead = false)
      (called : s.guest.start start during = some (value, guest))
      (answered : s.resolve.step parser (.call (reply value guest.memory)) = some resolve) :
      Moved parser s ⟨resolve, guest, Function.update s.asked n (some start)⟩
  | get {n p : Nat} {e : Entry} {value : Int} {memory : Memory} {guest : Slots}
      {resolve : Resolve.State} (here : s.resolve.pc = .poll n p)
      (moved : s.guest.step (.resultGet e.rid p) = some guest)
      (answered : s.resolve.step parser (.call (reply value memory)) = some resolve) :
      Moved parser s { s with resolve := resolve, guest := guest }
  | cancel {n : Nat} {ret : Returned} {e : Entry} {guest : Slots} {resolve : Resolve.State}
      (here : s.resolve.pc = .callCancel n ret) (present : s.resolve.entries[n]? = some e)
      (moved : s.guest.step (.resolveCancel e.rid) = some guest)
      (answered : s.resolve.step parser (.call (reply 0 guest.memory)) = some resolve) :
      Moved parser s { s with resolve := resolve, guest := guest }
  | next {ret : Returned} (queries : List Query) (here : s.resolve.pc = .returned ret) :
      Moved parser s { s with resolve := s.resolve.resolveAll queries, asked := fun _ => none }

namespace State

variable {parser : MessageParser} {s after : State}

theorem moved_of_start {start : Start} {during : List Completion}
    (stepped : s.start parser start during = some after) : Moved parser s after := by
  unfold State.start at stepped
  split at stepped
  next n p value guest here called =>
    split at stepped
    · cases stepped
    next alive =>
      obtain ⟨resolve, answered, rfl⟩ := Option.map_eq_some_iff.mp stepped
      exact .start here (by simpa using alive) called answered
  · cases stepped

theorem moved_of_get (stepped : s.get parser = some after) : Moved parser s after := by
  unfold State.get at stepped
  split at stepped
  next n p here =>
    split at stepped
    · cases stepped
    next e present =>
      split at stepped
      next value memory guest got moved =>
        split at stepped
        · cases stepped
        · obtain ⟨resolve, answered, rfl⟩ := Option.map_eq_some_iff.mp stepped
          exact .get here moved answered
      · cases stepped
  · cases stepped

theorem moved_of_cancel (stepped : s.cancel parser = some after) : Moved parser s after := by
  unfold State.cancel at stepped
  split at stepped
  next n ret here =>
    split at stepped
    · cases stepped
    next e present =>
      split at stepped
      · cases stepped
      next guest moved =>
        split at stepped
        · cases stepped
        · obtain ⟨resolve, answered, rfl⟩ := Option.map_eq_some_iff.mp stepped
          exact .cancel here present moved answered
  · cases stepped

theorem moved_of_step {action : Action} (stepped : s.step parser action = some after) :
    Moved parser s after := by
  cases action with
  | resolve action =>
      simp only [State.step] at stepped
      split at stepped
      next permitted =>
        obtain ⟨resolve, answered, rfl⟩ := Option.map_eq_some_iff.mp stepped
        exact .resolve permitted answered
      · cases stepped
  | callback completion =>
      obtain ⟨guest, moved, rfl⟩ := Option.map_eq_some_iff.mp stepped
      exact .callback moved
  | write memory =>
      obtain ⟨guest, moved, rfl⟩ := Option.map_eq_some_iff.mp stepped
      exact .write moved
  | start start during => exact moved_of_start stepped
  | get => exact moved_of_get stepped
  | cancel => exact moved_of_cancel stepped
  | next queries =>
      simp only [State.step] at stepped
      split at stepped
      next ret here =>
        cases stepped
        exact .next queries here
      · cases stepped

end State

/-- An instance that starts with this memory, from its first batch on. -/
def batches (parser : MessageParser) (memory : Memory) (queries : List Query) :
    Machine State Action where
  initial := ⟨.initial queries, .initial memory, fun _ => none⟩
  step := State.step parser

/-! ## What the guest does to its slots -/

/-- The same slots are in use. -/
structure Alike (g after : Slots) : Prop where
  starting : after.starting = g.starting
  used : ∀ slot, (after.results slot).used = (g.results slot).used

theorem Alike.refl (g : Slots) : Alike g g := ⟨rfl, fun _ => rfl⟩

theorem Alike.trans {g middle after : Slots} (first : Alike g middle)
    (second : Alike middle after) : Alike g after :=
  ⟨second.starting.trans first.starting, fun slot => (second.used slot).trans (first.used slot)⟩

theorem alike_of_callback {g after : Slots} {completion : Completion}
    (called : g.callback completion = some after) : Alike g after := by
  unfold Slots.callback at called
  split at called
  · cases called
  next live found =>
    split at called
    · cases called
    next memory value written =>
      cases called
      refine ⟨rfl, ?_⟩
      intro slot
      by_cases same : slot = live.slot
      · subst same
        simpa [Slots.set] using resultCb_used written
      · simp [Slots.set, same]

theorem alike_of_callbacks {g after : Slots} {during : List Completion}
    (called : during.foldlM Slots.callback g = some after) : Alike g after := by
  induction during generalizing g with
  | nil =>
      cases called
      exact .refl _
  | cons completion during ih =>
      obtain ⟨middle, first, rest⟩ := Option.bind_eq_some_iff.mp called
      exact (alike_of_callback first).trans (ih rest)

/-- The errno `resolve_start` fails with, if it fails, when the slots are all in use or
are not. -/
def startErr (full : Bool) (start : Start) : Option Int :=
  match start.ctxErr with
  | some err => some (ubErrno err)
  | none =>
      if start.copied then
        if full then some enospc
        else
          match start.result with
          | .error err => some (ubErrno err)
          | .ok _ => none
      else some enomem

theorem ubErrno_bounds (err : UbError) : 0 < ubErrno err ∧ ubErrno err ≤ enospc := by
  cases err <;> decide

theorem startErr_bounds {full : Bool} {start : Start} {err : Int}
    (failed : startErr full start = some err) : 0 < err ∧ err ≤ enospc := by
  unfold startErr at failed
  split at failed
  · cases failed
    exact ubErrno_bounds _
  split at failed
  · split at failed
    · cases failed
      decide
    split at failed
    · cases failed
      exact ubErrno_bounds _
    · cases failed
  · cases failed
    decide

/-- What a call of `resolve_start` comes to. -/
inductive Started (g : Slots) (start : Start) : Int → Slots → Prop where
  | failed {err : Int} {after : Slots} (why : startErr (freeSlot g.results).isNone start = some err)
      (alike : Alike g after) : Started g start (-err) after
  | accepted {slot : Nat} {after : Slots} (free : freeSlot g.results = some slot)
      (why : startErr false start = none) (idle : after.starting = none)
      (used : ∀ other, (after.results other).used = true ↔
        other = slot ∨ (g.results other).used = true) : Started g start (slot + 1) after

theorem refusal_eq (g : Slots) (start : Start) {value : Int}
    (refused : g.refusal start = some value) :
    ∃ err, startErr (freeSlot g.results).isNone start = some err ∧ value = -err := by
  cases ready : start.ctxErr with
  | some err =>
      simp only [Slots.refusal, ready, Option.some.injEq] at refused
      exact ⟨ubErrno err, by simp [startErr, ready], refused.symm⟩
  | none =>
      cases copied : start.copied with
      | false =>
          simp only [Slots.refusal, ready, copied] at refused
          exact ⟨enomem, by simp [startErr, ready, copied], by simpa using refused.symm⟩
      | true =>
          cases free : freeSlot g.results with
          | none =>
              simp only [Slots.refusal, ready, copied, free] at refused
              exact ⟨enospc, by simp [startErr, ready, copied], by simpa using refused.symm⟩
          | some slot => simp [Slots.refusal, ready, copied, free] at refused

theorem startErr_of_proceeding {g : Slots} {start : Start} (proceeds : g.refusal start = none) :
    startErr false start =
      match start.result with
      | .error err => some (ubErrno err)
      | .ok _ => none := by
  cases ready : start.ctxErr with
  | some err => simp [Slots.refusal, ready] at proceeds
  | none =>
      cases copied : start.copied with
      | false => simp [Slots.refusal, ready, copied] at proceeds
      | true => simp [startErr, ready, copied]

theorem started_of_start {g after : Slots} {start : Start} {during : List Completion} {value : Int}
    (idle : g.starting = none) (called : g.start start during = some (value, after)) :
    Started g start value after := by
  unfold Slots.start at called
  split at called
  next refused =>
    obtain ⟨middle, stepped, same⟩ := Option.map_eq_some_iff.mp called
    cases same
    obtain ⟨err, why, rfl⟩ := refusal_eq g start refused
    apply Started.failed why
    cases Slots.moved_of_step stepped with
    | refused => exact ⟨rfl, fun _ => rfl⟩
    | rejected _ proceeds => simp [refused] at proceeds
    | accepted _ proceeds => simp [refused] at proceeds
  next proceeds =>
    split at called
    · cases called
    next inside ran =>
      obtain ⟨starting, here, same⟩ := Option.map_eq_some_iff.mp called
      cases same
      obtain ⟨middle, begun, callbacks⟩ := Option.bind_eq_some_iff.mp ran
      have alike := alike_of_callbacks callbacks
      have why := startErr_of_proceeding proceeds
      rw [alike.starting] at here
      cases Slots.moved_of_step begun with
      | refused _ refused => simp [refused] at proceeds
      | @rejected _ slot err _ _ free failed =>
          cases here
          rw [failed] at why
          apply Started.failed (by rw [free]; exact why)
          refine ⟨idle.symm, ?_⟩
          intro other
          have unused := Slots.unused_of_freeSlot free
          by_cases same : other = slot
          · subst same
            simpa [Slots.startReturn, Slots.set, clearResult] using unused.symm
          · have kept := alike.used other
            simpa [Slots.startReturn, Slots.set, same] using kept
      | @accepted _ slot id _ _ free ok =>
          cases here
          rw [ok] at why
          refine Started.accepted free why rfl ?_
          intro other
          have kept := alike.used other
          by_cases same : other = slot
          · subst same
            simpa [Slots.startReturn, Slots.set] using kept
          · simp only [Slots.set, Function.update_of_ne same] at kept
            simp [Slots.startReturn, Slots.set, same, kept]

/-! ## What the host does with its slots -/

/-- Where a batch stands with its slots: at a position of the first loop, before and
after its name is accepted and after its `resolve_start`; past the loop; and at a
position of the deferred loop, or past it. -/
inductive Phase where
  | loading (n : Nat)
  | named (n : Nat)
  | loaded (n : Nat) (rid : Int)
  | broken
  | running
  | releasing (n : Nat)
  | released

def phase : Pc → Phase
  | .entry => .loading 0
  | .start n => .loading n
  | .allocName n | .callStart n _ => .named n
  | .freeName n _ (.ok rid) => .loaded n rid
  | .freeName _ _ (.error _) => .broken
  | .allocResult | .poll _ _ | .select _ | .dispatch _ _ | .closing _ _ _ | .free _ _ => .running
  | .cancel n _ | .callCancel n _ => .releasing n
  | .returned _ => .released

/-- The error of a query that `resolve_start` failed for. -/
def startFailure (err : Int) : Error := .errno "unbound: resolve_start failed: wasi errno" err

/-- The position after its `resolve_start`. -/
def record (rid : Int) (e : Entry) : Entry :=
  if rid < 0 then { e with err := some (startFailure (-rid)) } else { e with rid := rid }

/-- Only positions that had not settled settle. -/
def Settles (entries after : List Entry) : Prop :=
  List.Forall₂ (fun e e' => e'.query = e.query ∧ e'.rid = e.rid ∧
    (e.unsettled = false → e'.err = e.err)) entries after

/-- A step of the host that calls no slot function. -/
inductive Advance : Phase → List Entry → Phase → List Entry → Prop where
  | stay (at' : Phase) (entries : List Entry) : Advance at' entries at' entries
  | reject {n : Nat} {e : Entry} {err : Error} {entries : List Entry}
      (present : entries[n]? = some e) (rejected : normalizeName e.query.name = .error err) :
      Advance (.loading n) entries (.loading (n + 1))
        (entries.modify n fun e => { e with err := some err })
  | name {n : Nat} {e : Entry} {name : Bytes} {entries : List Entry}
      (present : entries[n]? = some e) (accepted : normalizeName e.query.name = .ok name) :
      Advance (.loading n) entries (.named n) (entries.modify n fun e => { e with name := name })
  | recorded (n : Nat) (rid : Int) (entries : List Entry) :
      Advance (.loaded n rid) entries (.loading (n + 1)) (entries.modify n (record rid))
  | loaded {n : Nat} {entries : List Entry} (ended : entries[n]? = none) :
      Advance (.loading n) entries .running entries
  | settle {entries after : List Entry} (settles : Settles entries after) :
      Advance .running entries .running after
  | release (entries : List Entry) : Advance .running entries (.releasing 0) entries
  | skip {n : Nat} {e : Entry} {entries : List Entry} (present : entries[n]? = some e)
      (none : e.rid ≤ 0) : Advance (.releasing n) entries (.releasing (n + 1)) entries
  | done {n : Nat} {entries : List Entry} (ended : entries[n]? = none) :
      Advance (.releasing n) entries .released entries

theorem settles_fail (err : Error) (entries : List Entry) :
    Settles entries (entries.map (Entry.fail err)) := by
  rw [Settles, List.forall₂_map_right_iff, List.forall₂_same]
  intro e _
  unfold Entry.fail
  split
  next unsettled => exact ⟨rfl, rfl, fun settled => by simp [unsettled] at settled⟩
  · exact ⟨rfl, rfl, fun _ => rfl⟩

theorem settles_modify {entries : List Entry} {n : Nat} {e : Entry} {change : Entry → Entry}
    (present : entries[n]? = some e) (unsettled : e.unsettled = true)
    (kept : (change e).query = e.query ∧ (change e).rid = e.rid) :
    Settles entries (entries.modify n change) := by
  induction entries generalizing n with
  | nil => simp at present
  | cons first entries ih =>
      have same (other : Entry) : other.query = other.query ∧ other.rid = other.rid ∧
          (other.unsettled = false → other.err = other.err) := ⟨rfl, rfl, fun _ => rfl⟩
      cases n with
      | zero =>
          cases present
          refine List.Forall₂.cons ⟨kept.1, kept.2, ?_⟩ (List.forall₂_same.mpr fun e _ => same e)
          exact fun settled => by simp [unsettled] at settled
      | succ n => exact List.Forall₂.cons (same first) (ih present)

/-- The instance has not been closed. -/
def Open (i : Instance) : Prop := i.closed = false ∧ i.modDead = false

theorem advance_failUnsettled (s : Resolve.State) (err : Error) (p : Nat) :
    Advance .running s.entries (phase (s.failUnsettled err p).pc)
      (s.failUnsettled err p).entries :=
  .settle (settles_fail err s.entries)

theorem advance_startNext (s : Resolve.State) (n : Nat) :
    Advance (.loading n) s.entries (phase (s.startNext n).pc) (s.startNext n).entries := by
  unfold Resolve.State.startNext
  split
  next ended => split <;> exact .loaded ended
  next e present =>
    split
    next rejected => exact .reject present rejected
    next accepted => exact .name present accepted

theorem advance_started (s : Resolve.State) (n : Nat) (rid : Int) :
    Advance (.loaded n rid) s.entries (phase (s.started n (.ok rid)).pc)
      (s.started n (.ok rid)).entries := by
  have recorded := Advance.recorded n rid s.entries
  simp only [Resolve.State.started]
  split
  next negative =>
    have same : record rid = fun e => { e with err := some (startFailure (-rid)) } := by
      funext e
      exact if_pos negative
    rw [same] at recorded
    exact recorded
  next positive =>
    have same : record rid = fun e => { e with rid := rid } := by
      funext e
      exact if_neg positive
    rw [same] at recorded
    exact recorded

theorem advance_polled {s : Resolve.State} {n : Nat} {e : Entry}
    (present : s.entries[n]? = some e) (polled : ¬ Resolve.State.skipped e = true) (p : Nat)
    (poll : Poll) :
    Advance .running s.entries (phase (s.polled n p poll).pc) (s.polled n p poll).entries := by
  have unsettled : e.unsettled = true := by
    simp only [Resolve.State.skipped, Bool.or_eq_true, not_or] at polled
    simpa using polled.2
  cases poll with
  | fatal err => exact .stay _ _
  | pending => exact .stay _ _
  | failed err => exact .settle (settles_modify present unsettled ⟨rfl, rfl⟩)
  | ready res => exact .settle (settles_modify present unsettled ⟨rfl, rfl⟩)

theorem advance_cancelNext {s : Resolve.State} {n : Nat} {ret : Returned}
    (isOpen : s.inst.closed = false) :
    Advance (.releasing n) s.entries (phase (s.cancelNext n ret).pc)
      (s.cancelNext n ret).entries := by
  unfold Resolve.State.cancelNext
  split
  next ended => exact .done ended
  next e present =>
    split
    · exact .stay _ _
    next skipped => exact .skip present (by simpa [isOpen] using skipped)

theorem Open.before {i after : Instance} (later : i.Later after) (isOpen : Open after) :
    Open i := by
  constructor
  · cases closed : i.closed with
    | false => rfl
    | true => exact absurd (later.closed closed) (by simp [isOpen.1])
  · cases dead : i.modDead with
    | false => rfl
    | true => exact absurd (later.modDead dead) (by simp [isOpen.2])

/-- While the instance is open, a step of the host other than a call of a slot function
is one of these. -/
theorem advance_of_ran {parser : MessageParser} {s after : Resolve.State}
    {action : Resolve.Action} (ran : Resolve.State.Ran parser s action after)
    (isOpen : Open s.inst) (unbroken : phase s.pc ≠ .broken)
    (permitted : permits s action = true ∨ ∃ n p, s.pc = .poll n p) :
    Advance (phase s.pc) s.entries (phase after.pc) after.entries := by
  cases ran with
  | enter here =>
      rw [here, Resolve.State.enter, isOpen.1]
      exact .stay _ _
  | startNext here =>
      rw [here]
      exact advance_startNext s _
  | @nameRefused n answer _ _ here _ refused =>
      have allocated : (allocWrite s.inst.modDead answer (s.nameAt n)).isOk = true := by
        simpa [permits, here, isOpen.2] using permitted
      rw [refused] at allocated
      cases allocated
  | @resultRefused answer _ _ here _ refused =>
      have allocated :
          (allocWrite s.inst.modDead answer (List.replicate resultSize 0)).isOk = true := by
        simpa [permits, here, isOpen.2] using permitted
      rw [refused] at allocated
      cases allocated
  | allocName here | allocResult here | pollEnd here | pollWait here | pollSkip here
  | ctxDone here | doneFailed here | event here | dispatchFailed here | dispatch here =>
      rw [here]
      exact .stay _ _
  | callStart here => simp [permits, here, isOpen.2] at permitted
  | @freeName n p out _ failed here =>
      rw [here] at unbroken ⊢
      cases out with
      | error err => exact absurd rfl unbroken
      | ok rid => exact advance_started { s with failed := failed } n rid
  | @pollCall n p e _ failed here _ present due =>
      rw [here]
      exact advance_polled (s := { s with failed := failed }) present due p _
  | done here | eventsClosed here =>
      rw [here]
      exact advance_failUnsettled ..
  | closing here closing =>
      rw [here]
      cases closing with
      | goesOn => exact .stay _ _
      | ends => exact advance_failUnsettled ..
  | free here =>
      rw [here]
      exact .release _
  | cancelNext here =>
      rw [here]
      exact advance_cancelNext isOpen.1
  | callCancel here => simp [permits, here, isOpen.2] at permitted

end UnboundWasm.System.Batches
