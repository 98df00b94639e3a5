import UnboundWasm.Host.Events.Machine
import UnboundWasm.Host.Resolve.Batch
import UnboundWasm.Host.Resolve.Leaving

/-!
# What becomes of every event

The channel holds what was enqueued and not received, in order.  An event is dropped
only on the way to a shutdown or after one, the first shutdown's cause is the one that
is kept, and a `ResolveAll` woken by the shutdown reports it.  A caller of `enqueue`
waits for nobody but a shutdown under way.
-/

namespace UnboundWasm.Host.Events

open UnboundWasm.Lib
open UnboundWasm.Host.Sockets (HostEvent)
open UnboundWasm.Host.Resolve (Once CloseStage Pc Entry Returned)

/-! ## Who shuts the instance down -/

/-- Who may be inside the function of `shutdown`. -/
inductive Holder where
  | resolver | close | sweep
  | sender (ref : Nat)
  deriving DecidableEq

/-- How far the close of each of those is that `Resolve.State` knows about. -/
def stage (s : Resolve.State) : Holder → Option CloseStage
  | .resolver =>
      match s.pc with
      | .closing stage _ _ => some stage
      | _ => none
  | .close => s.other
  | .sweep => s.sweep
  | .sender _ => none

def Tears (s : Resolve.State) (holder : Holder) : Prop := stage s holder = some .teardown

/-- What a step of `ResolveAll` or of another close does to `once`. -/
inductive Turn (s t : Resolve.State) : Bool → Prop where
  | still (once : t.inst.once = s.inst.once) (cause : t.inst.cause = s.inst.cause)
      (tears : ∀ holder, Tears t holder ↔ Tears s holder) : Turn s t false
  | begins {who : Holder} (idle : s.inst.once = .idle) (once : t.inst.once = .closing)
      (cause : t.inst.cause = none) (begun : Tears t who)
      (tears : ∀ holder, Tears t holder ↔ holder = who ∨ Tears s holder) : Turn s t true
  | passes (finished : s.inst.once = .finished) (once : t.inst.once = .finished)
      (cause : t.inst.cause = s.inst.cause)
      (tears : ∀ holder, Tears t holder ↔ Tears s holder) : Turn s t true
  | ends {who : Holder} (held : Tears s who) (once : t.inst.once = .finished)
      (cause : t.inst.cause = s.inst.cause)
      (tears : ∀ holder, Tears t holder ↔ holder ≠ who ∧ Tears s holder) : Turn s t false

/-- One party takes a step of its close and the others stay where they are. -/
theorem turn_of_moved {s t : Resolve.State} {at' : CloseStage} {next : Option CloseStage}
    {inst : Resolve.Instance} (moved : at'.Moved s.inst inst next) (after : t.inst = inst)
    (who : Holder) (here : stage s who = some at' ∨ stage s who = none ∧ at' ≠ .teardown)
    (goes : stage t who = next) (elsewhere : ∀ holder ≠ who, stage t holder = stage s holder) :
    Turn s t (at' = .shutdown) := by
  have kept : ¬ Tears s who → next ≠ some .teardown →
      ∀ holder, Tears t holder ↔ Tears s holder := by
    intro unheld onward holder
    by_cases same : holder = who
    · subst same
      rw [Tears, goes]
      exact iff_of_false onward unheld
    · rw [Tears, elsewhere holder same, Tears]
  have unheld : at' ≠ .teardown → ¬ Tears s who := by
    intro different held
    rw [Tears] at held
    rcases here with at' | ⟨none, -⟩
    · rw [held] at at'
      exact different (Option.some.inj at').symm
    · rw [held] at none
      cases none
  have once := congrArg Resolve.Instance.once after
  have cause := congrArg Resolve.Instance.cause after
  cases moved with
  | again | first | dead => exact .still once cause (kept (unheld (by decide)) (by decide))
  | begins idle =>
      refine .begins idle once cause goes ?_
      intro holder
      by_cases same : holder = who
      · subst same
        exact iff_of_true goes (.inl rfl)
      · rw [Tears, elsewhere holder same, Tears]
        exact ⟨.inr, fun held => held.resolve_left same⟩
  | passes finished =>
      exact .passes finished (once.trans finished) cause (kept (unheld (by decide)) (by decide))
  | tornDown =>
      have held : Tears s who := by
        rcases here with at' | ⟨-, impossible⟩
        · exact at'
        · exact absurd rfl impossible
      refine .ends held once cause ?_
      intro holder
      by_cases same : holder = who
      · subst same
        rw [Tears, goes]
        exact iff_of_false (by decide) fun both => both.1 rfl
      · rw [Tears, elsewhere holder same, Tears]
        exact ⟨fun held => ⟨same, held⟩, fun both => both.2⟩

/-- A step of `ResolveAll` itself that is not one of a close. -/
theorem turn_of_own {s t : Resolve.State} (own : s.Own t)
    (outside : ∀ at' err p, s.pc ≠ .closing at' err p) : Turn s t false := by
  obtain ⟨entries, pending, pc, failed, rfl, begins⟩ := own
  refine .still rfl rfl ?_
  intro holder
  cases holder with
  | close | sweep | sender => exact Iff.rfl
  | resolver =>
      have before : ¬ Tears s .resolver := by
        intro held
        simp only [Tears, stage] at held
        cases held
      refine iff_of_false ?_ before
      intro held
      simp only [Tears, stage] at held
      split at held
      next at' err p =>
        rw [begins at' err p rfl] at held
        cases held
      next => cases held

/-- A step of the close in `ResolveAll`. -/
theorem turn_of_closing {s t : Resolve.State} {at' : CloseStage} {err : Error} {p : Nat}
    (here : s.pc = .closing at' err p) (closing : s.Closing at' err p t) :
    Turn s t (at' = .shutdown) ∧ t.failing = s.failing := by
  have standing : stage s .resolver = some at' := by simp only [stage, here]
  cases closing with
  | goesOn moved | ends moved =>
      refine ⟨turn_of_moved moved rfl .resolver (.inl standing) rfl ?_, rfl⟩
      intro holder different
      cases holder with
      | resolver => exact absurd rfl different
      | close | sweep | sender => rfl

variable {parser : MessageParser} {ref : Nat} {s t : State}

theorem turn_of_ran {s t : Resolve.State} {action : Resolve.Action}
    (ran : Resolve.State.Ran parser s action t) (own : ∀ what, action ≠ .interfere what) :
    Turn s t (callsShutdown s action) ∧ t.failing = s.failing := by
  rcases Resolve.State.own_of_ran ran with ⟨own', outside⟩ | ⟨at', err, p, here, rfl, stepped⟩
  · have silent : callsShutdown s action = false := by
      cases action with
      | interfere what => exact absurd rfl (own what)
      | step =>
          simp only [callsShutdown]
          split
          next err p here => exact absurd here (outside .shutdown err p)
          next => rfl
      | call | ctxDone | done | event | eventsClosed => rfl
    rw [silent]
    refine ⟨turn_of_own own' outside, ?_⟩
    obtain ⟨entries, pending, pc, failed, rfl, -⟩ := own'
    rfl
  · have same : callsShutdown s .step = (at' = .shutdown : Bool) := by
      cases at' <;> simp [callsShutdown, here]
    rw [same]
    exact turn_of_closing here stepped

theorem turn_of_close {s t : Resolve.State} (stepped : s.interfere .close = some t) :
    Turn s t (callsShutdown s (.interfere .close)) ∧ t.failing = s.failing := by
  have same : callsShutdown s (.interfere .close) = (s.other.getD .swap = .shutdown : Bool) := by
    cases other : s.other <;> simp [callsShutdown, other]
  rw [same]
  cases Resolve.State.interfered_of_step stepped with
  | close moved =>
      refine ⟨turn_of_moved moved rfl .close ?_ rfl ?_, rfl⟩
      · cases other : s.other with
        | none => exact .inr ⟨other, by decide⟩
        | some at' => exact .inl other
      · intro holder different
        cases holder with
        | close => exact absurd rfl different
        | resolver | sweep | sender => rfl

theorem turn_of_sweep {s t : Resolve.State} (stepped : s.interfere .sweep = some t) :
    Turn s t (callsShutdown s (.interfere .sweep)) ∧ t.failing = s.failing := by
  cases Resolve.State.interfered_of_step stepped with
  | sweep moved =>
      refine ⟨turn_of_moved moved rfl .sweep ?_ rfl ?_, rfl⟩
      · cases sweep : s.sweep with
        | none => exact .inr ⟨sweep, by decide⟩
        | some at' => exact .inl sweep
      · intro holder different
        cases holder with
        | sweep => exact absurd rfl different
        | resolver | close | sender => rfl

/-! ## What a step can do -/

/-- Everything that can happen, with what the log says about it. -/
inductive Moved (s : State) : State → Option Note → Prop where
  | called (event : HostEvent) :
      Moved s { s with senders := s.senders.alloc ⟨event, .select⟩ } none
  | queued {ref : Nat} (started : ref < s.senders.size)
      (here : (s.senders.get ref).pc = .select) :
      Moved s ({ s with events := s.events ++ [(s.senders.get ref).event] }.senderGoto ref
        .returned) (some (.enqueued ref (s.senders.get ref).event))
  | skipped {ref : Nat} (started : ref < s.senders.size)
      (here : (s.senders.get ref).pc = .select) (done : s.done = true) :
      Moved s (s.senderGoto ref .returned) (some (.dropped ref (s.senders.get ref).event))
  | overflowed {ref : Nat} (started : ref < s.senders.size)
      (here : (s.senders.get ref).pc = .select) (running : s.done = false) :
      Moved s (s.senderGoto ref .fail) (some (.dropped ref (s.senders.get ref).event))
  | failing {ref : Nat} (started : ref < s.senders.size) (here : (s.senders.get ref).pc = .fail)
      (idle : s.resolve.inst.once = .idle) :
      Moved s ({ s with resolve := { s.resolve with
        inst := s.resolve.inst.beginShutdown (some errEventQueueOverflow)
        failing := true } }.senderGoto ref .teardown)
        (some (.shutdown (some errEventQueueOverflow)))
  | passed {ref : Nat} (started : ref < s.senders.size) (here : (s.senders.get ref).pc = .fail)
      (finished : s.resolve.inst.once = .finished) :
      Moved s (s.senderGoto ref .returned) (some (.shutdown (some errEventQueueOverflow)))
  | failed {ref : Nat} (started : ref < s.senders.size)
      (here : (s.senders.get ref).pc = .teardown) :
      Moved s ({ s with resolve := { s.resolve with
        inst := { s.resolve.inst with once := .finished }
        failing := false } }.senderGoto ref .returned) none
  | received {event : HostEvent} {rest : List HostEvent} {resolve : Resolve.State}
      (first : s.events = event :: rest) (turn : Turn s.resolve resolve false)
      (failing : resolve.failing = s.resolve.failing) :
      Moved s { s with resolve := resolve, events := rest } (some (.received event))
  | resolved {resolve : Resolve.State} {called : Bool} (turn : Turn s.resolve resolve called)
      (failing : resolve.failing = s.resolve.failing) :
      Moved s { s with resolve := resolve } (if called then some (.shutdown none) else none)

theorem moved_of_senderStep {drop : Bool} (stepped : s.senderStep ref drop = some t) :
    Moved s t (s.noted (.sender ref drop) t) := by
  unfold State.senderStep at stepped
  split at stepped
  next started =>
    split at stepped
    next here =>
      cases stepped
      simp only [State.noted, here, State.select]
      split
      · exact .queued started here
      · split
        next done => exact .skipped started here done
        next running => exact .overflowed started here (by simpa using running)
    next here =>
      simp only [State.noted, here]
      split at stepped
      next idle =>
        simp only [Resolve.State.interfere, idle, if_true, Option.some.injEq] at stepped
        cases stepped
        exact .failing started here idle
      · cases stepped
      next finished =>
        cases stepped
        exact .passed started here finished
    next here =>
      simp only [State.noted, here]
      simp only [Resolve.State.interfere] at stepped
      split at stepped
      · cases stepped
      next resolve failed =>
        split at failed
        · cases failed
          cases stepped
          exact .failed started here
        · cases failed
    · cases stepped
  · cases stepped

theorem moved_of_step {action : Action} (stepped : s.step parser action = some t) :
    Moved s t (s.noted action t) := by
  cases action with
  | enqueue event =>
      cases stepped
      exact .called event
  | sender ref drop => exact moved_of_senderStep stepped
  | receive =>
      simp only [State.step, State.receive] at stepped
      split at stepped
      · cases stepped
      next event rest first =>
        split at stepped
        · cases stepped
        next resolve advanced =>
          cases stepped
          have ran := Resolve.State.ran_of_resolveStep advanced
          have turned := turn_of_ran ran (by simp)
          cases ran
          exact .received first turned.1 turned.2
  | resolve action =>
      cases action with
      | event | eventsClosed => cases stepped
      | interfere what =>
          cases what with
          | fail | failed => cases stepped
          | close =>
              simp only [State.step, State.resolveStep] at stepped
              split at stepped
              · cases stepped
              next resolve advanced =>
                cases stepped
                have turned := turn_of_close advanced
                exact .resolved turned.1 turned.2
          | sweep =>
              simp only [State.step, State.resolveStep] at stepped
              split at stepped
              · cases stepped
              next resolve advanced =>
                cases stepped
                have turned := turn_of_sweep advanced
                exact .resolved turned.1 turned.2
      | step | call | ctxDone | done =>
          simp only [State.step, State.resolveStep] at stepped
          split at stepped
          · cases stepped
          next resolve advanced =>
            cases stepped
            have turned := turn_of_ran (Resolve.State.ran_of_resolveStep advanced) (by simp)
            exact .resolved turned.1 turned.2
  | resolveAll queries =>
      simp only [State.step] at stepped
      split at stepped
      next ret here =>
        cases stepped
        have turned : Turn s.resolve (s.resolve.resolveAll queries) false := by
          refine .still rfl rfl ?_
          intro holder
          cases holder with
          | resolver => simp [Tears, stage, Resolve.State.resolveAll, here]
          | close | sweep | sender => exact Iff.rfl
        exact .resolved turned rfl
      · cases stepped

/-! ## One shutdown at a time -/

/-- Who is inside the function of `shutdown`. -/
def State.Holds (s : State) (holder : Holder) : Prop :=
  Tears s.resolve holder ∨
    ∃ ref < s.senders.size, holder = .sender ref ∧ (s.senders.get ref).pc = .teardown

/-- `once` is under way exactly while somebody is inside, and that is one party. -/
structure Held (s : State) : Prop where
  held : s.resolve.inst.once = .closing → ∃ holder, s.Holds holder
  closing : ∀ holder, s.Holds holder → s.resolve.inst.once = .closing
  unique : ∀ one other, s.Holds one → s.Holds other → one = other
  failing : ∀ ref, s.Holds (.sender ref) → s.resolve.failing = true

namespace Held

variable {s t : State}

theorem keep (held : Held s) (once : t.resolve.inst.once = s.resolve.inst.once)
    (failing : t.resolve.failing = s.resolve.failing)
    (holds : ∀ holder, t.Holds holder ↔ s.Holds holder) : Held t := by
  constructor
  case held =>
    intro closing
    obtain ⟨holder, before⟩ := held.held (once ▸ closing)
    exact ⟨holder, (holds holder).mpr before⟩
  case closing =>
    intro holder after
    rw [once]
    exact held.closing holder ((holds holder).mp after)
  case unique =>
    intro one other first second
    exact held.unique one other ((holds one).mp first) ((holds other).mp second)
  case failing =>
    intro ref after
    rw [failing]
    exact held.failing ref ((holds _).mp after)

/-- Nobody was inside before the first. -/
theorem enter (held : Held s) (who : Holder) (idle : s.resolve.inst.once = .idle)
    (once : t.resolve.inst.once = .closing)
    (holds : ∀ holder, t.Holds holder ↔ holder = who ∨ s.Holds holder)
    (failing : ∀ ref, who = .sender ref → t.resolve.failing = true) : Held t := by
  have only : ∀ holder, t.Holds holder → holder = who := by
    intro holder after
    rcases (holds holder).mp after with same | before
    · exact same
    · have closing := held.closing holder before
      rw [idle] at closing
      cases closing
  constructor
  case held => exact fun _ => ⟨who, (holds who).mpr (.inl rfl)⟩
  case closing => exact fun _ _ => once
  case unique =>
    intro one other first second
    rw [only one first, only other second]
  case failing =>
    intro ref after
    exact failing ref (only _ after).symm

/-- Nobody is left inside when the one who was leaves. -/
theorem leave (held : Held s) (who : Holder) (inside : s.Holds who)
    (once : t.resolve.inst.once = .finished)
    (holds : ∀ holder, t.Holds holder → holder ≠ who ∧ s.Holds holder) : Held t := by
  have nobody : ∀ holder, ¬ t.Holds holder := by
    intro holder after
    obtain ⟨different, before⟩ := holds holder after
    exact different (held.unique holder who before inside)
  constructor
  case held =>
    intro closing
    rw [once] at closing
    cases closing
  case closing => exact fun holder after => absurd after (nobody holder)
  case unique => exact fun one _ first => absurd first (nobody one)
  case failing => exact fun ref after => absurd after (nobody _)

end Held

theorem State.holds_senderGoto {pc : SenderPc} {holder : Holder}
    (before : (s.senders.get ref).pc ≠ .teardown) (after : pc ≠ .teardown) :
    (s.senderGoto ref pc).Holds holder ↔ s.Holds holder := by
  apply or_congr Iff.rfl
  constructor
  · rintro ⟨other, started, same, inside⟩
    refine ⟨other, started, same, ?_⟩
    simp only [senderGoto, Heap.get_modify] at inside
    split at inside
    · exact absurd inside after
    · exact inside
  · rintro ⟨other, started, same, inside⟩
    refine ⟨other, started, same, ?_⟩
    simp only [senderGoto, Heap.get_modify]
    split
    next own =>
      rw [own] at inside
      exact absurd inside before
    next => exact inside

theorem Held.turned {resolve : Resolve.State} {called : Bool} {events : List HostEvent}
    (held : Held s) (turn : Turn s.resolve resolve called)
    (failing : resolve.failing = s.resolve.failing) :
    Held { s with resolve := resolve, events := events } := by
  cases turn with
  | still once cause tears =>
      exact held.keep once failing fun holder => or_congr (tears holder) Iff.rfl
  | @begins who idle once cause begun tears =>
      apply held.enter who idle once
      · exact fun holder => (or_congr (tears holder) Iff.rfl).trans or_assoc
      · rintro ref rfl
        cases begun
  | passes finished once cause tears =>
      exact held.keep (once.trans finished.symm) failing
        fun holder => or_congr (tears holder) Iff.rfl
  | @ends who inside once cause tears =>
      apply held.leave who (.inl inside) once
      rintro holder (after | ⟨ref, started, rfl, at'⟩)
      · exact ⟨((tears holder).mp after).1, .inl ((tears holder).mp after).2⟩
      · refine ⟨?_, .inr ⟨ref, started, rfl, at'⟩⟩
        rintro rfl
        cases inside

theorem Held.moved {note : Option Note} (held : Held s) (moved : Moved s t note) : Held t := by
  cases moved with
  | called event =>
      refine held.keep rfl rfl fun holder => or_congr Iff.rfl ?_
      constructor
      · rintro ⟨ref, started, same, inside⟩
        rcases Heap.eq_or_lt_of_alloc started with new | old
        · rw [new, Heap.get_alloc_size] at inside
          cases inside
        · rw [Heap.get_alloc_of_lt _ _ _ old] at inside
          exact ⟨ref, old, same, inside⟩
      · rintro ⟨ref, started, same, inside⟩
        refine ⟨ref, Nat.lt_succ_of_lt started, same, ?_⟩
        rw [Heap.get_alloc_of_lt _ _ _ started]
        exact inside
  | queued started here =>
      refine held.keep rfl rfl fun holder => ?_
      exact State.holds_senderGoto (s := { s with events := _ }) (by rw [here]; decide) (by decide)
  | skipped started here | overflowed started here =>
      refine held.keep rfl rfl fun holder => ?_
      exact State.holds_senderGoto (by rw [here]; decide) (by decide)
  | passed started here =>
      refine held.keep rfl rfl fun holder => ?_
      exact State.holds_senderGoto (by rw [here]; decide) (by decide)
  | @failing ref started here idle =>
      refine held.enter (.sender ref) idle rfl ?_ fun _ _ => rfl
      intro holder
      constructor
      · rintro (tears | ⟨other, inside, same, at'⟩)
        · exact .inr (.inl tears)
        · by_cases own : other = ref
          · exact .inl (own ▸ same)
          · simp only [State.senderGoto, Heap.get_modify, if_neg own] at at'
            exact .inr (.inr ⟨other, inside, same, at'⟩)
      · rintro (rfl | tears | ⟨other, inside, same, at'⟩)
        · refine .inr ⟨ref, started, rfl, ?_⟩
          simp [State.senderGoto]
        · exact .inl tears
        · refine .inr ⟨other, inside, same, ?_⟩
          simp only [State.senderGoto, Heap.get_modify]
          split
          · rfl
          · exact at'
  | @failed ref started here =>
      refine held.leave (.sender ref) (.inr ⟨ref, started, rfl, here⟩) rfl ?_
      rintro holder (tears | ⟨other, inside, same, at'⟩)
      · refine ⟨?_, .inl tears⟩
        rintro rfl
        cases tears
      · simp only [State.senderGoto, Heap.get_modify] at at'
        split at at'
        · cases at'
        next different =>
          refine ⟨?_, .inr ⟨other, inside, same, at'⟩⟩
          rintro rfl
          cases same
          exact different rfl
  | received first turn failing => exact held.turned turn failing
  | resolved turn failing => exact held.turned turn failing

/-! ## The accounts -/

/-- The events that went into the channel, in order. -/
def enqueuedIn (log : List Note) : List HostEvent :=
  log.filterMap fun
    | .enqueued _ event => some event
    | _ => none

/-- The events `ResolveAll` received to dispatch them, in order. -/
def receivedIn (log : List Note) : List HostEvent :=
  log.filterMap fun
    | .received event => some event
    | _ => none

/-- The causes `shutdown` was called with, in order. -/
def shutdownsIn (log : List Note) : List (Option Error) :=
  log.filterMap fun
    | .shutdown cause => some cause
    | _ => none

theorem enqueuedIn_append (log more : List Note) :
    enqueuedIn (log ++ more) = enqueuedIn log ++ enqueuedIn more := List.filterMap_append ..

theorem receivedIn_append (log more : List Note) :
    receivedIn (log ++ more) = receivedIn log ++ receivedIn more := List.filterMap_append ..

theorem shutdownsIn_append (log more : List Note) :
    shutdownsIn (log ++ more) = shutdownsIn log ++ shutdownsIn more := List.filterMap_append ..

/-- The books of the channel and of `shutdown`. -/
structure Sound (s : State) (log : List Note) : Prop where
  fifo : enqueuedIn log = receivedIn log ++ s.events
  dropped : ∀ ref event, .dropped ref event ∈ log →
    s.done = true ∨ ref < s.senders.size ∧ (s.senders.get ref).pc = .fail
  returned : ∀ ref < s.senders.size, (s.senders.get ref).pc = .returned →
    s.done = true ∨ .enqueued ref (s.senders.get ref).event ∈ log
  cause : (shutdownsIn log).head? = if s.done then some s.resolve.inst.cause else none

theorem State.done_eq_false : s.done = false ↔ s.resolve.inst.once = .idle := by
  simp [done]

theorem Turn.done {s t : Resolve.State} {called : Bool} (turn : Turn s t called)
    (shut : s.inst.once ≠ .idle) : t.inst.once ≠ .idle := by
  cases turn with
  | still once => rw [once]; exact shut
  | begins _ once | passes _ once | ends _ once => rw [once]; decide

/-- A shutdown is for good, and so is its cause. -/
theorem Moved.settled {note : Option Note} (moved : Moved s t note) (done : s.done = true) :
    t.done = true ∧ t.resolve.inst.cause = s.resolve.inst.cause := by
  have shut : s.resolve.inst.once ≠ .idle := by simpa [State.done] using done
  have turned : ∀ {resolve : Resolve.State} {called : Bool}, Turn s.resolve resolve called →
      resolve.inst.once ≠ .idle ∧ resolve.inst.cause = s.resolve.inst.cause := by
    intro resolve called turn
    refine ⟨turn.done shut, ?_⟩
    cases turn with
    | begins idle => exact absurd idle shut
    | still _ cause | passes _ _ cause | ends _ _ cause => exact cause
  cases moved with
  | called | queued | skipped | overflowed | passed => exact ⟨done, rfl⟩
  | failing _ _ idle => exact absurd idle shut
  | failed => exact ⟨rfl, rfl⟩
  | received _ turn => exact ⟨by simpa [State.done] using (turned turn).1, (turned turn).2⟩
  | resolved turn => exact ⟨by simpa [State.done] using (turned turn).1, (turned turn).2⟩

/-- Where a step can leave a caller of `enqueue`: where it was, past a shutdown, or
beyond its select with the event in the channel or without. -/
inductive Onward (s t : State) (note : Option Note) (ref : Nat) : Prop where
  | stays (same : (t.senders.get ref).pc = (s.senders.get ref).pc)
  | shut (done : t.done = true)
  | sent (here : (s.senders.get ref).pc = .select)
      (noted : note = some (.enqueued ref (s.senders.get ref).event))
  | fails (here : (s.senders.get ref).pc = .select) (there : (t.senders.get ref).pc = .fail)

theorem Moved.sender {note : Option Note} (moved : Moved s t note)
    (started : ref < s.senders.size) :
    ref < t.senders.size ∧ (t.senders.get ref).event = (s.senders.get ref).event ∧
      Onward s t note ref := by
  have goes : ∀ {before : State} {other : Nat} {pc : SenderPc}, before.senders = s.senders →
      (ref = other → Onward s (before.senderGoto other pc) note ref) →
      ref < (before.senderGoto other pc).senders.size ∧
        ((before.senderGoto other pc).senders.get ref).event = (s.senders.get ref).event ∧
        Onward s (before.senderGoto other pc) note ref := by
    intro before other pc same own
    have frame := Heap.get_modify_frame before.senders other ref
      (fun sender => { sender with pc := pc }) Sender.event fun _ => rfl
    rw [same] at frame
    refine ⟨by rw [State.senderGoto, same]; exact started,
      by rw [State.senderGoto, same]; exact frame, ?_⟩
    by_cases here : ref = other
    · exact own here
    · apply Onward.stays
      rw [State.senderGoto, same, Heap.get_modify, if_neg here]
  cases moved with
  | called event =>
      have same := Heap.get_alloc_of_lt s.senders ref ⟨event, .select⟩ started
      exact ⟨Nat.lt_succ_of_lt started, congrArg Sender.event same,
        .stays (congrArg Sender.pc same)⟩
  | queued _ here =>
      refine goes rfl ?_
      rintro rfl
      exact .sent here rfl
  | skipped _ _ done => exact goes rfl fun _ => .shut done
  | overflowed _ here =>
      refine goes rfl ?_
      rintro rfl
      exact .fails here (by simp [State.senderGoto])
  | failing | failed => exact goes rfl fun _ => .shut rfl
  | passed _ _ finished =>
      exact goes rfl fun _ => .shut (by simp [State.done, State.senderGoto, finished])
  | received | resolved => exact ⟨started, rfl, .stays rfl⟩

theorem Moved.started {note : Option Note} (moved : Moved s t note)
    (inside : ref < t.senders.size) :
    ref < s.senders.size ∨ (t.senders.get ref).pc = .select := by
  cases moved with
  | called event =>
      rcases Heap.eq_or_lt_of_alloc inside with new | old
      · rw [new, Heap.get_alloc_size]
        exact .inr rfl
      · exact .inl old
  | queued | skipped | overflowed | failing | passed | failed | received | resolved =>
      exact .inl inside

/-- What the log says a move dropped. -/
theorem Moved.dropped {event : HostEvent} (moved : Moved s t (some (.dropped ref event))) :
    t.done = true ∨ ref < t.senders.size ∧ (t.senders.get ref).pc = .fail := by
  generalize noted : (some (Note.dropped ref event)) = note at moved
  cases moved with
  | skipped _ _ done => exact .inl done
  | overflowed started =>
      cases noted
      exact .inr ⟨started, by simp [State.senderGoto]⟩
  | called | failed | received | queued | failing | passed => cases noted
  | @resolved _ called => cases called <;> cases noted

/-- The events a move puts into the channel and takes out of it. -/
theorem Moved.fifo {note : Option Note} (moved : Moved s t note) :
    s.events ++ enqueuedIn note.toList = receivedIn note.toList ++ t.events := by
  cases moved with
  | called | skipped | overflowed | failing | passed | failed => exact List.append_nil _
  | queued => rfl
  | received first => exact (List.append_nil _).trans first
  | @resolved _ called => cases called <;> exact List.append_nil _

/-- The first shutdown is the one that begins, and it leaves its cause. -/
theorem Moved.cause {note : Option Note} (moved : Moved s t note) (held : Held s)
    (running : s.done = false) :
    (shutdownsIn note.toList).head? = if t.done then some t.resolve.inst.cause else none := by
  have idle := State.done_eq_false.mp running
  have unheld : ∀ holder, ¬ s.Holds holder := by
    intro holder inside
    have closing := held.closing holder inside
    rw [idle] at closing
    cases closing
  have unmoved : t.resolve.inst.once = s.resolve.inst.once → none =
      if t.done then some t.resolve.inst.cause else none := by
    intro same
    rw [State.done_eq_false.mpr (same.trans idle)]
    rfl
  cases moved with
  | called | queued | skipped | overflowed => exact unmoved rfl
  | failing => rfl
  | passed _ _ finished =>
      rw [idle] at finished
      cases finished
  | failed started here => exact absurd (.inr ⟨_, started, rfl, here⟩) (unheld (.sender _))
  | received _ turn =>
      cases turn with
      | still once => exact unmoved once
      | ends inside => exact absurd (.inl inside) (unheld _)
  | resolved turn =>
      cases turn with
      | still once => exact unmoved once
      | begins _ once cause =>
          simp [shutdownsIn, State.done, once, cause]
      | passes finished =>
          rw [idle] at finished
          cases finished
      | ends inside => exact absurd (.inl inside) (unheld _)

theorem Sound.moved {log : List Note} {note : Option Note} (sound : Sound s log) (held : Held s)
    (moved : Moved s t note) : Sound t (log ++ note.toList) := by
  constructor
  case fifo =>
    rw [enqueuedIn_append, sound.fifo, List.append_assoc, moved.fifo, receivedIn_append,
      List.append_assoc]
  case dropped =>
    intro ref event member
    rcases List.mem_append.mp member with old | new
    · rcases sound.dropped ref event old with done | ⟨started, here⟩
      · exact .inl (moved.settled done).1
      · obtain ⟨still, -, onward⟩ := moved.sender started
        cases onward with
        | stays same => exact .inr ⟨still, same.trans here⟩
        | shut done => exact .inl done
        | sent before | fails before =>
            rw [here] at before
            cases before
    · rw [Option.mem_toList.mp new] at moved
      exact moved.dropped
  case returned =>
    intro ref inside back
    rcases moved.started inside with started | fresh
    · obtain ⟨-, event, onward⟩ := moved.sender started
      rw [event]
      cases onward with
      | stays same =>
          rcases sound.returned ref started (same ▸ back) with done | enqueued
          · exact .inl (moved.settled done).1
          · exact .inr (List.mem_append_left _ enqueued)
      | shut done => exact .inl done
      | sent _ noted =>
          right
          rw [noted]
          exact List.mem_append_right _ (List.mem_singleton.mpr rfl)
      | fails _ there =>
          rw [back] at there
          cases there
    · rw [back] at fresh
      cases fresh
  case cause =>
    rw [shutdownsIn_append, List.head?_append, sound.cause]
    cases running : s.done with
    | true =>
        obtain ⟨done, cause⟩ := moved.settled running
        rw [done, cause]
        rfl
    | false => exact moved.cause held running

/-! ## Runs -/

theorem held_initial (queries : List Resolve.Query) : Held (State.initial queries) := by
  have nobody : ∀ holder, ¬ (State.initial queries).Holds holder := by
    rintro holder (inside | ⟨ref, started, -⟩)
    · cases holder <;> cases inside
    · exact Nat.not_lt_zero ref started
  constructor
  case held => exact fun impossible => by cases impossible
  case closing => exact fun holder inside => absurd inside (nobody holder)
  case unique => exact fun one _ inside => absurd inside (nobody one)
  case failing => exact fun ref inside => absurd inside (nobody (.sender ref))

theorem sound_initial (queries : List Resolve.Query) : Sound (State.initial queries) [] where
  fifo := rfl
  dropped := fun _ _ impossible => by cases impossible
  returned := fun ref started => absurd started (Nat.not_lt_zero ref)
  cause := rfl

theorem sound_of_reachable {queries : List Resolve.Query} {log : List Note}
    (reachable : (accounts parser queries).Reachable (s, log)) : Held s ∧ Sound s log := by
  have kept : ∀ before old action after, Held before ∧ Sound before old →
      Machine.always (before, old) action →
        (channel parser queries).step before action = some after →
      Held after ∧
        Sound after (old ++ ((channel parser queries).seen State.noted before action).toList) := by
    rintro before old action after ⟨held, sound⟩ _ stepped
    rw [Machine.seen_of_step _ stepped]
    have moved := moved_of_step stepped
    exact ⟨held.moved moved, sound.moved held moved⟩
  have carried := Machine.Reaches.invariant_logged kept reachable
    ⟨held_initial queries, sound_initial queries⟩
  exact carried

/-! ## Nobody waits for the consumer -/

/-- A step inside the function of `shutdown`. -/
def tearsDown (s : Resolve.State) : Resolve.Action → Bool
  | .interfere .close => s.other = some .teardown
  | .interfere .sweep => s.sweep = some .teardown
  | .step =>
      match s.pc with
      | .closing .teardown _ _ => true
      | _ => false
  | _ => false

/-- The steps of one caller of `enqueue`, and those of a shutdown under way. -/
def Finishing (ref : Nat) (s : State) : Action → Prop
  | .sender other _ => other = ref ∨ (s.senders.get other).pc = .teardown
  | .resolve action => tearsDown s.resolve action = true
  | .enqueue _ | .receive | .resolveAll _ => False

/-- Whoever is inside the function of `shutdown` can finish it. -/
theorem exists_teardown (parser : MessageParser) (queries : List Resolve.Query) (held : Held s)
    (closing : s.resolve.inst.once = .closing) (waiting : (s.senders.get ref).pc = .fail) :
    ∃ action t, Finishing ref s action ∧ (channel parser queries).step s action = some t ∧
      t.resolve.inst.once = .finished ∧ t.senders.size = s.senders.size ∧
      t.senders.get ref = s.senders.get ref := by
  obtain ⟨holder, inside⟩ := held.held closing
  rcases inside with tears | ⟨other, started, rfl, here⟩
  · cases holder with
    | resolver =>
        obtain ⟨err, p, here⟩ : ∃ err p, s.resolve.pc = .closing .teardown err p := by
          simp only [Tears, stage] at tears
          split at tears
          next err p here =>
            cases tears
            exact ⟨err, p, here⟩
          · cases tears
        refine ⟨.resolve .step, { s with resolve := { s.resolve with
          inst := { s.resolve.inst with once := .finished }
          pc := .closing .module err p } }, ?_, ?_, rfl, rfl, rfl⟩
        · simp [Finishing, tearsDown, here]
        · simp [channel, State.step, State.resolveStep, Resolve.State.step,
            Resolve.State.resolveStep, here, Resolve.State.closeStep, CloseStage.step]
    | close =>
        have here : s.resolve.other = some .teardown := tears
        refine ⟨.resolve (.interfere .close), { s with resolve := { s.resolve with
          inst := { s.resolve.inst with once := .finished }
          other := some .module } }, ?_, ?_, rfl, rfl, rfl⟩
        · simp [Finishing, tearsDown, here]
        · simp [channel, State.step, State.resolveStep, Resolve.State.step,
            Resolve.State.interfere, here, CloseStage.step]
    | sweep =>
        have here : s.resolve.sweep = some .teardown := tears
        refine ⟨.resolve (.interfere .sweep), { s with resolve := { s.resolve with
          inst := { s.resolve.inst with once := .finished }
          sweep := some .module } }, ?_, ?_, rfl, rfl, rfl⟩
        · simp [Finishing, tearsDown, here]
        · simp [channel, State.step, State.resolveStep, Resolve.State.step,
            Resolve.State.interfere, here, CloseStage.step]
    | sender other => cases tears
  · have failing := held.failing other (.inr ⟨other, started, rfl, here⟩)
    refine ⟨.sender other false, { s with resolve := { s.resolve with
      inst := { s.resolve.inst with once := .finished }
      failing := false } }.senderGoto other .returned, .inr here, ?_, rfl, rfl, ?_⟩
    · simp [channel, State.step, State.senderStep, started, here, Resolve.State.interfere, failing]
    · rw [State.senderGoto, Heap.get_modify, if_neg]
      rintro rfl
      rw [here] at waiting
      cases waiting

section Completion

variable (parser : MessageParser) (queries : List Resolve.Query) {s : State} {ref : Nat}

/-- A call of `enqueue` returns. -/
def Completes (s : State) (ref : Nat) : Prop :=
  ∃ t, (channel parser queries).Reaches (Finishing ref) s t ∧ (t.senders.get ref).pc = .returned

variable {parser queries}

theorem Completes.after {drop : Bool} (completes : Completes parser queries t ref)
    (stepped : s.senderStep ref drop = some t) : Completes parser queries s ref := by
  obtain ⟨last, run, back⟩ := completes
  have own : Finishing ref s (.sender ref drop) := .inl rfl
  have first : (channel parser queries).Reaches (Finishing ref) s t :=
    (Machine.Reaches.refl s).step own stepped
  exact ⟨last, first.trans run, back⟩

theorem completes_of_returned (back : (s.senders.get ref).pc = .returned) :
    Completes parser queries s ref := ⟨s, Machine.Reaches.refl s, back⟩

theorem completes_of_teardown (held : Held s) (started : ref < s.senders.size)
    (here : (s.senders.get ref).pc = .teardown) : Completes parser queries s ref := by
  have failing := held.failing ref (.inr ⟨ref, started, rfl, here⟩)
  have stepped : s.senderStep ref false = some ({ s with resolve := { s.resolve with
      inst := { s.resolve.inst with once := .finished }
      failing := false } }.senderGoto ref .returned) := by
    simp [State.senderStep, started, here, Resolve.State.interfere, failing]
  apply Completes.after _ stepped
  exact completes_of_returned (by simp [State.senderGoto])

theorem completes_of_finished (started : ref < s.senders.size)
    (here : (s.senders.get ref).pc = .fail) (finished : s.resolve.inst.once = .finished) :
    Completes parser queries s ref := by
  have stepped : s.senderStep ref false = some (s.senderGoto ref .returned) := by
    simp [State.senderStep, started, here, finished]
  apply Completes.after _ stepped
  exact completes_of_returned (by simp [State.senderGoto])

theorem completes_of_fail (held : Held s) (started : ref < s.senders.size)
    (here : (s.senders.get ref).pc = .fail) : Completes parser queries s ref := by
  cases once : s.resolve.inst.once with
  | idle =>
      have stepped : s.senderStep ref false = some ({ s with resolve := { s.resolve with
          inst := s.resolve.inst.beginShutdown (some errEventQueueOverflow)
          failing := true } }.senderGoto ref .teardown) := by
        simp [State.senderStep, started, here, once, Resolve.State.interfere]
      apply Completes.after _ stepped
      apply completes_of_teardown (held.moved (.failing started here once)) started
      simp [State.senderGoto]
  | closing =>
      obtain ⟨action, t, meets, stepped, finished, size, same⟩ :=
        exists_teardown parser queries held once here
      obtain ⟨last, run, back⟩ : Completes parser queries t ref :=
        completes_of_finished (size ▸ started) (same ▸ here) finished
      have first : (channel parser queries).Reaches (Finishing ref) s t :=
        (Machine.Reaches.refl s).step meets stepped
      exact ⟨last, first.trans run, back⟩
  | finished => exact completes_of_finished started here once

/-- A call of `enqueue` needs nobody to receive, and no guest call to end. -/
theorem completes_of_held (held : Held s) (started : ref < s.senders.size) :
    Completes parser queries s ref := by
  cases here : (s.senders.get ref).pc with
  | returned => exact completes_of_returned here
  | teardown => exact completes_of_teardown held started here
  | fail => exact completes_of_fail held started here
  | select =>
      have stepped : s.senderStep ref false = some (s.select ref false) := by
        simp [State.senderStep, started, here]
      apply Completes.after _ stepped
      have moved := moved_of_senderStep stepped
      obtain ⟨still, -, -⟩ := moved.sender started
      have next : ((s.select ref false).senders.get ref).pc = .returned ∨
          ((s.select ref false).senders.get ref).pc = .fail := by
        unfold State.select
        split
        · exact .inl (by simp [State.senderGoto])
        · split
          · exact .inl (by simp [State.senderGoto])
          · exact .inr (by simp [State.senderGoto])
      rcases next with back | failing
      · exact completes_of_returned back
      · exact completes_of_fail (held.moved moved) still failing

end Completion

/-! ## Leaving through `done` -/

/-- The runs within one `ResolveAll`. -/
def Within (_ : State × List Note) : Action → Prop
  | .resolveAll _ => False
  | .enqueue _ | .sender _ _ | .receive | .resolve _ => True

/-- Outside of `resolveAll` the instance and the call under way take steps of their own
machine. -/
theorem resolve_of_step {log : List Note} {action : Action} (within : Within (s, log) action)
    (stepped : s.step parser action = some t) :
    t.resolve = s.resolve ∨ ∃ inner, s.resolve.step parser inner = some t.resolve := by
  cases action with
  | enqueue event =>
      cases stepped
      exact .inl rfl
  | sender ref drop =>
      simp only [State.step, State.senderStep] at stepped
      split at stepped
      · split at stepped
        · cases stepped
          left
          unfold State.select
          split
          · rfl
          · split <;> rfl
        · split at stepped
          · split at stepped
            · cases stepped
            next advanced =>
              cases stepped
              exact .inr ⟨.interfere (.fail errEventQueueOverflow), advanced⟩
          · cases stepped
          · cases stepped
            exact .inl rfl
        · split at stepped
          · cases stepped
          next advanced =>
            cases stepped
            exact .inr ⟨.interfere .failed, advanced⟩
        · cases stepped
      · cases stepped
  | receive =>
      simp only [State.step, State.receive] at stepped
      split at stepped
      · cases stepped
      · split at stepped
        · cases stepped
        next advanced =>
          cases stepped
          exact .inr ⟨_, advanced⟩
  | resolve inner =>
      simp only [State.step, State.resolveStep] at stepped
      split at stepped
      case h_1 | h_2 | h_3 | h_4 => cases stepped
      all_goals
        split at stepped
        · cases stepped
        next advanced =>
          cases stepped
          exact .inr ⟨_, advanced⟩
  | resolveAll queries => exact within.elim

theorem receivedIn_noted {action : Action} (other : action ≠ .receive) :
    receivedIn (s.noted action t).toList = [] := by
  cases action with
  | receive => exact absurd rfl other
  | enqueue | resolveAll => rfl
  | sender ref drop =>
      simp only [State.noted]
      split
      · split <;> rfl
      all_goals rfl
  | resolve inner =>
      simp only [State.noted]
      split <;> rfl

/-- On its way out `ResolveAll` receives nothing more, and ends up failing what is
unsettled. -/
theorem leaving_run {queries : List Resolve.Query} {left : State} {log more : List Note}
    {entries : List Entry} {err : Error} (leaving : Resolve.Leaving entries err left.resolve)
    (run : (accounts parser queries).Reaches Within (left, log) (t, more)) :
    Resolve.Leaving entries err t.resolve ∧ receivedIn more = receivedIn log := by
  have kept : ∀ before old action after,
      Resolve.Leaving entries err before.resolve ∧ receivedIn old = receivedIn log →
      Within (before, old) action → (channel parser queries).step before action = some after →
      Resolve.Leaving entries err after.resolve ∧
        receivedIn (old ++ ((channel parser queries).seen State.noted before action).toList) =
          receivedIn log := by
    rintro before old action after ⟨out, same⟩ within stepped
    rw [Machine.seen_of_step _ stepped]
    have other : action ≠ .receive := by
      rintro rfl
      have received : before.receive parser = some after := stepped
      unfold State.receive at received
      split at received
      · cases received
      · rw [out.not_event] at received
        cases received
    constructor
    · rcases resolve_of_step within stepped with unchanged | ⟨inner, inside⟩
      · rw [unchanged]
        exact out
      · exact out.step inside
    · rw [receivedIn_append, receivedIn_noted other, List.append_nil]
      exact same
  have carried := Machine.Reaches.invariant_logged kept run ⟨leaving, rfl⟩
  exact carried

/-- Every event is accounted for. While the instance is not shut down, what has been
received followed by what is in the channel is what was enqueued, in order, and no call
of `enqueue` has returned without its event among those; an event is dropped only with
the instance shut down, or about to be by the very call that dropped it; every call of
`enqueue` returns without anybody receiving; the cause on record is that of the first
shutdown and stays; and a `ResolveAll` that leaves its wait through `done` fails what is
unsettled with that cause, or with `ErrClosed` when there is none. -/
theorem event_accounting (parser : MessageParser) (queries : List Resolve.Query) {s : State}
    {log : List Note} (reachable : (accounts parser queries).Reachable (s, log)) :
    (s.done = false → receivedIn log ++ s.events = enqueuedIn log ∧
      ∀ ref < s.senders.size, (s.senders.get ref).pc = .returned →
        .enqueued ref (s.senders.get ref).event ∈ log) ∧
    (∀ ref event, .dropped ref event ∈ log →
      s.done = true ∨ (s.senders.get ref).pc = .fail) ∧
    (∀ ref < s.senders.size, ∃ t, (channel parser queries).Reaches (Finishing ref) s t ∧
      (t.senders.get ref).pc = .returned) ∧
    ((shutdownsIn log).head? = if s.done then some s.resolve.inst.cause else none) ∧
    (s.done = true → ∀ t more, (accounts parser queries).Reaches Machine.always (s, log) (t, more) →
      t.done = true ∧ t.resolve.inst.cause = s.resolve.inst.cause) ∧
    ∀ p left, s.resolve.pc = .select p → s.step parser (.resolve .done) = some left →
      ∀ t more ret, (accounts parser queries).Reaches Within (left, log) (t, more) →
        t.resolve.pc = .returned ret →
        ret = Resolve.batchOf (s.resolve.entries.map
          (Entry.fail (s.resolve.inst.cause.getD .errClosed))) := by
  obtain ⟨held, sound⟩ := sound_of_reachable reachable
  refine ⟨?_, ?_, fun ref started => completes_of_held held started, sound.cause, ?_, ?_⟩
  · intro running
    refine ⟨sound.fifo.symm, ?_⟩
    intro ref started back
    rcases sound.returned ref started back with done | enqueued
    · rw [running] at done
      cases done
    · exact enqueued
  · intro ref event member
    exact (sound.dropped ref event member).imp_right And.right
  · intro done t more run
    have kept : ∀ (before : State) (old : List Note) (action : Action) (after : State),
        before.done = true ∧ before.resolve.inst.cause = s.resolve.inst.cause →
        Machine.always (before, old) action →
        (channel parser queries).step before action = some after →
        after.done = true ∧ after.resolve.inst.cause = s.resolve.inst.cause := by
      rintro before old action after ⟨shut, same⟩ _ stepped
      obtain ⟨still, cause⟩ := (moved_of_step stepped).settled shut
      exact ⟨still, cause.trans same⟩
    have carried := Machine.Reaches.invariant_logged kept run ⟨done, rfl⟩
    exact carried
  · intro p left here stepped t more ret run ended
    have inner : ∃ resolve, s.resolve.step parser .done = some resolve ∧
        left = { s with resolve := resolve } := by
      simp only [State.step, State.resolveStep] at stepped
      split at stepped
      · cases stepped
      next resolve advanced =>
        cases stepped
        exact ⟨resolve, advanced, rfl⟩
    obtain ⟨resolve, advanced, rfl⟩ := inner
    exact (leaving_run (Resolve.Leaving.of_done here advanced) run).1.returned ended

/-- `ResolveAll` of one query up to its first wait. -/
def untilWait : List Action :=
  [.resolve .step, .resolve .step, .resolve (.call (.ok (64, Resolve.nxDomainMemory))),
   .resolve (.call (.ok (1, Resolve.nxDomainMemory))),
   .resolve (.call (.ok (0, Resolve.nxDomainMemory))), .resolve .step,
   .resolve (.call (.ok (128, Resolve.nxDomainMemory))),
   .resolve (.call (.ok (0, Resolve.nxDomainMemory))), .resolve .step]

/-- Two events overtake each other before their selects, and one is received. -/
theorem event_accounting_overtaking :
    ∃ s log, (accounts emptyParser [⟨[97], 1⟩]).run (accounts emptyParser [⟨[97], 1⟩]).initial
        (untilWait ++ [.enqueue (.timer 7), .enqueue (.timer 8), .sender 1 false,
          .sender 0 false, .receive]) = some (s, log) ∧
      s.done = false ∧ receivedIn log = [.timer 8] ∧ s.events = [.timer 7] ∧
      receivedIn log ++ s.events = enqueuedIn log := by
  obtain ⟨s, log, ran, running, received, queue⟩ : ∃ s log,
      (accounts emptyParser [⟨[97], 1⟩]).run (accounts emptyParser [⟨[97], 1⟩]).initial
        (untilWait ++ [.enqueue (.timer 7), .enqueue (.timer 8), .sender 1 false,
          .sender 0 false, .receive]) = some (s, log) ∧
      s.done = false ∧ receivedIn log = [.timer 8] ∧ s.events = [.timer 7] :=
    ⟨_, _, rfl, rfl, rfl, rfl⟩
  have accounted := event_accounting emptyParser [⟨[97], 1⟩] (Machine.reaches_of_run ran)
  exact ⟨s, log, ran, running, received, queue, (accounted.1 running).1⟩

end UnboundWasm.Host.Events
