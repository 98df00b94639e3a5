import Mathlib.Data.Finset.Dedup
import Mathlib.Data.List.Count
import UnboundWasm.Guest.EventList

/-!
# Dispatch of events

What `uw_io_ready` and `uw_timer_fired` promise, whatever the callbacks do: no event is
called twice in a delivery and none is left out, what is freed is given back once and not
used afterwards, and a delivery ends unless its callbacks create events for ever.
-/

namespace UnboundWasm.Guest

open UnboundWasm.Lib

namespace Backend

variable {b after : Backend} {action : Step} {event other : Nat}

/-! ## The log -/

theorem happening_of_step (stepped : b.step action = some after) :
    b.happening action = b.noted action after := by
  unfold happening
  exact Machine.seen_of_step noted stepped

theorem noted_of_change {op : Op} {change : Event → Event}
    (changes : op.change = some (event, change)) (kept : ∀ event, op ≠ .free event) :
    (∀ b after, noted b (.op op) after = none) ∨
      ∀ b after, noted b (.op op) after = some (.added event) := by
  cases op with
  | socket | close | newEvent => cases changes
  | free event => exact absurd rfl (kept event)
  | addBits | delBits | setFd | del | delTimer => exact .inl fun _ _ => rfl
  | add | addTimer =>
      cases changes
      exact .inr fun _ _ => rfl

theorem released_free {e : Event} (unreleased : e.released = false) :
    e.free.released = !e.firing := by
  cases firing : e.firing with
  | true => simp [Event.free, firing, Event.del, Event.stopTimer, unreleased]
  | false => simp [Event.free, firing]

theorem noted_of_returned {d : Option Delivery} (here : b.running = .callback d event) :
    b.noted .ret after =
      if (after.events.get event).released then some (.released event) else none := by
  simp only [noted, here]

variable {log : List Happening}

/-- The log says which events were created, freed and released. -/
structure Ledger (b : Backend) (log : List Happening) : Prop where
  born : ∀ event, .created event ∈ log ↔ event < b.events.size
  gone : ∀ event, (∃ atOnce, .freed event atOnce ∈ log) ↔
    (b.events.get event).freed = true ∨ (b.events.get event).released = true
  released : ∀ event, log.countP (Happening.releases event) =
    if (b.events.get event).released then 1 else 0

theorem initial_ledger : Ledger initial [] := by
  constructor <;> simp [initial, Heap.empty, Event.new]

/-- A step that creates, frees and releases nothing. -/
theorem Ledger.frame (ledger : b.Ledger log) {note : Option Happening}
    (neutral : ∀ happening ∈ note, happening.isNeutral = true)
    (size : after.events.size = b.events.size)
    (freed : ∀ event, (after.events.get event).freed = (b.events.get event).freed)
    (released : ∀ event, (after.events.get event).released = (b.events.get event).released) :
    after.Ledger (log ++ note.toList) := by
  have created (event : Nat) : .created event ∉ note.toList := by
    intro member
    cases neutral _ (Option.mem_toList.mp member)
  have frees (event : Nat) (atOnce : Bool) : .freed event atOnce ∉ note.toList := by
    intro member
    cases neutral _ (Option.mem_toList.mp member)
  have releases (event : Nat) : note.toList.countP (Happening.releases event) = 0 := by
    rw [List.countP_eq_zero]
    intro happening member
    have harmless := neutral happening (Option.mem_toList.mp member)
    revert harmless
    cases happening <;> simp [Happening.isNeutral, Happening.releases]
  constructor
  case born =>
    intro event
    rw [List.mem_append, ledger.born, size]
    simp [created]
  case gone =>
    intro event
    simp only [List.mem_append, frees, or_false, freed, released]
    exact ledger.gone event
  case released =>
    intro event
    rw [List.countP_append, releases, released]
    exact ledger.released event

theorem Ledger.created (ledger : b.Ledger log) (linked : b.Linked) (fd : Int)
    (bits : BitVec 16) :
    Ledger { b with events := b.events.alloc (.new fd bits), list := b.events.size :: b.list }
      (log ++ [.created b.events.size]) := by
  have unborn := linked.unborn b.events.size (Nat.le_refl _)
  constructor
  case born =>
    intro event
    rw [List.mem_append, ledger.born, List.mem_singleton, Happening.created.injEq]
    simp only [Heap.size_alloc]
    omega
  case gone =>
    intro event
    have old := ledger.gone event
    simp only [List.mem_append, List.mem_singleton, reduceCtorEq, or_false, Heap.get_alloc]
    rw [old]
    split
    next same => simp [same, unborn, Event.new]
    · rfl
  case released =>
    intro event
    have old := ledger.released event
    rw [List.countP_append, old]
    simp only [Heap.get_alloc]
    by_cases same : event = b.events.size
    · simp [same, unborn, Event.new, Happening.releases]
    · simp [same, Happening.releases]

theorem Ledger.freed (ledger : b.Ledger log) (alive : b.alive event = true) :
    Ledger { b with events := b.events.modify event Event.free, list := b.list.erase event }
      (log ++ [.freed event (b.events.get event).free.released]) := by
  obtain ⟨below, unfreed, unreleased⟩ := alive_iff.mp alive
  constructor
  case born =>
    intro other
    simpa using ledger.born other
  case gone =>
    intro other
    simp only [List.mem_append, List.mem_singleton, Happening.freed.injEq, Heap.get_modify]
    split
    next same =>
      subst same
      have gone : (b.events.get other).free.freed = true ∨
          (b.events.get other).free.released = true := by
        unfold Event.free
        split <;> simp
      simp [gone]
    next distinct => simp [distinct, ledger.gone other]
  case released =>
    intro other
    rw [List.countP_append, ledger.released other]
    simp only [Heap.get_modify]
    by_cases same : other = event
    · simp [same, unreleased, Happening.releases, List.countP_singleton]
    · simp [Happening.releases, same, Ne.symm same]

theorem Ledger.returned (ledger : b.Ledger log) (linked : b.Linked) {d : Option Delivery}
    (here : b.running = .callback d event) :
    (b.ret d event).Ledger (log ++ (b.noted .ret (b.ret d event)).toList) := by
  obtain ⟨below, unreleased⟩ := linked.held d event here
  have released : ((b.ret d event).events.get event).released = (b.events.get event).freed := by
    simp only [ret, Heap.get_modify_self]
    split
    next freed => exact freed.symm
    next unfreed => simp [unreleased, unfreed]
  rw [noted_of_returned here, released]
  cases freed : (b.events.get event).freed with
  | false =>
      have kept (other : Nat) : ((b.ret d event).events.get other).freed =
            (b.events.get other).freed ∧
          ((b.ret d event).events.get other).released = (b.events.get other).released := by
        simp only [ret, Heap.get_modify]
        split
        next same => simp [same, freed]
        · exact ⟨rfl, rfl⟩
      exact ledger.frame (by simp) rfl (fun other => (kept other).1) (fun other => (kept other).2)
  | true =>
      simp only [if_true, Option.toList_some]
      constructor
      case born =>
        intro other
        simpa [ret] using ledger.born other
      case gone =>
        intro other
        have old := ledger.gone other
        simp only [List.mem_append, List.mem_singleton, reduceCtorEq, or_false, ret,
          Heap.get_modify]
        rw [old]
        split
        next same => simp [same, freed]
        · rfl
      case released =>
        intro other
        rw [List.countP_append, ledger.released other]
        simp only [ret, Heap.get_modify]
        by_cases same : other = event
        · simp [same, freed, unreleased, Happening.releases]
        · simp [Happening.releases, same, Ne.symm same]

theorem Ledger.moved (ledger : b.Ledger log) (linked : b.Linked) (moved : Moved b action after) :
    after.Ledger (log ++ (b.noted action after).toList) := by
  cases moved with
  | table untouched same generation quiet =>
      rw [quiet]
      exact ledger.frame (by simp) (by rw [same.events]) (fun _ => by rw [same.events])
        (fun _ => by rw [same.events])
  | created fd bits => exact ledger.created linked fd bits
  | @changed op event change changes kept alive =>
      have flags := kept_of_change changes kept
      refine ledger.frame ?_ rfl ?_ ?_
      · rcases noted_of_change changes kept with none | added
        · simp [none]
        · simp [added, Happening.isNeutral]
      · intro other
        exact Heap.get_modify_frame _ _ _ _ Event.freed fun e => (flags e).freed
      · intro other
        exact Heap.get_modify_frame _ _ _ _ Event.released fun e => (flags e).released
  | freed alive =>
      simp only [noted, Heap.get_modify_self, Option.toList_some]
      exact ledger.freed alive
  | unknown | began | finished =>
      exact ledger.frame (by simp [noted]) rfl (fun _ => rfl) (fun _ => rfl)
  | unmatched idle =>
      exact ledger.frame (by simp [noted, idle]) rfl (fun _ => rfl) (fun _ => rfl)
  | @fired d event here found =>
      have kept (other : Nat) : ((b.fire d event).events.get other).freed =
            (b.events.get other).freed ∧
          ((b.fire d event).events.get other).released = (b.events.get other).released := by
        simp only [fire, Heap.get_modify]
        split
        next same => simp [same]
        · exact ⟨rfl, rfl⟩
      exact ledger.frame (by simp [noted, fire, Happening.isNeutral]) rfl
        (fun other => (kept other).1) (fun other => (kept other).2)
  | @timed tid event idle found =>
      refine ledger.frame (by simp [noted, Happening.isNeutral]) rfl ?_ ?_
      all_goals
        intro other
        simp only [Heap.get_modify]
        split
        next same => rw [same]
        · rfl
  | returned here => exact ledger.returned linked here

/-! ## Deliveries -/

theorem lastDispatch_fire (b : Backend) (d : Delivery) (event other : Nat) :
    ((b.fire d event).events.get other).lastDispatch =
      if other = event then d.gen else (b.events.get other).lastDispatch := by
  simp only [fire, Heap.get_modify]
  split <;> rfl

theorem lastDispatch_ret (b : Backend) (d : Option Delivery) (event other : Nat) :
    ((b.ret d event).events.get other).lastDispatch = (b.events.get other).lastDispatch := by
  simp only [ret, Heap.get_modify]
  split
  next same =>
    rw [same]
    split <;> rfl
  · rfl

/-- `last_dispatch` says which events the current delivery has called. What it says of the
others is right as long as no two deliveries have had the same generation. -/
structure Stamped (b : Backend) (log : List Happening) : Prop where
  current : ∀ d, b.delivery = some d → d.gen = b.generation % 2 ^ 64 ∧ 0 < b.generation
  later : ∀ number event, b.generation < number →
    log.countP (Happening.calls number event) = 0
  once : ∀ number event, log.countP (Happening.calls number event) ≤ 1
  called : ∀ event, 0 < log.countP (Happening.calls b.generation event) →
    (b.events.get event).lastDispatch = b.generation % 2 ^ 64
  stamps : b.generation < 2 ^ 64 → ∀ event, (b.events.get event).lastDispatch ≤ b.generation
  told : b.generation < 2 ^ 64 → ∀ event,
    (b.events.get event).lastDispatch = b.generation → 0 < b.generation →
    0 < log.countP (Happening.calls b.generation event)

theorem initial_stamped : Stamped initial [] := by
  constructor <;> simp [initial, Heap.empty, Event.new, delivery]

/-- A step that invokes nothing and begins no delivery. -/
theorem Stamped.frame (stamped : b.Stamped log) {note : Option Happening}
    (uncalled : ∀ happening ∈ note, ∀ number event, happening.calls number event = false)
    (generation : after.generation = b.generation)
    (stamps : ∀ event,
      (after.events.get event).lastDispatch = (b.events.get event).lastDispatch)
    (delivery : ∀ d, after.delivery = some d → b.delivery = some d) :
    after.Stamped (log ++ note.toList) := by
  have counted (number event : Nat) :
      (log ++ note.toList).countP (Happening.calls number event) =
        log.countP (Happening.calls number event) := by
    rw [List.countP_append, Nat.add_eq_left, List.countP_eq_zero]
    intro happening member
    simp [uncalled happening (Option.mem_toList.mp member)]
  constructor
  case current =>
    intro d inside
    rw [generation]
    exact stamped.current d (delivery d inside)
  case later =>
    intro number event
    rw [counted, generation]
    exact stamped.later number event
  case once =>
    intro number event
    rw [counted]
    exact stamped.once number event
  case called =>
    intro event
    rw [counted, generation, stamps]
    exact stamped.called event
  case stamps =>
    intro few event
    rw [generation] at few ⊢
    rw [stamps]
    exact stamped.stamps few event
  case told =>
    intro few event
    rw [generation] at few ⊢
    rw [counted, stamps]
    exact stamped.told few event

theorem Stamped.began (stamped : b.Stamped log) (sid fd : Int) (bits : BitVec 16) :
    Stamped
      { b with
        generation := b.generation + 1
        running := .scanning ⟨sid, fd, bits, (b.generation + 1) % 2 ^ 64⟩ } log := by
  have unused (event : Nat) : log.countP (Happening.calls (b.generation + 1) event) = 0 :=
    stamped.later _ event (Nat.lt_succ_self _)
  constructor
  case current =>
    intro d inside
    cases inside
    exact ⟨rfl, Nat.succ_pos _⟩
  case later =>
    intro number event above
    exact stamped.later number event (Nat.lt_of_succ_lt above)
  case once => exact stamped.once
  case called =>
    intro event called
    rw [unused event] at called
    cases called
  case stamps =>
    intro few event
    exact (stamped.stamps (Nat.lt_of_succ_lt few) event).trans (Nat.le_succ _)
  case told =>
    intro few event same
    have old := stamped.stamps (Nat.lt_of_succ_lt few) event
    dsimp only at same
    omega

theorem Stamped.fired (stamped : b.Stamped log) {d : Delivery} (here : b.running = .scanning d)
    (found : b.scanTarget d = some event) :
    (b.fire d event).Stamped
      (log ++ [.called b.generation event (b.persistent event)]) := by
  obtain ⟨current, positive⟩ := stamped.current d (by rw [delivery, here])
  have ready := (mem_of_scanTarget found).2
  simp only [Event.isReady, Bool.and_eq_true, bne_iff_ne] at ready
  have uncalled : log.countP (Happening.calls b.generation event) = 0 := by
    by_contra called
    have stamp := stamped.called event (Nat.pos_of_ne_zero called)
    exact ready.2 (stamp.trans current.symm)
  have counted (number other : Nat) :
      (log ++ [Happening.called b.generation event (b.persistent event)]).countP
          (Happening.calls number other) =
        log.countP (Happening.calls number other) +
          if b.generation = number ∧ event = other then 1 else 0 := by
    simp [List.countP_append, List.countP_singleton, Happening.calls]
  have stamp := lastDispatch_fire b d event
  rw [current] at stamp
  have same : (b.fire d event).generation = b.generation := rfl
  constructor
  case current =>
    intro d' inside
    cases inside
    exact ⟨current, positive⟩
  case later =>
    intro number other above
    rw [same] at above
    rw [counted, if_neg (by omega), stamped.later number other above]
  case once =>
    intro number other
    rw [counted]
    split
    next both => rw [← both.1, ← both.2, uncalled]
    · exact stamped.once number other
  case called =>
    intro other
    rw [same, counted, stamp]
    by_cases own : other = event
    · simp [own]
    · simpa [own, Ne.symm own] using stamped.called other
  case stamps =>
    intro few other
    rw [same] at few ⊢
    rw [stamp]
    split
    · exact Nat.mod_le _ _
    · exact stamped.stamps few other
  case told =>
    intro few other
    rw [same] at few ⊢
    rw [counted, stamp]
    by_cases own : other = event
    · simp [own]
    · simpa [own, Ne.symm own] using stamped.told few other

theorem Stamped.moved (stamped : b.Stamped log) (linked : b.Linked)
    (moved : Moved b action after) : after.Stamped (log ++ (b.noted action after).toList) := by
  cases moved with
  | table untouched same generation quiet =>
      rw [quiet]
      refine stamped.frame (by simp) generation (fun _ => by rw [same.events]) ?_
      simp only [delivery, same.running]
      exact fun _ inside => inside
  | created fd bits =>
      refine stamped.frame (by simp [noted, Happening.calls]) rfl ?_ (fun _ inside => inside)
      intro event
      have unborn := linked.unborn b.events.size (Nat.le_refl _)
      simp only [Heap.get_alloc]
      split
      next same => simp [same, unborn, Event.new]
      · rfl
  | @changed op event change changes kept alive =>
      refine stamped.frame ?_ rfl ?_ (fun _ inside => inside)
      · rcases noted_of_change changes kept with none | added
        · simp [none]
        · simp [added, Happening.calls]
      · intro other
        exact Heap.get_modify_frame _ _ _ _ Event.lastDispatch (lastDispatch_change changes)
  | @freed event alive =>
      refine stamped.frame (by simp [noted, Happening.calls]) rfl ?_ (fun _ inside => inside)
      have changes : (Op.free event).change = some (event, Event.free) := rfl
      intro other
      exact Heap.get_modify_frame _ _ _ _ Event.lastDispatch (lastDispatch_change changes)
  | unknown => exact stamped.frame (by simp [noted]) rfl (fun _ => rfl) (fun _ inside => inside)
  | began idle =>
      rw [noted, Option.toList_none, List.append_nil]
      exact stamped.began _ _ _
  | unmatched idle =>
      exact stamped.frame (by simp [noted, idle]) rfl (fun _ => rfl) (fun _ inside => inside)
  | finished => exact stamped.frame (by simp [noted]) rfl (fun _ => rfl) (by simp [delivery])
  | fired here found => exact stamped.fired here found
  | @timed tid event idle found =>
      refine stamped.frame (by simp [noted, Happening.calls]) rfl ?_ (by simp [delivery])
      intro other
      simp only [Heap.get_modify]
      split
      next same => rw [same]
      · rfl
  | @returned d event here =>
      refine stamped.frame ?_ rfl (lastDispatch_ret b d event) ?_
      · rw [noted_of_returned here]
        split <;> simp [Happening.calls]
      · cases d <;> simp [delivery, ret, here]

/-! ## Whole runs -/

/-- The invariant of every run. -/
structure Kept (b : Backend) (log : List Happening) : Prop where
  linked : b.Linked
  ledger : b.Ledger log
  stamped : b.Stamped log

theorem initial_kept : Kept initial [] := ⟨initial_linked, initial_ledger, initial_stamped⟩

theorem Kept.step (kept : b.Kept log) (stepped : b.step action = some after) :
    after.Kept (log ++ (b.happening action).toList) := by
  have moved := moved_of_step stepped
  rw [happening_of_step stepped]
  exact ⟨kept.linked.moved moved, kept.ledger.moved kept.linked moved,
    kept.stamped.moved kept.linked moved⟩

theorem kept_of_reachable (reachable : dispatch.Reachable (b, log)) : b.Kept log :=
  Machine.Reaches.invariant_logged
    (fun _ _ _ _ (kept : Kept _ _) _ stepped => kept.step stepped) reachable initial_kept

theorem Kept.unreleased (kept : b.Kept log) (unreleased : (b.events.get event).released = false) :
    log.countP (Happening.releases event) = 0 := by
  rw [kept.ledger.released, unreleased]
  rfl

/-- No step looks into an event that was given back. -/
theorem Kept.unread (kept : b.Kept log) (stepped : b.step action = some after)
    (read : event ∈ b.reads action) : log.countP (Happening.releases event) = 0 := by
  have ofAlive (alive : b.alive event = true) := kept.unreleased (alive_iff.mp alive).2.2
  have ofMember (member : event ∈ b.list) := ofAlive ((kept.linked.listed event).mp member)
  cases moved_of_step stepped with
  | @table op _ untouched =>
      cases op with
      | socket | close | newEvent => cases read
      | _ => cases untouched
  | created => cases read
  | @changed op other change changes unfreed alive =>
      have only : event = other := by
        cases op with
        | socket | close | newEvent => cases changes
        | free other => exact absurd rfl (unfreed other)
        | _ =>
            cases changes
            exact List.mem_singleton.mp read
      exact ofAlive (only ▸ alive)
  | @freed other alive =>
      rcases List.mem_cons.mp read with rfl | member
      · exact ofAlive alive
      · exact ofMember member
  | unknown | began => cases read
  | finished | fired | unmatched | timed => exact ofMember read
  | @returned d other here =>
      simp only [reads, here, List.mem_singleton] at read
      exact kept.unreleased (read ▸ (kept.linked.held d other here).2)

/-- While the callback of an event is on the stack, only its return gives the event back. -/
theorem Kept.offStack (kept : b.Kept log) (stepped : b.step action = some after)
    {d : Option Delivery} (here : b.running = .callback d event) {happening : Happening}
    (happened : b.happening action = some happening) (releases : happening.releases event = true) :
    action = .ret := by
  have unreleased := (kept.linked.held d event here).2
  have firing := (kept.linked.onStack event unreleased).mpr ⟨d, here⟩
  rw [happening_of_step stepped] at happened
  cases moved_of_step stepped with
  | table untouched same generation quiet =>
      rw [quiet] at happened
      cases happened
  | created =>
      cases happened
      cases releases
  | changed changes unfreed alive =>
      rcases noted_of_change changes unfreed with none | added
      · rw [none] at happened
        cases happened
      · rw [added] at happened
        cases happened
        cases releases
  | freed alive =>
      simp only [noted, Heap.get_modify_self] at happened
      cases happened
      simp only [Happening.releases, Bool.and_eq_true, decide_eq_true_eq] at releases
      rw [releases.1, released_free unreleased, firing] at releases
      cases releases.2
  | unknown | began => cases happened
  | finished there | fired there =>
      rw [here] at there
      cases there
  | unmatched idle | timed idle =>
      rw [here] at idle
      cases idle
  | returned => rfl

theorem step_of_scanning {d : Delivery} (here : b.running = .scanning d)
    (stepped : b.step action = some after) : action = .scan ∧ after = b.scan d := by
  unfold step at stepped
  rw [here] at stepped
  cases action with
  | scan =>
      cases stepped
      exact ⟨rfl, rfl⟩
  | _ => cases stepped

theorem scan_cases (b : Backend) (d : Delivery) :
    (b.scanTarget d = none ∧ b.scan d = { b with running := .idle }) ∨
      ∃ event, b.scanTarget d = some event ∧ b.scan d = b.fire d event := by
  unfold scan
  split
  next none => exact .inl ⟨none, rfl⟩
  next event found => exact .inr ⟨event, found, rfl⟩

/-- A delivery ends when every event it is for has been called. -/
def Complete (b : Backend) (log : List Happening) : Prop :=
  ∀ d action after, b.running = .scanning d → b.step action = some after →
    after.running = .idle → ∀ event ∈ after.list, (after.events.get event).active = true →
    (after.events.get event).fd = d.fd → (after.events.get event).bits &&& d.bits ≠ 0 →
    ∃ persistent, .called b.generation event persistent ∈ log

theorem Kept.complete (kept : b.Kept log) (few : b.generation < 2 ^ 64) : b.Complete log := by
  intro d action after here stepped ends event member active fd bits
  obtain ⟨rfl, rfl⟩ := step_of_scanning here stepped
  rcases scan_cases b d with ⟨none, finished⟩ | ⟨other, found, fired⟩
  · rw [finished] at member active fd bits
    have alive := alive_iff.mp ((kept.linked.listed event).mp member)
    have idle : (b.events.get event).firing = false := by
      have quiet := kept.linked.onStack event alive.2.2
      simpa [here] using quiet
    have unready := List.find?_eq_none.mp none event member
    have dispatched : (b.events.get event).lastDispatch = d.gen := by
      simp [Event.isReady, idle] at unready
      exact unready active fd bits
    obtain ⟨current, positive⟩ := kept.stamped.current d (by rw [delivery, here])
    rw [current, Nat.mod_eq_of_lt few] at dispatched
    have called := kept.stamped.told few event dispatched positive
    obtain ⟨happening, logged, calls⟩ := List.countP_pos_iff.mp called
    cases happening with
    | called number event' persistent =>
        simp only [Happening.calls, Bool.and_eq_true, decide_eq_true_eq] at calls
        obtain ⟨rfl, rfl⟩ := calls
        exact ⟨persistent, logged⟩
    | _ => cases calls
  · rw [fired] at ends
    cases ends

/-! ## Termination -/

/-- The events of the list the current delivery has not called. -/
def pending (b : Backend) : Finset Nat :=
  b.list.toFinset.filter fun event => (b.events.get event).lastDispatch ≠ b.generation % 2 ^ 64

theorem mem_pending :
    event ∈ b.pending ↔
      event ∈ b.list ∧ (b.events.get event).lastDispatch ≠ b.generation % 2 ^ 64 := by
  simp [pending]

theorem pending_fire (stamped : b.Stamped log) {d : Delivery} (here : b.running = .scanning d)
    (found : b.scanTarget d = some event) : (b.fire d event).pending ⊂ b.pending := by
  obtain ⟨current, -⟩ := stamped.current d (by rw [delivery, here])
  obtain ⟨member, ready⟩ := mem_of_scanTarget found
  simp only [Event.isReady, Bool.and_eq_true, bne_iff_ne] at ready
  rw [Finset.ssubset_iff_of_subset]
  · refine ⟨event, mem_pending.mpr ⟨member, current ▸ ready.2⟩, ?_⟩
    rw [mem_pending, lastDispatch_fire, if_pos rfl]
    exact fun still => still.2 current
  · intro other left
    rw [mem_pending, lastDispatch_fire] at left
    refine mem_pending.mpr ⟨left.1, ?_⟩
    split at left
    · exact absurd current left.2
    · exact left.2

/-- Within a delivery only `base_new_event` adds to what is left to call. -/
theorem pending_subset_of_moved (stamped : b.Stamped log) (moved : Moved b action after)
    (running : b.running ≠ .idle) (old : ∀ fd bits, action ≠ .op (.newEvent fd bits)) :
    after.pending ⊆ b.pending := by
  have shrunk (stamps : ∀ event,
        (after.events.get event).lastDispatch = (b.events.get event).lastDispatch)
      (generation : after.generation = b.generation) (fewer : after.list ⊆ b.list) :
      after.pending ⊆ b.pending := by
    intro event left
    rw [mem_pending, stamps, generation] at left
    exact mem_pending.mpr ⟨fewer left.1, left.2⟩
  cases moved with
  | table untouched same generation =>
      refine shrunk (fun _ => by rw [same.events]) generation ?_
      rw [same.list]
      exact List.Subset.refl _
  | created fd bits => exact absurd rfl (old fd bits)
  | changed changes =>
      refine shrunk ?_ rfl (List.Subset.refl _)
      intro other
      exact Heap.get_modify_frame _ _ _ _ Event.lastDispatch (lastDispatch_change changes)
  | @freed event alive =>
      have changes : (Op.free event).change = some (event, Event.free) := rfl
      refine shrunk ?_ rfl List.erase_subset
      intro other
      exact Heap.get_modify_frame _ _ _ _ Event.lastDispatch (lastDispatch_change changes)
  | unknown | unmatched | finished => exact Finset.Subset.refl _
  | began idle | timed idle => exact absurd idle running
  | fired here found => exact (pending_fire stamped here found).subset
  | returned here => exact shrunk (lastDispatch_ret b _ _) rfl (List.Subset.refl _)

/-- A delivery whose callbacks all return goes on for ever only if events are created for
ever. -/
theorem creates_of_forever (reachable : dispatch.Reachable (b, log))
    (run : backend.Forever b) (unfinished : ∀ time, (run.state time).running ≠ .idle)
    (returns : ∀ time, ∃ later ≥ time, ∀ d event, (run.state later).running ≠ .callback d event)
    (time : Nat) : ∃ later ≥ time, ∃ fd bits, run.action later = .op (.newEvent fd bits) := by
  have preserved : ∀ (before : Backend) (action : Step) (after : Backend),
      (∃ log, before.Kept log) → backend.step before action = some after →
      ∃ log, after.Kept log := by
    rintro before action after ⟨log, kept⟩ stepped
    exact ⟨_, kept.step stepped⟩
  have kept (time : Nat) : ∃ log, (run.state time).Kept log :=
    run.invariant preserved ⟨log, kept_of_reachable reachable⟩ time
  have scans : ∀ time, ∃ later ≥ time, ∃ d, (run.state later).running = .scanning d := by
    intro time
    obtain ⟨later, after, outside⟩ := returns time
    refine ⟨later, after, ?_⟩
    cases here : (run.state later).running with
    | idle => exact absurd here (unfinished later)
    | scanning d => exact ⟨d, rfl⟩
    | callback d event => exact absurd here (outside d event)
  apply run.raised_again (fun b => b.pending.card) _ _ scans
  · intro time old
    obtain ⟨log, kept⟩ := kept time
    apply Finset.card_le_card
    apply pending_subset_of_moved kept.stamped (moved_of_step (run.steps time)) (unfinished time)
    intro fd bits created
    exact old ⟨fd, bits, created⟩
  · rintro time old ⟨d, here⟩
    obtain ⟨log, kept⟩ := kept time
    obtain ⟨-, scanned⟩ := step_of_scanning here (run.steps time)
    have goesOn := unfinished (time + 1)
    rcases scan_cases (run.state time) d with ⟨-, finished⟩ | ⟨event, found, fired⟩
    · rw [scanned, finished] at goesOn
      exact absurd rfl goesOn
    · rw [scanned, fired]
      exact Finset.card_lt_card (pending_fire kept.stamped here found)

/-- What dispatch promises at every moment of a run. -/
structure Exact (b : Backend) (log : List Happening) : Prop where
  /-- No delivery calls an event twice. -/
  once : ∀ number event, log.countP (Happening.calls number event) ≤ 1
  /-- Every delivery has a number of its own. -/
  fresh : ∀ sid flags after d, b.step (.ioReady sid flags) = some after →
    after.running = .scanning d → ∀ event,
    log.countP (Happening.calls after.generation event) = 0
  /-- A timer calls one event. -/
  alone : ∀ event action after, b.running = .callback none event → b.step action = some after →
    ∀ happening, b.happening action = some happening → happening.isInvocation = false
  /-- Until the generation wraps around, a delivery leaves no event out. -/
  complete : b.generation < 2 ^ 64 → b.Complete log
  /-- Nothing is given back twice, and nothing that was not freed. -/
  released : ∀ event, log.countP (Happening.releases event) ≤ 1 ∧
    (0 < log.countP (Happening.releases event) → ∃ atOnce, .freed event atOnce ∈ log)
  /-- What was freed is given back, unless its callback is still on the stack. -/
  freed : ∀ event atOnce, .freed event atOnce ∈ log → (∀ d, b.running ≠ .callback d event) →
    log.countP (Happening.releases event) = 1
  /-- While the callback of an event is on the stack, only its return gives the event back. -/
  offStack : ∀ d event action after, b.running = .callback d event →
    b.step action = some after → ∀ happening, b.happening action = some happening →
    happening.releases event = true → action = .ret
  /-- No step looks into an event that was given back. -/
  unread : ∀ action after, b.step action = some after → ∀ event ∈ b.reads action,
    log.countP (Happening.releases event) = 0
  nodup : b.list.Nodup
  listed : ∀ event, event ∈ b.list ↔
    .created event ∈ log ∧ ∀ atOnce, .freed event atOnce ∉ log
  /-- Dispatch is never stuck. -/
  proceeds : b.running ≠ .idle → ∃ after, b.step .scan = some after ∨ b.step .ret = some after
  /-- It goes on for ever only if a callback does or events are created for ever. -/
  terminates : ∀ run : backend.Forever b, (∀ time, (run.state time).running ≠ .idle) →
    (∀ time, ∃ later ≥ time, ∀ d event, (run.state later).running ≠ .callback d event) →
    ∀ time, ∃ later ≥ time, ∃ fd bits, run.action later = .op (.newEvent fd bits)

theorem Kept.fresh (kept : b.Kept log) {sid : Int} {flags : Nat} {d : Delivery}
    (stepped : b.step (.ioReady sid flags) = some after) (begins : after.running = .scanning d) :
    log.countP (Happening.calls after.generation event) = 0 := by
  have idle : b.running = .idle := by
    unfold Backend.step at stepped
    cases here : b.running with
    | idle => rfl
    | _ =>
        rw [here] at stepped
        cases stepped
  cases moved_of_step stepped with
  | unknown =>
      rw [idle] at begins
      cases begins
  | began =>
      cases begins
      exact kept.stamped.later _ _ (Nat.lt_succ_self _)

theorem uninvoked_of_timed (here : b.running = .callback none event)
    (stepped : b.step action = some after) {happening : Happening}
    (happened : b.happening action = some happening) : happening.isInvocation = false := by
  rw [happening_of_step stepped] at happened
  cases moved_of_step stepped with
  | table untouched same generation quiet =>
      rw [quiet] at happened
      cases happened
  | created | freed =>
      cases happened
      rfl
  | changed changes unfreed alive =>
      rcases noted_of_change changes unfreed with none | added
      · rw [none] at happened
        cases happened
      · rw [added] at happened
        cases happened
        rfl
  | unknown | began => cases happened
  | finished there | fired there =>
      rw [here] at there
      cases there
  | unmatched idle | timed idle =>
      rw [here] at idle
      cases idle
  | returned there =>
      rw [noted_of_returned there] at happened
      split at happened
      · cases happened
        rfl
      · cases happened

theorem Kept.freed_released (kept : b.Kept log) {atOnce : Bool}
    (freed : .freed event atOnce ∈ log) (outside : ∀ d, b.running ≠ .callback d event) :
    log.countP (Happening.releases event) = 1 := by
  rw [kept.ledger.released]
  have gone := (kept.ledger.gone event).mp ⟨atOnce, freed⟩
  cases released : (b.events.get event).released with
  | true => rfl
  | false =>
      rw [released] at gone
      have deferred := kept.linked.deferred event (by simpa using gone) released
      obtain ⟨d, here⟩ := (kept.linked.onStack event released).mp deferred
      exact absurd here (outside d)

/-- Events are dispatched once in a delivery and given back once, whatever the callbacks
do. -/
theorem dispatch_exact (reachable : dispatch.Reachable (b, log)) : b.Exact log := by
  have kept := kept_of_reachable reachable
  constructor
  case once => exact kept.stamped.once
  case fresh =>
    intro sid flags after d stepped begins event
    exact kept.fresh stepped begins
  case alone =>
    intro event action after here stepped happening happened
    exact uninvoked_of_timed here stepped happened
  case complete => exact kept.complete
  case released =>
    intro event
    rw [kept.ledger.released]
    cases released : (b.events.get event).released with
    | true => exact ⟨Nat.le_refl _, fun _ => (kept.ledger.gone event).mpr (.inr released)⟩
    | false => simp
  case freed =>
    intro event atOnce freed outside
    exact kept.freed_released freed outside
  case offStack =>
    intro d event action after here stepped happening happened releases
    exact kept.offStack stepped here happened releases
  case unread =>
    intro action after stepped event read
    exact kept.unread stepped read
  case nodup => exact kept.linked.nodup
  case listed =>
    intro event
    have gone := kept.ledger.gone event
    rw [kept.linked.listed, alive_iff, kept.ledger.born, ← not_exists, gone]
    simp
  case proceeds =>
    intro running
    cases here : b.running with
    | idle => exact absurd here running
    | scanning d => exact ⟨b.scan d, .inl (by simp only [step, here])⟩
    | callback d event => exact ⟨b.ret d event, .inr (by simp only [step, here])⟩
  case terminates =>
    intro run unfinished returns
    exact creates_of_forever reachable run unfinished returns

end Backend

/-- Two readers of one socket; the callback of the second frees the first and itself. -/
def freeInCallback : List Step :=
  [.op .socket, .op (.newEvent fdBase evRead), .op (.newEvent fdBase (evRead ||| evPersist)),
    .op (.add 0 none), .op (.add 1 none), .ioReady 1 abiRead, .scan, .op (.free 0), .op (.free 1),
    .ret, .scan]

theorem dispatch_exact_freeInCallback :
    ∃ b, dispatch.run dispatch.initial freeInCallback =
        some (b, [.created 0, .created 1, .added 0, .added 1, .called 1 1 true, .freed 0 true,
          .freed 1 false, .released 1]) ∧
      b.Exact [.created 0, .created 1, .added 0, .added 1, .called 1 1 true, .freed 0 true,
          .freed 1 false, .released 1] := by
  obtain ⟨b, ran⟩ : ∃ b, dispatch.run dispatch.initial freeInCallback =
      some (b, [.created 0, .created 1, .added 0, .added 1, .called 1 1 true, .freed 0 true,
        .freed 1 false, .released 1]) := ⟨_, rfl⟩
  exact ⟨b, ran, Backend.dispatch_exact (Machine.reaches_of_run ran)⟩

/-- A delivery that reports nothing moves the generation on. -/
theorem Backend.reaches_of_blind {b : Backend} (idle : b.running = .idle) {sid : Int}
    (known : 0 ≤ fdForSid b.slots sid) (log : List Happening) (count : Nat) :
    dispatch.Reaches Machine.always (b, log)
      ({ b with generation := b.generation + count }, log) := by
  induction count with
  | zero => exact Machine.Reaches.refl _
  | succ count ih =>
      let d : Delivery :=
        ⟨sid, fdForSid b.slots sid, readyBits 0, (b.generation + count + 1) % 2 ^ 64⟩
      let began : Backend :=
        { b with generation := b.generation + count + 1, running := .scanning d }
      have begins : backend.step { b with generation := b.generation + count } (.ioReady sid 0) =
          some began := by
        simp only [backend, step, idle, ioReady, Int.not_lt.mpr known, if_false, began, d]
      have none : began.scanTarget d = none := by
        have zero : readyBits 0 = 0 := rfl
        simp [scanTarget, Event.isReady, d, zero]
      have ends : backend.step began .scan =
          some { b with generation := b.generation + count + 1 } := by
        simp only [backend, step, began, scan]
        rw [none, ← idle]
      have quiet : began.happening .scan = Option.none := by
        rw [happening, Machine.seen_of_step noted ends, noted, idle]
      have first := Machine.logged_quiet happening begins (happening_of_step begins) log
      exact (ih.step trivial first).step trivial (Machine.logged_quiet happening ends quiet log)

/-- A reader of one socket. -/
def oneReader : List Step := [.op .socket, .op (.newEvent fdBase evRead), .op (.add 0 none)]

/-- The delivery with number `2 ^ 64` has the generation of an event that was never called,
and leaves it out. -/
theorem wrapped_delivery_incomplete : ∃ b log, dispatch.Reachable (b, log) ∧ ¬ b.Complete log := by
  let reader : Event := { Event.new fdBase evRead with active := true }
  obtain ⟨b, ran, idle, generation, known, list, event⟩ : ∃ b,
      dispatch.run dispatch.initial oneReader = some (b, [.created 0, .added 0]) ∧
      b.running = .idle ∧ b.generation = 0 ∧ Backend.fdForSid b.slots 1 = fdBase ∧
      b.list = [0] ∧ b.events.get 0 = reader :=
    ⟨_, rfl, rfl, rfl, by decide, rfl, rfl⟩
  have reached := (Machine.reaches_of_run ran).trans
    (Backend.reaches_of_blind idle (by rw [known]; decide) _ (2 ^ 64 - 1))
  rw [generation] at reached
  let d : Delivery := ⟨1, fdBase, Backend.readyBits abiRead, 0⟩
  let wrapped : Backend := { b with generation := 2 ^ 64, running := .scanning d }
  have begins : backend.step { b with generation := 0 + (2 ^ 64 - 1) } (.ioReady 1 abiRead) =
      some wrapped := by
    simp only [backend, Backend.step, idle, Backend.ioReady, known]
    rfl
  refine ⟨wrapped, _, reached.step trivial
    (Machine.logged_quiet Backend.happening begins (Backend.happening_of_step begins) _), ?_⟩
  intro complete
  have unfound : wrapped.scanTarget d = none := by
    simp [Backend.scanTarget, wrapped, list, event, Event.isReady, reader, d, Event.new]
  have ends : wrapped.step .scan = some { wrapped with running := .idle } := by
    simp only [Backend.step, wrapped, Backend.scan]
    rw [unfound]
  obtain ⟨persistent, called⟩ := complete d .scan _ rfl ends rfl 0 (by simp [wrapped, list])
    (by simp [wrapped, event, reader]) (by simp [wrapped, event, reader, Event.new, d])
    (by simp only [wrapped, event, reader, d, Event.new]; decide)
  simp at called

end UnboundWasm.Guest
