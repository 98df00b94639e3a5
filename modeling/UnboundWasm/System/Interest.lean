import UnboundWasm.System.Machine

/-!
# Interest in a condition that is already true

Users of `ub_event` expect that interest in a condition that already holds is
answered at once.  The guest's `event_add` only notes the interest, and the host
announces a condition when it changes, so the answer has to come from an
announcement that was not delivered yet.  Where one was, as on a connection that is
used again, nothing follows.
-/

namespace UnboundWasm.System

open UnboundWasm.Lib
open UnboundWasm.Guest UnboundWasm.Host.Sockets

namespace State

/-- Between exports of an open instance, all interest that the last one gave is
answered by an event in the channel. -/
def Level (s : State) : Prop :=
  s.host.guest = .outside → s.host.done = false → ∀ interest ∈ s.given,
    ∃ event ∈ s.host.events, event.carries interest.sid interest.readiness = true

/-- Interest is only given in conditions whose last change was not delivered yet,
a `sock_recv` that leaves packets behind has its buffers in range, and no export
returns while a goroutine stands between a change and its announcement. -/
def prompt (s : State) : Action → Bool
  | .op op =>
      (s.gives op).all fun interest =>
        undelivered s.host.trace interest.sock interest.sid interest.readiness
  | .host action => decide (s.host.Receiving action)
  | .leave => decide s.host.Settled
  | .enter | .dispatch | .close _ | .scan | .ret => true

def Prompt (s : State) (action : Action) : Prop := s.prompt action = true

instance (s : State) (action : Action) : Decidable (s.Prompt action) :=
  inferInstanceAs (Decidable (_ = true))

/-- The interest is answered, or will be. -/
structure Answered (host : Host.Sockets.State) (interest : Interest) : Prop where
  inside : interest.sock < host.socks.size
  sid : host.sid interest.sock = interest.sid
  promised : host.Promised interest.sock interest.readiness

structure Sound (s : State) : Prop where
  accounted : s.host.Accounted
  answered : ∀ interest ∈ s.given, Answered s.host interest
  level : s.Level

variable {s after : State}

/-- Interest is given in a condition of the socket that the descriptor denotes. -/
theorem mem_interests {fd : Int} {bits : BitVec 16} {interest : Interest}
    (member : interest ∈ s.interests fd bits) :
    s.host.socket interest.sid = some interest.sock ∧
      s.host.ready interest.sock interest.readiness = true := by
  rw [interests] at member
  split at member
  · cases member
  · split at member
    · cases member
    next sock found =>
      rw [List.mem_map] at member
      rcases member with ⟨readiness, kept, rfl⟩
      rw [List.mem_filter, Bool.and_eq_true] at kept
      exact ⟨found, kept.2.2⟩

theorem mem_gives {op : Op} {interest : Interest} (member : interest ∈ s.gives op) :
    s.host.socket interest.sid = some interest.sock ∧
      s.host.ready interest.sock interest.readiness = true := by
  unfold gives at member
  split at member
  · exact mem_interests member
  · split at member
    · exact mem_interests member
    · cases member
  · cases member

/-- Interest given promptly will be answered. -/
theorem answered_gives {op : Op} (accounted : s.host.Accounted) (prompt : s.Prompt (.op op)) :
    ∀ interest ∈ s.gives op, Answered s.host interest := by
  intro interest member
  obtain ⟨found, ready⟩ := mem_gives member
  obtain ⟨inside, sid⟩ := accounted.coherent.entry _ _ found
  have undelivered := List.all_eq_true.mp prompt interest member
  rw [← sid] at undelivered
  exact ⟨inside, sid, accounted.promised _ inside _ ready undelivered⟩

theorem Answered.advance {host next : Host.Sockets.State} {interest : Interest}
    (answered : Answered host interest) (advance : host.Advance next) :
    Answered next interest where
  inside := Nat.lt_of_lt_of_le answered.inside advance.size
  sid := (advance.ids _ answered.inside).trans answered.sid
  promised := advance.keeps _ answered.inside _ answered.promised

/-- A step of the host inside or beside an export. -/
theorem Sound.advance (sound : s.Sound) (advance : s.host.Advance after.host)
    (given : after.given = s.given) : after.Sound := by
  constructor
  case accounted => exact advance.accounted sound.accounted
  case answered =>
    rw [given]
    exact fun interest member => (sound.answered interest member).advance advance
  case level =>
    intro outside isOpen interest member
    rw [given] at member
    have before : s.host.done = false := by
      by_contra done
      rw [advance.done (by simpa using done)] at isOpen
      cases isOpen
    obtain ⟨event, queued, carries⟩ :=
      sound.level (advance.outside outside) before interest member
    exact ⟨event, advance.grows event queued, carries⟩

/-- A step of the guest inside an export. -/
theorem Sound.inside (sound : s.Sound) (running : s.host.guest = .running)
    (host : after.host = s.host)
    (answered : ∀ interest ∈ after.given, Answered s.host interest) : after.Sound := by
  constructor
  case accounted =>
    rw [host]
    exact sound.accounted
  case answered =>
    rw [host]
    exact answered
  case level =>
    intro outside
    rw [host, running] at outside
    cases outside

/-- An export begins with no interest given. -/
theorem Sound.begin (accounted : after.host.Accounted) (given : after.given = []) :
    after.Sound where
  accounted := accounted
  answered := fun interest member => (by rw [given] at member; cases member)
  level := fun _ _ interest member => (by rw [given] at member; cases member)

/-- When an export returns, everything promised has arrived. -/
theorem Sound.leave (sound : s.Sound) (settled : s.host.Settled)
    (stepped : s.host.step .leave = some after.host) (given : after.given = s.given) :
    after.Sound := by
  simp only [Host.Sockets.State.step] at stepped
  split at stepped
  next running =>
    have free : s.host.guest.outbox = none := by rw [running]; rfl
    rw [Option.some.injEq] at stepped
    have accounted : after.host.Accounted := by
      rw [← stepped]
      exact sound.accounted.goto free (by simp)
    have arrived : ∀ interest ∈ s.given, s.host.done = true ∨ ∃ event ∈ s.host.events,
        event.carries interest.sid interest.readiness = true := by
      intro interest member
      obtain ⟨_, sid, promised⟩ := sound.answered interest member
      rw [← sid]
      exact promised.arrived settled free
    refine ⟨accounted, ?_, ?_⟩
    · rw [given, ← stepped]
      intro interest member
      obtain ⟨inside, sid, _⟩ := sound.answered interest member
      rcases arrived interest member with done | ⟨event, queued, carries⟩
      · exact ⟨inside, sid, .closed done⟩
      · rw [← sid] at carries
        exact ⟨inside, sid, .queued queued carries⟩
    · rw [Level, given, ← stepped]
      intro _ isOpen interest member
      rcases arrived interest member with done | found
      · rw [show s.host.done = false from isOpen] at done
        cases done
      · exact found
  · cases stepped

theorem Sound.step {action : Action} (sound : s.Sound) (prompt : s.Prompt action)
    (stepped : s.step action = some after) : after.Sound := by
  cases stepped_of_step stepped with
  | enter host _ given =>
      apply Sound.begin _ given
      simp only [Host.Sockets.State.step] at host
      split at host
      next outside =>
        rw [← Option.some.inj host]
        exact sound.accounted.goto (by rw [outside]; rfl) (by simp)
      · cases host
  | @dispatch event events queue host _ given =>
      apply Sound.begin _ given
      simp only [Host.Sockets.State.step, queue] at host
      split at host
      next outside same =>
        cases same
        rw [← Option.some.inj host]
        exact sound.accounted.dispatch queue (by rw [outside]; rfl)
      · cases host
  | leave host _ given => exact sound.leave (of_decide_eq_true prompt) host given
  | @host action admits host _ given =>
      apply sound.advance _ given
      apply Host.Sockets.State.advance_step sound.accounted.coherent
        (of_decide_eq_true prompt) _ host
      cases action <;> simp [State.admits] at admits ⊢
  | op running host _ given =>
      apply sound.inside running host
      rw [given]
      intro interest member
      rcases List.mem_append.mp member with before | now
      · exact sound.answered interest before
      · exact answered_gives sound.accounted prompt interest now
  | close host _ given =>
      apply sound.advance _ given
      apply Host.Sockets.State.advance_step sound.accounted.coherent _ _ host
      · trivial
      · simp
  | closeUnknown _ same =>
      rw [same]
      exact sound
  | scan running host _ given | ret running host _ given =>
      apply sound.inside running host
      rw [given]
      exact sound.answered

theorem initial_sound : initial.Sound :=
  Sound.begin Host.Sockets.State.accounted_initial rfl

end State

/-- In every run whose steps are prompt, interest given in a condition that already
holds is answered by an event in the channel when the export returns. -/
theorem interest_answered {s : State}
    (reaches : system.Reaches State.Prompt State.initial s) : s.Level := by
  have sound : s.Sound := by
    apply Machine.Reaches.invariant _ reaches State.initial_sound
    intro before action after held prompt stepped
    exact held.step prompt stepped
  exact sound.level

/-- Unbound opens a TCP socket and connects it to 8.8.8.8, and the dial succeeds. -/
def connect : List Action :=
  [.enter, .host (.compute ⟨4, fun _ => 8⟩), .host (.call (.sockOpen 4 2)), .host (.guest {}),
    .host (.call (.sockConnect 1 0 4 53)), .host (.guest {}), .host (.guest {}),
    .op (.newEvent fdBase (evRead ||| evWrite ||| evPersist)), .leave, .host (.dial 0 {}),
    .host (.dial 0 {}), .host (.dial 0 {})]

/-- A packet arrives, and Unbound adds its event with nothing delivered yet. -/
def lateAdd : List Action :=
  connect ++ [.host (.reader 0 ⟨[1], .zero, none⟩ false), .host (.reader 0 ⟨[], .zero, none⟩ false),
    .host (.reader 0 ⟨[], .zero, none⟩ false), .host (.reader 0 ⟨[], .zero, none⟩ false), .enter,
    .op (.add 0 none), .leave]

theorem interest_answered_lateAdd :
    ∃ s, system.runWhen State.Prompt State.initial lateAdd = some s ∧
      s.given = [⟨0, 1, .read⟩, ⟨0, 1, .write⟩] ∧ s.host.done = false ∧ s.Level := by
  have outcome : (system.runWhen State.Prompt State.initial lateAdd).map
      (fun s => (s.given, s.host.done)) = some ([⟨0, 1, .read⟩, ⟨0, 1, .write⟩], false) := by
    decide +kernel
  obtain ⟨s, ran, seen⟩ := Option.map_eq_some_iff.mp outcome
  rw [Prod.mk.injEq] at seen
  exact ⟨s, ran, seen.1, seen.2, interest_answered (Machine.reaches_of_runWhen ran)⟩

/-- Unbound writes a query when the connection is announced and stops waiting for
it to be writable; for a second query on the connection it does so again. -/
def reusedStream : List Action :=
  connect ++ [.enter, .op (.add 0 none), .leave, .dispatch, .scan, .host (.call (.sockSend 1 0 1)),
    .host (.guest {}), .host (.guest {}), .host (.guest {}), .host (.guest {}), .host (.guest {}),
    .op (.delBits 0 evWrite), .ret, .scan, .leave, .enter, .op (.del 0), .op (.addBits 0 evWrite),
    .op (.add 0 none), .leave]

/-- The second query is never announced: the channel is empty and no goroutine is
about to enqueue anything. -/
theorem reusedStream_unanswered :
    ∃ s, system.run State.initial reusedStream = some s ∧ s.given = [⟨0, 1, .write⟩] ∧
      s.host.done = false ∧ s.host.events = [] ∧ s.host.Settled ∧ ¬ s.Level := by
  have outcome : (system.run State.initial reusedStream).map
      (fun s => (s.given, s.host.done, s.host.events, decide s.host.Settled, s.host.guest)) =
        some ([⟨0, 1, .write⟩], false, [], true, .outside) := by
    decide +kernel
  obtain ⟨s, ran, seen⟩ := Option.map_eq_some_iff.mp outcome
  simp only [Prod.mk.injEq, decide_eq_true_eq] at seen
  obtain ⟨given, isOpen, empty, settled, outside⟩ := seen
  refine ⟨s, ran, given, isOpen, empty, settled, ?_⟩
  intro level
  obtain ⟨event, queued, _⟩ := level outside isOpen ⟨0, 1, .write⟩ (by rw [given]; simp)
  rw [empty] at queued
  cases queued

end UnboundWasm.System
