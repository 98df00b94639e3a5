import UnboundWasm.Guest.Backend

/-!
# Readiness reaches the right socket

`uw_io_ready` translates the host id to a descriptor once and then rescans the
event list after every callback.  Descriptors are slot numbers and are reused, so
what the number denotes may change under the scan.  The invariant says that the
descriptor still denotes the socket, or that nothing is left for the scan to find.
-/

namespace UnboundWasm.Guest

open UnboundWasm.Lib UnboundWasm.Host

namespace Backend

/-- The delivery a state is in. -/
def delivery (b : Backend) : Option Delivery :=
  match b.running with
  | .scanning d => some d
  | .callback d _ => d
  | .idle => none

/-- The descriptor of a delivery denotes the socket it is for. -/
def Denotes (b : Backend) (d : Delivery) : Prop := lookup b.slots d.fd = some d.sid

/-- Nothing in the list is left for a delivery. -/
def Spent (b : Backend) (d : Delivery) : Prop :=
  ∀ event ∈ b.list, (b.events.get event).isReady d = false

instance (b : Backend) (d : Delivery) : Decidable (b.Denotes d) :=
  inferInstanceAs (Decidable (_ = _))

instance (b : Backend) (d : Delivery) : Decidable (b.Spent d) :=
  inferInstanceAs (Decidable (∀ event ∈ b.list, _))

/-- What Unbound must keep to inside a delivery: it closes the socket only when no
event is left for it, and once the socket is closed it makes no event ready under
its number. Host ids are below 2 ^ 31. -/
def careful (b : Backend) : Step → Bool
  | .op .socket => b.opened + 1 < 2 ^ 31
  | .op (.close fd) =>
      match b.delivery with
      | none => true
      | some d => fd ≠ d.fd || decide (b.Spent d)
  | .op op =>
      match b.delivery, op.change with
      | some d, some (event, change) =>
          decide (b.Denotes d) || !(change (b.events.get event)).isReady d
      | _, _ => true
  | _ => true

def Careful (b : Backend) (action : Step) : Prop := b.careful action = true

instance (b : Backend) (action : Step) : Decidable (b.Careful action) :=
  inferInstanceAs (Decidable (_ = true))

/-- Host ids are numbered in order and never come back. -/
structure Numbered (b : Backend) : Prop where
  used : ∀ sid, some sid ∈ b.slots → 0 < sid ∧ sid ≤ b.opened ∧ sid ∉ b.closed
  closed : ∀ sid ∈ b.closed, 0 < sid ∧ sid ≤ b.opened
  distinct : ∀ (i j : Nat) (sid : Int), b.slots[i]? = some (some sid) →
    b.slots[j]? = some (some sid) → i = j

/-- Every callback so far was for the socket its descriptor denoted. -/
def Routed (b : Backend) : Prop :=
  ∀ call ∈ b.invoked, call.denoted = some call.sid ∧ call.closed = false

structure Sound (b : Backend) : Prop where
  numbered : b.Numbered
  listed : ∀ event ∈ b.list, event < b.events.size
  current : ∀ d event, b.running = .callback (some d) event →
    event < b.events.size ∧ (b.events.get event).lastDispatch = d.gen
  routed : b.Routed
  delivery : ∀ d, b.delivery = some d → b.Denotes d ∨ b.Spent d

/-! ## The descriptor table -/

variable {slots : List (Option Int)} {fd sid : Int}

theorem lookup_of_fdForSid (found : ¬ fdForSid slots sid < 0) :
    lookup slots (fdForSid slots sid) = some sid := by
  rw [fdForSid] at found ⊢
  split at found
  · simp at found
  next i present =>
    obtain ⟨inside, holds, _⟩ := List.findIdx?_eq_some_iff_getElem.mp present
    apply lookup_of_mem
    rw [List.getElem?_eq_getElem inside, of_decide_eq_true holds]

/-- A change of another slot does not change what a descriptor denotes. -/
theorem lookup_set {i : Nat} (value : Option Int) (other : i ≠ slotOf fd) :
    lookup (slots.set i value) fd = lookup slots fd := by
  rw [lookup, lookup, List.getElem?_set_ne other]

theorem initial_sound : Sound initial := by
  constructor
  case numbered =>
    constructor
    · intro sid member
      simp [initial] at member
    · simp [initial]
    · intro i j sid found _
      have member := List.mem_of_getElem? found
      simp [initial] at member
  case listed => simp [initial]
  case current => simp [initial]
  case routed => simp [Routed, initial]
  case delivery => simp [delivery, initial]

variable {b after : Backend}

/-- A slot of a changed table holds the new value or what it held. -/
theorem getElem?_of_set {i j : Nat} {value held : Option Int}
    (found : (slots.set i value)[j]? = some held) :
    (j = i ∧ held = value) ∨ (j ≠ i ∧ slots[j]? = some held) := by
  by_cases same : i = j
  · subst same
    rw [List.getElem?_set_self'] at found
    rw [Option.map_eq_map, Option.map_eq_some_iff] at found
    rcases found with ⟨_, _, rfl⟩
    exact .inl ⟨rfl, rfl⟩
  · rw [List.getElem?_set_ne same] at found
    exact .inr ⟨Ne.symm same, found⟩

theorem Numbered.congr (numbered : b.Numbered) (slots : after.slots = b.slots)
    (opened : after.opened = b.opened) (closed : after.closed = b.closed) : after.Numbered := by
  constructor
  case used => rw [slots, opened, closed]; exact numbered.used
  case closed => rw [opened, closed]; exact numbered.closed
  case distinct => rw [slots]; exact numbered.distinct

/-- A new socket takes the next number. -/
theorem Numbered.open {i : Nat} (numbered : b.Numbered) :
    Numbered { b with
      opened := b.opened + 1
      slots := b.slots.set i (some ((b.opened : Int) + 1)) } := by
  have fresh : ∀ sid, sid ∈ b.closed ∨ some sid ∈ b.slots → sid ≠ (b.opened : Int) + 1 := by
    rintro sid (member | member) equal
    · have bound := (numbered.closed sid member).2
      omega
    · have bound := (numbered.used sid member).2.1
      omega
  constructor
  case used =>
    intro sid member
    obtain ⟨j, found⟩ := List.mem_iff_getElem?.mp member
    dsimp only at found ⊢
    rcases getElem?_of_set found with ⟨_, same⟩ | ⟨_, old⟩
    · cases same
      refine ⟨by omega, by omega, ?_⟩
      intro isClosed
      exact fresh _ (.inl isClosed) rfl
    · have before := numbered.used sid (List.mem_of_getElem? old)
      exact ⟨before.1, by omega, before.2.2⟩
  case closed =>
    intro sid member
    have before := numbered.closed sid member
    exact ⟨before.1, by dsimp only; omega⟩
  case distinct =>
    intro j k sid left right
    rcases getElem?_of_set left with ⟨atJ, newJ⟩ | ⟨_, oldJ⟩
    · rcases getElem?_of_set right with ⟨atK, _⟩ | ⟨_, oldK⟩
      · rw [atJ, atK]
      · cases newJ
        exact absurd rfl (fresh _ (.inr (List.mem_of_getElem? oldK)))
    · rcases getElem?_of_set right with ⟨_, newK⟩ | ⟨_, oldK⟩
      · cases newK
        exact absurd rfl (fresh _ (.inr (List.mem_of_getElem? oldJ)))
      · exact numbered.distinct j k sid oldJ oldK

/-- A number that finds no slot is used up. -/
theorem Numbered.turnAway (numbered : b.Numbered) :
    Numbered { b with opened := b.opened + 1, closed := b.closed ++ [(b.opened : Int) + 1] } := by
  constructor
  case used =>
    intro sid member
    have before := numbered.used sid member
    refine ⟨before.1, by dsimp only; omega, ?_⟩
    simp only [List.mem_append, List.mem_singleton, not_or]
    exact ⟨before.2.2, by omega⟩
  case closed =>
    intro sid member
    simp only [List.mem_append, List.mem_singleton] at member
    rcases member with old | rfl
    · have before := numbered.closed sid old
      exact ⟨before.1, by dsimp only; omega⟩
    · exact ⟨by omega, by dsimp only; omega⟩
  case distinct => exact numbered.distinct

theorem Numbered.close {i : Nat} {sid : Int} (numbered : b.Numbered)
    (held : b.slots[i]? = some (some sid)) :
    Numbered { b with slots := b.slots.set i none, closed := b.closed ++ [sid] } := by
  have used := numbered.used sid (List.mem_of_getElem? held)
  constructor
  case used =>
    intro other member
    obtain ⟨j, found⟩ := List.mem_iff_getElem?.mp member
    rcases getElem?_of_set found with ⟨_, impossible⟩ | ⟨elsewhere, old⟩
    · cases impossible
    · have before := numbered.used other (List.mem_of_getElem? old)
      refine ⟨before.1, before.2.1, ?_⟩
      simp only [List.mem_append, List.mem_singleton, not_or]
      refine ⟨before.2.2, ?_⟩
      intro same
      subst same
      exact elsewhere (numbered.distinct j i other old held)
  case closed =>
    intro other member
    simp only [List.mem_append, List.mem_singleton] at member
    rcases member with old | rfl
    · exact numbered.closed other old
    · exact ⟨used.1, used.2.1⟩
  case distinct =>
    intro j k other left right
    rcases getElem?_of_set left with ⟨_, impossible⟩ | ⟨_, oldJ⟩
    · cases impossible
    · rcases getElem?_of_set right with ⟨_, impossible⟩ | ⟨_, oldK⟩
      · cases impossible
      · exact numbered.distinct j k other oldJ oldK

/-! ## Operations of Unbound -/

/-- The fields an operation on the table leaves alone. -/
structure SameEvents (b after : Backend) : Prop where
  events : after.events = b.events
  list : after.list = b.list
  running : after.running = b.running
  invoked : after.invoked = b.invoked

theorem Sound.table (sound : b.Sound) (same : SameEvents b after) (numbered : after.Numbered)
    (denotes : ∀ d, b.delivery = some d → b.Denotes d → after.Denotes d ∨ b.Spent d) :
    after.Sound := by
  constructor
  case numbered => exact numbered
  case listed =>
    rw [same.list, same.events]
    exact sound.listed
  case current =>
    rw [same.running, same.events]
    exact sound.current
  case routed =>
    rw [Routed, same.invoked]
    exact sound.routed
  case delivery =>
    intro d here
    rw [Backend.delivery, same.running] at here
    have spent : b.Spent d → after.Spent d := by
      rw [Spent, Spent, same.list, same.events]
      exact id
    rcases sound.delivery d here with holds | nothing
    · exact (denotes d here holds).imp_right spent
    · exact .inr (spent nothing)

theorem Sound.socket (sound : b.Sound) (few : b.opened + 1 < 2 ^ 31) : b.socket.Sound := by
  have number : toInt32 ((b.opened : Int) + 1) = (b.opened : Int) + 1 := by
    have small := toInt32_of_lt few
    rwa [Int.natCast_add, Int.natCast_one] at small
  rw [Backend.socket]
  simp only [number]
  rw [if_neg (by omega)]
  split
  next i free =>
    apply sound.table
    · exact ⟨rfl, rfl, rfl, rfl⟩
    · exact sound.numbered.open
    · intro d _ holds
      left
      obtain ⟨inside, unused, _⟩ := List.findIdx?_eq_some_iff_getElem.mp free
      have used := (mem_of_lookup holds).2
      have other : i ≠ slotOf d.fd := by
        intro same
        subst same
        rw [List.getElem?_eq_getElem inside, Option.some.injEq] at used
        simp [used] at unused
      exact (lookup_set _ other).trans holds
  next =>
    apply sound.table
    · exact ⟨rfl, rfl, rfl, rfl⟩
    · exact sound.numbered.turnAway
    · intro d _ holds
      exact .inl holds

theorem Sound.close (sound : b.Sound) {fd : Int}
    (careful : ∀ d, b.delivery = some d → fd = d.fd → b.Spent d) : (b.close fd).Sound := by
  rw [Backend.close]
  split
  · exact sound
  next sid found =>
    obtain ⟨inside, held⟩ := mem_of_lookup found
    apply sound.table
    · exact ⟨rfl, rfl, rfl, rfl⟩
    · exact sound.numbered.close held
    · intro d here holds
      by_cases same : fd = d.fd
      · exact .inr (careful d here same)
      · left
        have base := (mem_of_lookup holds).1
        refine (lookup_set _ ?_).trans holds
        unfold slotOf
        omega

theorem Sound.newEvent (sound : b.Sound) (fd : Int) (bits : BitVec 16) :
    Sound { b with events := b.events.alloc (.new fd bits), list := b.events.size :: b.list } := by
  constructor
  case numbered => exact sound.numbered.congr rfl rfl rfl
  case listed =>
    intro event member
    rw [Heap.size_alloc]
    rcases List.mem_cons.mp member with rfl | old
    · omega
    · have before := sound.listed event old
      omega
  case current =>
    intro d event here
    obtain ⟨inside, dispatched⟩ := sound.current d event here
    rw [Heap.size_alloc, Heap.get_alloc_of_lt _ _ _ inside]
    exact ⟨by omega, dispatched⟩
  case routed => exact sound.routed
  case delivery =>
    intro d here
    rcases sound.delivery d here with holds | nothing
    · exact .inl holds
    · right
      intro event member
      rcases List.mem_cons.mp member with rfl | old
      · simp [Event.isReady, Event.new]
      · dsimp only
        rw [Heap.get_alloc_of_lt _ _ _ (sound.listed event old)]
        exact nothing event old

/-- No vmt entry touches `last_dispatch`. -/
theorem lastDispatch_change {op : Op} {event : Nat} {change : Event → Event}
    (changes : op.change = some (event, change)) (e : Event) :
    (change e).lastDispatch = e.lastDispatch := by
  cases op with
  | socket | close | newEvent => cases changes
  | free =>
      cases changes
      rw [Event.free]
      split <;> rfl
  | addBits | delBits | setFd | del | add | addTimer | delTimer =>
      cases changes
      rfl

theorem Sound.change {event : Nat} {change : Event → Event} {list : List Nat} (sound : b.Sound)
    (kept : ∀ e, (change e).lastDispatch = e.lastDispatch) (fewer : list ⊆ b.list)
    (careful : ∀ d, b.delivery = some d →
      b.Denotes d ∨ (change (b.events.get event)).isReady d = false) :
    Sound { b with events := b.events.modify event change, list := list } := by
  constructor
  case numbered => exact sound.numbered.congr rfl rfl rfl
  case listed =>
    intro other member
    exact sound.listed other (fewer member)
  case current =>
    intro d other here
    obtain ⟨inside, dispatched⟩ := sound.current d other here
    refine ⟨inside, ?_⟩
    have frame := Heap.get_modify_frame b.events event other change Event.lastDispatch kept
    exact frame.trans dispatched
  case routed => exact sound.routed
  case delivery =>
    intro d here
    rcases sound.delivery d here with holds | nothing
    · exact .inl holds
    · rcases careful d here with holds | unready
      · exact .inl holds
      · right
        intro other member
        dsimp only
        rw [Heap.get_modify]
        split
        · exact unready
        · exact nothing other (fewer member)

theorem Sound.operate {op : Op} (sound : b.Sound) (careful : b.Careful (.op op))
    (operated : b.operate op = some after) : after.Sound := by
  have changed : ∀ event change list, op.change = some (event, change) → list ⊆ b.list →
      Sound { b with events := b.events.modify event change, list := list } := by
    intro event change list changes fewer
    apply sound.change (lastDispatch_change changes) fewer
    intro d here
    cases op with
    | socket | close | newEvent => cases changes
    | addBits | delBits | setFd | del | free | add | addTimer | delTimer =>
        simp only [Careful, Backend.careful, here, changes, Bool.or_eq_true, decide_eq_true_eq,
          Bool.not_eq_true'] at careful
        exact careful
  cases op with
  | socket =>
      rw [Backend.operate, Option.some.injEq] at operated
      subst operated
      have few := careful
      rw [Careful, Backend.careful, decide_eq_true_eq] at few
      exact sound.socket few
  | close fd =>
      cases operated
      apply sound.close
      intro d here same
      simpa [Careful, Backend.careful, here, same] using careful
  | newEvent fd bits =>
      cases operated
      exact sound.newEvent fd bits
  | free event =>
      simp only [Backend.operate, Op.change] at operated
      split at operated
      · cases operated
        exact changed event _ _ rfl List.erase_subset
      · cases operated
  | addBits | delBits | setFd | del | add | addTimer | delTimer =>
      simp only [Backend.operate, Op.change] at operated
      split at operated
      · cases operated
        exact changed _ _ _ rfl (List.Subset.refl _)
      · cases operated

/-! ## Deliveries -/

theorem Sound.ioReady (sound : b.Sound) (sid : Int) (flags : Nat) :
    (b.ioReady sid flags).Sound := by
  rw [Backend.ioReady]
  split
  · exact sound
  next translated =>
    constructor
    case numbered => exact sound.numbered.congr rfl rfl rfl
    case listed => exact sound.listed
    case current =>
      intro d event here
      cases here
    case routed => exact sound.routed
    case delivery =>
      intro d here
      cases here
      exact .inl (lookup_of_fdForSid translated)

/-- An event the scan finds is on the descriptor of the delivery, and that still
denotes the socket, because something is left to find. -/
theorem Sound.fire {d : Delivery} {event : Nat} (sound : b.Sound) (here : b.running = .scanning d)
    (member : event ∈ b.list) (ready : (b.events.get event).isReady d = true) :
    (b.fire d event).Sound := by
  have denotes : b.Denotes d := by
    have inDelivery : b.delivery = some d := by rw [Backend.delivery, here]
    apply (sound.delivery d inDelivery).resolve_right
    intro nothing
    rw [nothing event member] at ready
    cases ready
  have onFd : (b.events.get event).fd = d.fd := by
    simp only [Event.isReady, Bool.and_eq_true, decide_eq_true_eq] at ready
    exact ready.1.1.2
  constructor
  case numbered => exact sound.numbered.congr rfl rfl rfl
  case listed => exact sound.listed
  case current =>
    intro other called running
    cases running
    exact ⟨sound.listed event member, by simp [Backend.fire]⟩
  case routed =>
    intro call invoked
    rcases List.mem_append.mp invoked with old | new
    · exact sound.routed call old
    · rw [List.mem_singleton] at new
      subst new
      dsimp only
      rw [onFd]
      refine ⟨denotes, ?_⟩
      have used := List.mem_of_getElem? (mem_of_lookup denotes).2
      simpa using (sound.numbered.used d.sid used).2.2
  case delivery =>
    intro other inDelivery
    cases inDelivery
    exact .inl denotes

theorem Sound.scan {d : Delivery} (sound : b.Sound) (here : b.running = .scanning d) :
    (b.scan d).Sound := by
  rw [Backend.scan]
  split
  · constructor
    case numbered => exact sound.numbered.congr rfl rfl rfl
    case listed => exact sound.listed
    case current =>
      intro other event running
      cases running
    case routed => exact sound.routed
    case delivery =>
      intro other inDelivery
      cases inDelivery
  next event found =>
    have ready := List.find?_some found
    exact sound.fire here (List.mem_of_find?_eq_some found) ready

theorem Sound.timerFired (sound : b.Sound) (tid : Int) :
    (b.timerFired tid).Sound := by
  rw [Backend.timerFired]
  split
  · exact sound
  · constructor
    case numbered => exact sound.numbered.congr rfl rfl rfl
    case listed => exact sound.listed
    case current =>
      intro d event running
      cases running
    case routed => exact sound.routed
    case delivery =>
      intro d inDelivery
      cases inDelivery

/-- The event whose callback returns has been dispatched in this delivery, so the
scan does not find it again. -/
theorem Sound.ret {d : Option Delivery} {event : Nat} (sound : b.Sound)
    (here : b.running = .callback d event) : (b.ret d event).Sound := by
  constructor
  case numbered => exact sound.numbered.congr rfl rfl rfl
  case listed => exact sound.listed
  case current =>
    intro other called running
    cases d <;> cases running
  case routed => exact sound.routed
  case delivery =>
    intro other inDelivery
    cases d with
    | none => cases inDelivery
    | some d =>
        have same : d = other := Option.some.inj inDelivery
        subst same
        have before : b.delivery = some d := by rw [Backend.delivery, here]
        rcases sound.delivery d before with holds | nothing
        · exact .inl holds
        · right
          intro called member
          simp only [Backend.ret, Heap.get_modify]
          split
          · have dispatched := (sound.current d event here).2
            split <;> simp [Event.isReady, dispatched]
          · exact nothing called member

theorem Sound.step {action : Step} (sound : b.Sound) (careful : b.Careful action)
    (stepped : b.step action = some after) : after.Sound := by
  unfold Backend.step at stepped
  split at stepped
  case h_1 => exact sound.operate careful stepped
  case h_2 => exact sound.operate careful stepped
  case h_7 => cases stepped
  all_goals cases stepped
  case h_3 => exact sound.ioReady _ _
  case h_4 => exact sound.timerFired _
  case h_5 here => exact sound.scan here
  case h_6 here => exact sound.ret here

end Backend

/-- In every careful run, each callback `uw_io_ready` has invoked for a host id was
for an event whose descriptor denoted that socket at that moment, and the socket
had not been closed. -/
theorem io_ready_routed {b : Backend}
    (reaches : backend.Reaches Backend.Careful Backend.initial b) :
    ∀ call ∈ b.invoked, call.denoted = some call.sid ∧ call.closed = false := by
  have sound : b.Sound := by
    apply Machine.Reaches.invariant _ reaches Backend.initial_sound
    intro before action after held careful stepped
    exact held.step careful stepped
  exact sound.routed

/-- A socket with a persistent reader, delivered twice with the socket closed and
another opened in between. -/
def closeBetweenDeliveries : List Step :=
  [.op .socket, .op (.newEvent fdBase (evRead ||| evPersist)), .op (.add 0 none),
    .ioReady 1 abiRead, .scan, .ret, .scan, .op (.del 0), .op (.close fdBase), .op .socket,
    .op (.add 0 none), .ioReady 1 abiRead, .ioReady 2 abiRead, .scan, .ret, .scan]

theorem io_ready_routed_closeBetweenDeliveries :
    ∃ b, backend.runWhen Backend.Careful Backend.initial closeBetweenDeliveries = some b ∧
      b.invoked.map Invocation.sid = [1, 2] ∧
      ∀ call ∈ b.invoked, call.denoted = some call.sid ∧ call.closed = false := by
  obtain ⟨b, ran⟩ : ∃ b, backend.runWhen Backend.Careful Backend.initial
      closeBetweenDeliveries = some b := ⟨_, rfl⟩
  have sids : b.invoked.map Invocation.sid = [1, 2] := by
    cases ran
    rfl
  exact ⟨b, ran, sids, io_ready_routed (Machine.reaches_of_runWhen ran)⟩

/-- A reader whose callback closes its socket, opens another and registers a reader
for that. -/
def reopenInCallback : List Step :=
  [.op .socket, .op (.newEvent fdBase evRead), .op (.add 0 none), .ioReady 1 abiRead, .scan,
    .op (.free 0), .op (.close fdBase), .op .socket, .op (.newEvent fdBase evRead),
    .op (.add 1 none), .ret, .scan]

/-- The rest of the delivery for socket 1 reaches the handler of socket 2. -/
theorem reopenInCallback_misroutes :
    ∃ b, backend.run Backend.initial reopenInCallback = some b ∧ b.opened = 2 ∧
      b.invoked = [⟨1, 0, fdBase, some 1, false⟩, ⟨1, 1, fdBase, some 2, true⟩] := by
  have outcome : (backend.run Backend.initial reopenInCallback).map
      (fun b => (b.opened, b.invoked)) =
        some (2, [⟨1, 0, fdBase, some 1, false⟩, ⟨1, 1, fdBase, some 2, true⟩]) := by
    decide +kernel
  obtain ⟨b, ran, seen⟩ := Option.map_eq_some_iff.mp outcome
  exact ⟨b, ran, congrArg Prod.fst seen, congrArg Prod.snd seen⟩

end UnboundWasm.Guest
