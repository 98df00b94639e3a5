import UnboundWasm.System.Provenance

/-!
# Answers belong to their questions

Every result of a batch, and every error that tells what a query came to, is what libunbound
reported for the name and the type of its position.
-/

namespace UnboundWasm.System.Answers

open UnboundWasm.Lib UnboundWasm.Host UnboundWasm.Host.Resolve UnboundWasm.Guest
open UnboundWasm.System.Batches (reply record)

/-! ## Steps -/

/-- What holds in every state of a run. -/
structure Invariant (parser : MessageParser) (s : State) : Prop where
  sane : Sane s.world
  plain : Plain s.resolve
  inside : s.world.guest.starting ≠ none →
    (∃ n p, s.resolve.pc = .callStart n p) ∨ Doomed s.resolve
  here : Here s.world s.resolve.entries (stage s.resolve.pc)
  placed : stage s.resolve.pc = .ended ∨
    ∀ n e, s.resolve.entries[n]? = some e → Placed s.world n e
  settled : ∀ n e, s.resolve.entries[n]? = some e → Settled parser s.world n e

/-- A callback is given no byte of the buffer that the host polls with. -/
def Spares (completion : Completion) (p : Nat) : Prop :=
  (∀ block ∈ completion.packetBlock,
    Memory.Apart block completion.outcome.packetBytes.length p resultSize) ∧
  ∀ block ∈ completion.whyBlock,
    Memory.Apart block ((completion.outcome.whyBogus.getD []).length + 1) p resultSize

/-- What is assumed of a run: the heap of the guest hands out no byte of a block that is in use,
nothing else writes to the blocks of the slots, and the context and the event queue bring in
errors of their own. -/
def Careful (s : State) : Action → Prop
  | .resolve action => Unreported action
  | .alloc p memory => s.world.guest.Keeps memory ∧
      ∀ data, wanted s.resolve = some data → s.world.guest.Clear p.toNat data.length
  | .callback completion => s.world.guest.Given completion ∧
      ∀ p, stage s.resolve.pc = .polling p → Spares completion p
  | .write memory => s.world.guest.Keeps memory
  | .enter _ | .leave | .get | .cancel | .next _ => True

namespace Invariant

variable {parser : MessageParser} {s after : State}

theorem host {action : Resolve.Action} {resolve : Resolve.State} (invariant : Invariant parser s)
    (own : answered s.resolve action = false)
    (stepped : s.resolve.step parser action = some resolve) (unreported : Unreported action) :
    Invariant parser { s with resolve := resolve } := by
  have hosted := hosted_of_step stepped own invariant.plain
  constructor
  case sane => exact invariant.sane
  case plain => exact invariant.plain.step stepped unreported
  case inside => exact fun begun => doomed_of_step stepped own (invariant.inside begun)
  case here => exact invariant.here.hosted hosted
  case placed =>
    rcases invariant.placed with ended | placed
    · rw [ended] at hosted
      exact .inl hosted.ended_stays
    · exact placed_hosted invariant.here placed hosted
  case settled => exact settled_hosted invariant.settled hosted

variable {world : World} {n p : Nat}

/-- What has settled stays settled. -/
theorem settled_extend (invariant : Invariant parser s) (grows : ∀ n, s.world.Extends world n) :
    ∀ n e, s.resolve.entries[n]? = some e → Settled parser world n e := by
  intro n e present
  have settled := invariant.settled n e present
  constructor
  case result =>
    intro res found
    exact (settled.result res found).extend invariant.sane (grows n)
  case err =>
    intro err found isReported
    exact (settled.err err found isReported).extend invariant.sane (grows n)

/-- What is bound stays bound. -/
theorem placed_act {action : SlotAction} (invariant : Invariant parser s)
    (acted : s.world.act action = some world) (uncancelled : ∀ rid, action ≠ .resolveCancel rid) :
    stage s.resolve.pc = .ended ∨
      ∀ n e, s.resolve.entries[n]? = some e → Placed world n e := by
  rcases invariant.placed with ended | placed
  · exact .inl ended
  · right
    intro n e present
    rcases placed n e present with unstarted | ⟨bound, accepted⟩
    · exact .inl unstarted
    · exact .inr ⟨bound.act acted uncancelled, accepted⟩

/-- The guest in a call: a callback, or a change of the memory. -/
theorem during {action : SlotAction} (invariant : Invariant parser s) (running : s.running = true)
    (acted : s.world.act action = some world) (heaped : s.world.guest.Heaped action)
    (inside : Slots.Inside action) (spares : ∀ completion, action = .callback completion →
      ∀ p, stage s.resolve.pc = .polling p → Spares completion p) :
    Invariant parser { s with world := world } := by
  obtain ⟨stepped, same⟩ := World.eq_of_act acted
  have uncancelled : ∀ rid, action ≠ .resolveCancel rid := by
    rintro rid rfl
    exact inside
  have starting := Slots.starting_of_inside stepped inside
  have size := Slots.size_step stepped heaped
  constructor
  case sane => exact invariant.sane.act acted heaped
  case plain => exact invariant.plain
  case inside =>
    intro begun
    exact invariant.inside (starting ▸ begun)
  case settled => exact invariant.settled_extend fun n => World.extends_act acted
  case placed => exact invariant.placed_act acted uncancelled
  case here =>
    have known := invariant.here
    dsimp only at known ⊢
    cases at' : stage s.resolve.pc with
    | loading n => rwa [at'] at known
    | naming n => rwa [at'] at known
    | asking n p =>
        rw [at'] at known
        obtain ⟨untouched, e, named, asking⟩ := known
        refine ⟨untouched, e, named, ?_, ?_⟩
        · intro idle
          rw [starting] at idle
          simp [State.running, pc_of_asking at', idle] at running
        · intro begun id here accepted
          have asked := asking.asked begun id (starting ▸ here) accepted
          rwa [same]
    | asked n out =>
        rw [at'] at known
        cases out with
        | error err => trivial
        | ok rid =>
            obtain ⟨untouched, e, named, bound⟩ := known
            exact ⟨untouched, e, named, fun positive => (bound positive).act acted uncancelled⟩
    | waiting => trivial
    | polling p =>
        rw [at'] at known
        refine ⟨Nat.le_trans known.1 size, ?_⟩
        exact invariant.sane.kept.clear_step stepped heaped invariant.sane.remembering known.2
          fun completion called => spares completion called p at'
    | ended => trivial

/-- Nothing is started while the host asks for a block. -/
theorem idle_of_wanted {data : Bytes} (invariant : Invariant parser s)
    (asked : wanted s.resolve = some data) : s.world.guest.starting = none := by
  by_contra begun
  rcases invariant.inside begun with ⟨n, p, here⟩ | ⟨n, p, err, here⟩ | ⟨-, isLate⟩
  · simp [wanted, here] at asked
  · simp [wanted, here] at asked
  · cases here : s.resolve.pc <;> simp_all [wanted, late]

theorem alloc {p : UInt32} {memory : Memory} {data : Bytes} {resolve : Resolve.State}
    (invariant : Invariant parser s) (alive : s.resolve.inst.modDead = false)
    (asked : wanted s.resolve = some data)
    (stepped : s.resolve.step parser (.call (.ok (p.toNat, memory))) = some resolve)
    (written : s.world.act (.write (stored memory p data)) = some world)
    (keeps : s.world.guest.Keeps memory) (clear : s.world.guest.Clear p.toNat data.length) :
    Invariant parser ⟨resolve, world⟩ := by
  obtain ⟨moved, same⟩ := World.eq_of_act written
  have heaped : s.world.guest.Heaped (.write (stored memory p data)) := keeps_stored keeps clear
  have contents := Slots.memory_of_write moved
  have idle : world.guest.starting = none := by
    rw [Slots.starting_of_inside moved trivial]
    exact invariant.idle_of_wanted asked
  have settled := invariant.settled_extend fun n => World.extends_act written
  have placed := invariant.placed_act written (by simp)
  have sane := invariant.sane.act written heaped
  have plain := invariant.plain.step stepped trivial
  have known := invariant.here
  have inside : world.guest.starting ≠ none →
      (∃ n p, resolve.pc = .callStart n p) ∨ Doomed resolve := fun begun => absurd idle begun
  cases alloc_of_step alive asked stepped with
  | failed refused there =>
      have ended : stage resolve.pc = .ended := by
        rw [there]
        rfl
      have hosted : Hosted (stage s.resolve.pc) s.resolve.entries .ended resolve.entries := by
        rw [there]
        exact .fail _ _ (reported_allocWrite refused)
      refine ⟨sane, plain, inside, ?_, .inl ended, settled_hosted settled hosted⟩
      rw [ended]
      trivial
  | @name n here isName allocated entries there =>
      rw [here] at known
      obtain ⟨untouched, e, named, accepted⟩ := known
      have filled : data = e.name := by
        rw [isName, Resolve.State.nameAt, named, Option.map_some, Option.getD_some]
      have nonempty : data ≠ [] := filled ▸ (normalizeName_eq_ok accepted).1
      refine ⟨sane, plain, inside, ?_, ?_, ?_⟩
      · rw [entries, there]
        refine ⟨untouched, e, ⟨named, accepted⟩, ?_, by simp [idle]⟩
        intro _
        rw [contents, ← filled]
        exact allocated.read nonempty
      · rw [entries]
        rcases placed with ended | placed
        · simp [here, stage] at ended
        · exact .inr placed
      · rwa [entries]
  | result here isBuffer allocated entries there =>
      have size : data.length = resultSize := by rw [isBuffer, List.length_replicate]
      have nonempty : data ≠ [] := by simp [isBuffer, resultSize]
      refine ⟨sane, plain, inside, ?_, ?_, ?_⟩
      · rw [there]
        have inMemory := (Memory.read_eq_some_iff.mp (allocated.read nonempty)).1
        rw [size, ← contents] at inMemory
        rw [size] at clear
        exact ⟨inMemory, invariant.sane.kept.clear_step moved heaped invariant.sane.remembering
          clear (by simp)⟩
      · rw [entries]
        rcases placed with ended | placed
        · simp [here, stage] at ended
        · exact .inr placed
      · rwa [entries]

/-- `resolve_start` returns to the host. -/
theorem asked {value : Int} (invariant : Invariant parser s)
    (here : s.resolve.pc = .callStart n p) (answered : s.answer parser value world = some after)
    (low : -2 ^ 31 ≤ value) (high : value < 2 ^ 31) (sane : Sane world)
    (idle : world.guest.starting = none)
    (bound : ∀ e, Asking s.world e p → 0 < value → Bound world n e value)
    (placed : ∀ m e, s.resolve.entries[m]? = some e → Placed world m e)
    (settled : ∀ m e, s.resolve.entries[m]? = some e → Settled parser world m e) :
    Invariant parser after := by
  obtain ⟨-, rfl, stepped⟩ := State.eq_of_answer answered
  obtain ⟨there, entries⟩ := State.started_of_answer here low high answered
  have plain := invariant.plain.step stepped trivial
  have known := invariant.here
  rw [here] at known
  obtain ⟨untouched, e, named, asking⟩ := known
  refine ⟨sane, plain, fun begun => absurd idle begun, ?_, .inr ?_, ?_⟩
  · rw [entries, there]
    exact ⟨untouched, e, named, bound e asking⟩
  · rwa [entries]
  · rwa [entries]

/-- `resolve_start` returns before it calls libunbound. -/
theorem refused {start : Start} {value : Int} (invariant : Invariant parser s)
    (here : s.resolve.pc = .callStart n p) (refused : s.world.guest.refusal start = some value)
    (begun : s.world.act (.resolveStart start) = some world)
    (answered : s.answer parser value world = some after) : Invariant parser after := by
  obtain ⟨stepped, -⟩ := World.eq_of_act begun
  obtain ⟨err, why, rfl⟩ := Batches.refusal_eq s.world.guest start refused
  obtain ⟨low, high⟩ := Batches.startErr_bounds why
  rw [enospc] at high
  apply invariant.asked here answered (by omega) (by omega)
  case sane => exact invariant.sane.act begun trivial
  case idle => exact Slots.starting_of_refusal stepped refused
  case bound => exact fun _ _ positive => by omega
  case placed =>
    rcases invariant.placed_act begun (by simp) with ended | placed
    · simp [here, stage] at ended
    · exact placed
  case settled => exact invariant.settled_extend fun n => World.extends_act begun

/-- `resolve_start` calls libunbound with the name that is in the block. -/
theorem entered {start : Start} (invariant : Invariant parser s)
    (here : s.resolve.pc = .callStart n p) (proceeds : s.world.guest.refusal start = none)
    (begun : s.world.act (.resolveStart start) = some world) :
    Invariant parser { s with world := { world with
      questions := Function.update world.questions s.world.guest.queries (s.question n p) } } := by
  obtain ⟨stepped, same⟩ := World.eq_of_act begun
  obtain ⟨idle, free, -, starting⟩ := Slots.starting_of_begin stepped proceeds
  have sane := invariant.sane.act begun trivial
  have known := invariant.here
  rw [here] at known
  obtain ⟨untouched, e, named, asking⟩ := known
  have old : ∀ m query, world.position m = some query → query < s.world.guest.queries := by
    intro m query mine
    rw [same] at mine
    exact (invariant.sane.known m query mine).1
  have question : s.question n p = some ⟨e.name, e.query.type⟩ := by
    have whole := cString_copyInput (normalizeName_eq_ok named.2).2.1
    rw [State.question, named.1, Option.bind_some, asking.written idle, Option.map_some, whole]
  constructor
  case sane => exact { sane with }
  case plain => exact invariant.plain
  case inside => exact fun _ => .inl ⟨n, p, here⟩
  case here =>
    dsimp only
    rw [here]
    refine ⟨untouched, e, named, ?_, ?_⟩
    · intro nothing
      rw [starting] at nothing
      cases nothing
    · intro begun id inside accepted
      rw [starting] at inside
      cases inside
      exact (Function.update_self ..).trans question
  case placed =>
    rcases invariant.placed_act begun (by simp) with ended | placed
    · exact .inl ended
    · right
      intro m entry present
      rcases placed m entry present with unstarted | ⟨bound, accepted⟩
      · exact .inl unstarted
      · refine .inr ⟨bound.ask _ ?_, accepted⟩
        intro query mine
        exact Nat.ne_of_lt (old m query mine)
  case settled =>
    apply invariant.settled_extend
    intro m
    have grows := World.extends_act (n := m) begun
    refine ⟨grows.position, ?_, grows.notes⟩
    intro query small
    exact (Function.update_of_ne (Nat.ne_of_lt small) ..).trans (grows.questions query small)

/-- `ub_resolve_event` has returned, and `resolve_start` after it. -/
theorem left {starting : Starting} (invariant : Invariant parser s)
    (here : s.resolve.pc = .callStart n p) (inside : s.world.guest.starting = some starting)
    (returned : s.world.act .startReturn = some world)
    (answered : s.answer parser starting.value { world with
      position := match starting.result with
        | .ok _ => Function.update world.position n (some starting.query)
        | .error _ => world.position } = some after) : Invariant parser after := by
  obtain ⟨stepped, same⟩ := World.eq_of_act returned
  have sane := invariant.sane.act returned trivial
  have idle := Slots.starting_of_ends stepped trivial
  have settled := invariant.settled_extend fun n => World.extends_act (n := n) returned
  have placed : ∀ m e, s.resolve.entries[m]? = some e → Placed world m e := by
    rcases invariant.placed_act returned (by simp) with ended | placed
    · simp [here, stage] at ended
    · exact placed
  have inRange := invariant.sane.inRange starting inside
  cases result : starting.result with
  | error err =>
      simp only [Starting.value, result] at answered
      obtain ⟨low, high⟩ := Batches.ubErrno_bounds err
      rw [enospc] at high
      apply invariant.asked here answered (by omega) (by omega) sane idle
      case bound => exact fun _ _ positive => by omega
      case placed => exact placed
      case settled => exact settled
  | ok id =>
      simp only [Starting.value, result] at answered
      obtain ⟨used, holder, started⟩ :=
        invariant.sane.kept.holder_returned stepped inside result
      have known := invariant.here
      rw [here] at known
      obtain ⟨untouched, -⟩ := known
      have unplaced := invariant.sane.unplaced inside result
      have small := (invariant.sane.kept.numbered.unstarted starting id inside result).1
      rw [maxResults] at inRange
      apply invariant.asked here answered (by omega) (by omega)
      case sane =>
        apply sane.place (Nat.lt_of_lt_of_le small (Slots.queries_step stepped))
        · rw [same]
          exact ⟨_, started⟩
        · rw [same]
          exact unplaced
      case idle => exact idle
      case bound =>
        intro e asking _
        refine ⟨by rw [maxResults]; omega, ?_, starting.query, Function.update_self .., ?_, ?_⟩
        · rw [Int.add_sub_cancel]
          exact used
        · rw [Int.add_sub_cancel, same]
          exact holder
        · rw [same]
          exact asking.asked starting id inside result
      case placed =>
        intro m e present
        by_cases same : m = n
        · subst same
          exact .inl (untouched m e (Nat.le_refl m) present).1
        · rcases placed m e present with unstarted | ⟨bound, accepted⟩
          · exact .inl unstarted
          · exact .inr ⟨bound.place same _, accepted⟩
      case settled =>
        intro m e present
        by_cases same : m = n
        · subst same
          exact untouched.settled (Nat.le_refl m) present
        · have before := settled m e present
          have grows : world.Extends
              { world with position := Function.update world.position n (some starting.query) }
              m := by
            refine ⟨?_, fun _ _ => rfl, List.Subset.refl _⟩
            intro query mine
            exact (Function.update_of_ne same ..).trans mine
          constructor
          case result => exact fun res found => (before.result res found).extend sane grows
          case err =>
            exact fun err found isReported =>
              (before.err err found isReported).extend sane grows

/-- What a poll says of a position is what libunbound has reported for it. -/
theorem polls {e : Entry} {value : Int} {memory : Memory} (invariant : Invariant parser s)
    (here : s.resolve.pc = .poll n p) (present : s.resolve.entries[n]? = some e)
    (started : e.rid ≠ 0)
    (got : guestResultGet s.world.guest.memory s.world.guest.results e.rid p =
      some (value, memory)) {poll : Poll}
    (polled : poll = pollResult parser false (asInt32 (reply value memory)) p e.name
      e.query.type) : value = 0 ∧ poll = .pending ∨ Justified parser s.world n e.query poll := by
  obtain ⟨inMemory, clear⟩ : p + resultSize ≤ s.world.guest.memory.size ∧
      s.world.guest.Clear p resultSize := by
    have known := invariant.here
    rwa [here] at known
  obtain ⟨bound, accepted⟩ : Bound s.world n e e.rid ∧
      normalizeName e.query.name = .ok e.name := by
    rcases invariant.placed with ended | placed
    · simp [here, stage] at ended
    · exact (placed n e present).resolve_left started
  rcases invariant.sane.remembering.polled parser bound.valid bound.used inMemory clear got with
    rfl | ⟨rfl, query, outcome, packetBlock, whyBlock, held, completed, mapped⟩
  · exact .inl ⟨rfl, polled⟩
  · obtain ⟨number, mine, holder, asked⟩ := bound.query
    rw [held] at holder
    cases holder
    have mapped := mapped e.name e.query.type
    rw [show asInt32 (reply 1 memory) = .ok (1, memory) from rfl] at polled
    rw [← polled] at mapped
    exact .inr ⟨e.name, query, outcome, packetBlock, whyBlock, accepted, mine, asked, completed,
      mapped⟩

/-- Settling a position keeps what is known of the others and where its own query is. -/
theorem settled_modify {e : Entry} {entries : List Entry} (change : Entry → Entry)
    (present : entries[n]? = some e)
    (placed : ∀ m e, entries[m]? = some e → Placed world m e)
    (settled : ∀ m e, entries[m]? = some e → Settled parser world m e)
    (kept : (change e).rid = e.rid ∧ (change e).name = e.name ∧ (change e).query = e.query)
    (done : Settled parser world n (change e)) (m : Nat) (e' : Entry)
    (found : (entries.modify n change)[m]? = some e') :
    Placed world m e' ∧ Settled parser world m e' := by
  rcases getElem?_of_modify found with ⟨rfl, before, there, rfl⟩ | ⟨-, found⟩
  · rw [present] at there
    cases there
    exact ⟨(placed m e present).congr kept.1 kept.2.1 kept.2.2, done⟩
  · exact ⟨placed m e' found, settled m e' found⟩

/-- What the host makes of a poll. -/
theorem polled {e : Entry} {poll : Poll} {before : Resolve.State}
    (polled : after.resolve = before.polled n p poll) (present : before.entries[n]? = some e)
    (unsettled : e.unsettled = true) (sane : Sane after.world) (plain : Plain after.resolve)
    (idle : after.world.guest.starting = none)
    (here : Here after.world after.resolve.entries (.polling p))
    (placed : ∀ m e, before.entries[m]? = some e → Placed after.world m e)
    (settled : ∀ m e, before.entries[m]? = some e → Settled parser after.world m e)
    (justified : poll = .pending ∨ Justified parser after.world n e.query poll) :
    Invariant parser after := by
  obtain ⟨noResult, noErr⟩ := Entry.result_of_unsettled unsettled
  have inside : after.world.guest.starting ≠ none →
      (∃ n p, after.resolve.pc = .callStart n p) ∨ Doomed after.resolve :=
    fun begun => absurd idle begun
  rcases justified with rfl | justified
  · refine ⟨sane, plain, inside, ?_, .inr ?_, ?_⟩ <;> rw [polled]
    · exact here
    · exact placed
    · exact settled
  rcases justified.settles with ⟨err, rfl⟩ | ⟨res, rfl⟩
  · have done : Settled parser after.world n { e with err := some err } := by
      refine ⟨by simp [noResult], ?_⟩
      rintro other ⟨⟩ -
      exact justified
    have onward := settled_modify (fun e => { e with err := some err }) present placed settled
      ⟨rfl, rfl, rfl⟩ done
    refine ⟨sane, plain, inside, ?_, .inr ?_, ?_⟩ <;> rw [polled]
    · exact here
    · exact fun m e' found => (onward m e' found).1
    · exact fun m e' found => (onward m e' found).2
  · have done : Settled parser after.world n { e with result := some res } := by
      refine ⟨?_, by simp [noErr]⟩
      rintro other ⟨⟩
      exact justified
    have onward := settled_modify (fun e => { e with result := some res }) present placed settled
      ⟨rfl, rfl, rfl⟩ done
    refine ⟨sane, plain, inside, ?_, .inr ?_, ?_⟩ <;> rw [polled]
    · exact here
    · exact fun m e' found => (onward m e' found).1
    · exact fun m e' found => (onward m e' found).2

/-- The host polls for a position that has not settled. -/
theorem got {e : Entry} {value : Int} {memory : Memory} (invariant : Invariant parser s)
    (here : s.resolve.pc = .poll n p) (present : s.resolve.entries[n]? = some e)
    (got : guestResultGet s.world.guest.memory s.world.guest.results e.rid p =
      some (value, memory)) (moved : s.world.act (.resultGet e.rid p) = some world)
    (answered : s.answer parser value world = some after) : Invariant parser after := by
  obtain ⟨-, rfl, answer⟩ := State.eq_of_answer answered
  obtain ⟨stepped, -⟩ := World.eq_of_act moved
  obtain ⟨inMemory, clear⟩ : p + resultSize ≤ s.world.guest.memory.size ∧
      s.world.guest.Clear p resultSize := by
    have known := invariant.here
    rwa [here] at known
  have heaped : s.world.guest.Heaped (.resultGet e.rid p) := ⟨inMemory, clear⟩
  have placed : ∀ m e, s.resolve.entries[m]? = some e → Placed after.world m e := by
    rcases invariant.placed_act moved (by simp) with ended | placed
    · simp [here, stage] at ended
    · exact placed
  obtain ⟨started, unsettled, before, resolved, same⟩ :=
    State.polled_of_answer here present got moved answered
  have justified := invariant.polls here present started got rfl
  rw [← same] at present placed
  refine polled resolved present unsettled ?sane ?plain ?idle ?here placed ?settled ?justified
  case sane => exact invariant.sane.act moved heaped
  case plain => exact invariant.plain.step answer trivial
  case idle => exact Slots.starting_of_ends stepped trivial
  case here =>
    exact ⟨Nat.le_trans inMemory (Slots.size_step stepped heaped),
      invariant.sane.kept.clear_step stepped heaped invariant.sane.remembering clear (by simp)⟩
  case settled =>
    rw [same]
    exact invariant.settled_extend fun n => World.extends_act moved
  case justified =>
    exact justified.imp And.right fun justified =>
      justified.extend invariant.sane (World.extends_act moved)

theorem cancelled {ret : Returned} {rid : Int} (invariant : Invariant parser s)
    (here : s.resolve.pc = .callCancel n ret)
    (moved : s.world.act (.resolveCancel rid) = some world)
    (answered : s.answer parser 0 world = some after) : Invariant parser after := by
  obtain ⟨alive, rfl, answer⟩ := State.eq_of_answer answered
  have plain := invariant.plain.step answer trivial
  obtain ⟨stepped, -⟩ := World.eq_of_act moved
  obtain ⟨failed, logged⟩ := s.resolve.log_eq .resolveCancel
    (reply 0 after.world.guest.memory)
  simp only [Resolve.State.step, Resolve.State.resolveStep, here, logged,
    Option.some.injEq] at answer
  have ended : stage after.resolve.pc = .ended := by rw [← answer]; rfl
  have entries : after.resolve.entries = s.resolve.entries := by rw [← answer]; rfl
  constructor
  case sane => exact invariant.sane.act moved trivial
  case plain => exact plain
  case inside => exact fun begun => absurd (Slots.starting_of_ends stepped trivial) begun
  case here =>
    rw [ended]
    trivial
  case placed => exact .inl ended
  case settled =>
    rw [entries]
    exact invariant.settled_extend fun n => World.extends_act moved

theorem next {ret : Returned} (queries : List Query) (invariant : Invariant parser s)
    (here : s.resolve.pc = .returned ret) :
    Invariant parser
      ⟨s.resolve.resolveAll queries, { s.world with position := fun _ => none }⟩ := by
  constructor
  case sane =>
    exact { invariant.sane with
      known := fun _ _ impossible => by cases impossible
      distinct := fun _ _ _ impossible => by cases impossible }
  case plain => exact ⟨fun _ _ _ impossible => (by cases impossible), invariant.plain.cause⟩
  case inside =>
    intro begun
    rcases invariant.inside begun with ⟨n, p, there⟩ | ⟨n, p, err, there⟩ | ⟨shutting, -⟩
    · simp [here] at there
    · simp [here] at there
    · rcases shutting with closed | ⟨err, p, there⟩
      · exact .inr (.inr ⟨.inl closed, rfl⟩)
      · simp [here] at there
  case here => exact untouched_new queries
  case placed => exact .inr (placed_new queries)
  case settled => exact settled_new queries

/-- One step keeps it. -/
theorem step {action : Action} (invariant : Invariant parser s) (careful : Careful s action)
    (stepped : s.step parser action = some after) : Invariant parser after := by
  cases State.moved_of_step stepped with
  | host own hosted => exact invariant.host own hosted careful
  | alloc alive asked hosted written =>
      exact invariant.alloc alive asked hosted written careful.1 (careful.2 _ asked)
  | refused here refused begun answered => exact invariant.refused here refused begun answered
  | entered here proceeds begun => exact invariant.entered here proceeds begun
  | left here inside returned answered => exact invariant.left here inside returned answered
  | callback running called =>
      apply invariant.during running called careful.1 trivial
      rintro completion ⟨⟩
      exact careful.2
  | write running written =>
      apply invariant.during running written careful trivial
      simp
  | got here present got moved answered => exact invariant.got here present got moved answered
  | cancelled here _ moved answered => exact invariant.cancelled here moved answered
  | next queries here => exact invariant.next queries here

theorem initial (parser : MessageParser) (memory : Memory) (queries : List Query) :
    Invariant parser (answers parser memory queries).initial := by
  constructor
  case sane =>
    constructor
    case kept => exact Slots.Kept.initial memory
    case remembering => exact fun _ impossible => by cases impossible
    case inRange => exact fun _ impossible => by cases impossible
    case known => exact fun _ _ impossible => by cases impossible
    case distinct => exact fun _ _ _ impossible => by cases impossible
  case plain =>
    exact ⟨fun _ _ _ impossible => (by cases impossible), fun _ impossible => by cases impossible⟩
  case inside => exact fun begun => absurd rfl begun
  case here => exact untouched_new queries
  case placed => exact .inr (placed_new queries)
  case settled => exact settled_new queries

end Invariant

/-! ## What a batch returns -/

/-- The queries of the batch. -/
def State.batch (s : State) : List Query := s.resolve.entries.map Entry.query

section

variable {parser : MessageParser} {s after : State}

end

/-- libunbound has reported nothing yet. -/
def silent (w : World) : Bool :=
  w.notes.all fun
    | .completed _ _ => false
    | .started _ _ | .got _ _ => true

/-- What `ResolveAll` has returned. -/
def outcome : Pc → Option Returned
  | .returned ret => some ret
  | _ => none

def oneQuery : List Query := [⟨[97], 1⟩]

end UnboundWasm.System.Answers
