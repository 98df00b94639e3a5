import Mathlib.Data.List.Count
import UnboundWasm.Guest.Slots

/-!
# Attribution of results

A slot is used for one query after another.  Whatever `result_get` reports as ready is
the outcome of the query that was started last with the id of the slot, and never that
of one that was cancelled: `resolve_cancel` ends the query before it clears the slot, so
a live query always has its slot to itself.
-/

namespace UnboundWasm.Guest

open UnboundWasm.Lib UnboundWasm.Host

namespace SlotNote

def startedFor (rid : Int) : SlotNote → Option Nat
  | .started other query => if other = rid then some query else none
  | .completed _ _ | .got _ _ => none

def starts (query : Nat) : SlotNote → Bool
  | .started _ other => other = query
  | .completed _ _ | .got _ _ => false

def completes (query : Nat) : SlotNote → Bool
  | .completed other _ => other = query
  | .started _ _ | .got _ _ => false

end SlotNote

/-- The query of the most recent `resolve_start` that returned this id. -/
def latest (rid : Int) (log : List SlotNote) : Option Nat :=
  (log.filterMap (SlotNote.startedFor rid)).getLast?

@[simp] theorem latest_started (rid other : Int) (query : Nat) (log : List SlotNote) :
    latest rid (log ++ [.started other query]) =
      if other = rid then some query else latest rid log := by
  rw [latest, List.filterMap_append]
  split
  next same => simp [SlotNote.startedFor, same]
  next different => simp [SlotNote.startedFor, different, latest]

@[simp] theorem latest_completed (rid : Int) (query : Nat) (outcome : Outcome)
    (log : List SlotNote) : latest rid (log ++ [.completed query outcome]) = latest rid log := by
  simp [latest, SlotNote.startedFor]

@[simp] theorem latest_got (rid other : Int) (written : Bytes) (log : List SlotNote) :
    latest rid (log ++ [.got other written]) = latest rid log := by
  simp [latest, SlotNote.startedFor]

/-- The slot holds what `result_cb` wrote for this outcome. -/
def Reports (outcome : Outcome) (s : Slot) : Prop :=
  ∃ memory ubid packetBlock whyBlock after,
    resultCb memory { clearResult with used := true, ubid := ubid } outcome packetBlock whyBlock =
      some (after, { s with ubid := 0 })

theorem copyPacket_used {memory after : Memory} {s slot : Slot} {block : Option Nat}
    {packet : Option Bytes} (copied : copyPacket memory s block packet = some (after, slot)) :
    slot.used = s.used := by
  unfold copyPacket at copied
  split at copied
  · cases copied
    rfl
  · cases copied
    rfl
  · split at copied
    · cases copied
      rfl
    · obtain ⟨_, _, same⟩ := Option.map_eq_some_iff.mp copied
      cases same
      rfl

theorem copyWhy_used {memory after : Memory} {s slot : Slot} {block : Option Nat}
    {why : Option Bytes} (copied : copyWhy memory s block why = some (after, slot)) :
    slot.used = s.used := by
  unfold copyWhy at copied
  split at copied
  · cases copied
    rfl
  · split at copied
    · cases copied
      rfl
    · obtain ⟨_, _, same⟩ := Option.map_eq_some_iff.mp copied
      cases same
      rfl

theorem resultCb_ready {memory after : Memory} {s slot : Slot} {outcome : Outcome}
    {packetBlock whyBlock : Option Nat} (used : s.used = true)
    (written : resultCb memory s outcome packetBlock whyBlock = some (after, slot)) :
    slot.used = true ∧ slot.ready = true ∧ slot.ubid = 0 := by
  rw [resultCb, if_pos used] at written
  dsimp only at written
  split at written
  · cases written
  next copied =>
    split at written
    · cases written
    next explained =>
      cases written
      refine ⟨?_, rfl, rfl⟩
      rw [copyWhy_used explained, copyPacket_used copied]
      exact used

theorem resultCb_used {memory after : Memory} {s slot : Slot} {outcome : Outcome}
    {packetBlock whyBlock : Option Nat}
    (written : resultCb memory s outcome packetBlock whyBlock = some (after, slot)) :
    slot.used = s.used := by
  cases used : s.used with
  | true => exact (resultCb_ready used written).1
  | false =>
      simp only [resultCb, used] at written
      cases written
      exact used

namespace Slots

variable {g after : Slots} {log : List SlotNote}

/-- The query a slot is in use for. -/
def holder (g : Slots) (log : List SlotNote) (slot : Int) : Option Nat :=
  match g.starting with
  | none => latest (slot + 1) log
  | some starting =>
      if starting.slot = slot then
        match starting.result with
        | .ok _ => some starting.query
        | .error _ => none
      else latest (slot + 1) log

/-- A live query has its slot to itself, and its id is in it unless `resolve_start` is
yet to put it there. -/
structure Lodged (g : Slots) (log : List SlotNote) (live : Live) : Prop where
  nonzero : live.id ≠ 0
  ctx : g.ctx = true
  number : live.query < g.queries
  used : (g.results live.slot).used = true
  pending : (g.results live.slot).ready = false
  holder : g.holder log live.slot = some live.query
  begun : ∀ starting, g.starting = some starting → starting.slot = live.slot →
    starting.result = .ok live.id
  ubid : (∀ starting, g.starting = some starting → starting.slot ≠ live.slot) →
    (g.results live.slot).ubid = live.id

/-- The slot holds the outcome of the query it is in use for. -/
def Answered (g : Slots) (log : List SlotNote) (slot : Int) : Prop :=
  ∃ query outcome, g.holder log slot = some query ∧ .completed query outcome ∈ log ∧
    Reports outcome (g.results slot)

/-- What is in a slot that is free, that waits, and that is ready. -/
structure Tended (g : Slots) (log : List SlotNote) (slot : Int) : Prop where
  blank : (g.results slot).used = false → g.results slot = clearResult
  fresh : (g.results slot).used = true → (g.results slot).ready = false →
    ∃ ubid, g.results slot = { clearResult with used := true, ubid := ubid }
  ready : (g.results slot).ready = true → g.Answered log slot

/-- Every query is started at most once and completed at most once. -/
structure Numbered (g : Slots) (log : List SlotNote) : Prop where
  unknown : ∀ query, g.queries ≤ query →
    log.countP (SlotNote.completes query) = 0 ∧ log.countP (SlotNote.starts query) = 0
  unstarted : ∀ starting id, g.starting = some starting → starting.result = .ok id →
    starting.query < g.queries ∧ log.countP (SlotNote.starts starting.query) = 0
  once : ∀ query, log.countP (SlotNote.completes query) ≤ 1 ∧
    log.countP (SlotNote.starts query) ≤ 1

/-- What holds of the slots and their log at any time. -/
structure Kept (g : Slots) (log : List SlotNote) : Prop where
  live : ∀ live ∈ g.live, g.Lodged log live ∧ log.countP (SlotNote.completes live.query) = 0
  slots : ∀ slot, g.Tended log slot
  taken : ∀ starting, g.starting = some starting → (g.results starting.slot).used = true
  numbered : g.Numbered log

theorem Kept.initial (memory : Memory) : Kept (initial memory) [] := by
  constructor
  case live => exact fun _ impossible => by cases impossible
  case slots =>
    exact fun _ => ⟨fun _ => rfl, fun impossible => (by cases impossible),
      fun impossible => (by cases impossible)⟩
  case taken => exact fun _ impossible => by cases impossible
  case numbered =>
    exact ⟨fun _ _ => ⟨rfl, rfl⟩, fun _ _ impossible => (by cases impossible),
      fun _ => ⟨Nat.zero_le 1, Nat.zero_le 1⟩⟩

/-- A step that is about one slot leaves the others alone. -/
structure Elsewhere (g after : Slots) (log more : List SlotNote) (slot : Int) : Prop where
  ctx : g.ctx = true → after.ctx = true
  queries : g.queries ≤ after.queries
  results : ∀ other, other ≠ slot → after.results other = g.results other
  starting : ∀ starting, starting.slot ≠ slot →
    (after.starting = some starting ↔ g.starting = some starting)
  holder : ∀ other, other ≠ slot → after.holder more other = g.holder log other
  log : log ⊆ more

variable {more : List SlotNote} {slot : Int}

theorem Elsewhere.lodged {live : Live} (elsewhere : Elsewhere g after log more slot)
    (lodged : g.Lodged log live) (different : live.slot ≠ slot) : after.Lodged more live := by
  have results := elsewhere.results live.slot different
  constructor
  case nonzero => exact lodged.nonzero
  case ctx => exact elsewhere.ctx lodged.ctx
  case number => exact Nat.lt_of_lt_of_le lodged.number elsewhere.queries
  case used => exact results ▸ lodged.used
  case pending => exact results ▸ lodged.pending
  case holder => exact (elsewhere.holder live.slot different).trans lodged.holder
  case begun =>
    intro starting here same
    have before := (elsewhere.starting starting (same ▸ different)).mp here
    exact lodged.begun starting before same
  case ubid =>
    intro notHere
    rw [results]
    apply lodged.ubid
    intro starting before same
    exact notHere starting ((elsewhere.starting starting (same ▸ different)).mpr before) same

theorem Elsewhere.tended {other : Int} (elsewhere : Elsewhere g after log more slot)
    (tended : g.Tended log other) (different : other ≠ slot) : after.Tended more other := by
  have results := elsewhere.results other different
  constructor
  case blank => exact results ▸ tended.blank
  case fresh => exact results ▸ tended.fresh
  case ready =>
    intro isReady
    obtain ⟨query, outcome, held, completed, reports⟩ := tended.ready (results ▸ isReady)
    exact ⟨query, outcome, (elsewhere.holder other different).trans held,
      elsewhere.log completed, results ▸ reports⟩

theorem tended_of_cleared (cleared : g.results slot = clearResult) : g.Tended log slot := by
  constructor
  case blank => exact fun _ => cleared
  case fresh =>
    intro used
    rw [cleared] at used
    cases used
  case ready =>
    intro isReady
    rw [cleared] at isReady
    cases isReady

/-- `resolve_start` leaves libunbound, which concerns its own slot only. -/
theorem starting_of_other {starting other : Starting} (here : g.starting = some starting)
    (different : other.slot ≠ starting.slot) :
    (none : Option Starting) = some other ↔ g.starting = some other := by
  rw [here]
  constructor
  · exact fun impossible => by cases impossible
  · rintro ⟨⟩
    exact absurd rfl different

/-- After a step about one slot it is that slot, the numbers and the live queries that
have to be looked at. -/
theorem Kept.elsewhere (kept : g.Kept log) (elsewhere : Elsewhere g after log more slot)
    (live : ∀ live ∈ after.live, (live ∈ g.live ∧ live.slot ≠ slot ∨ after.Lodged more live) ∧
      more.countP (SlotNote.completes live.query) = 0)
    (tended : after.Tended more slot)
    (taken : ∀ starting, after.starting = some starting → starting.slot = slot →
      (after.results slot).used = true)
    (numbered : after.Numbered more) : after.Kept more := by
  constructor
  case live =>
    intro live' present
    obtain ⟨old | lodged, uncompleted⟩ := live live' present
    · exact ⟨elsewhere.lodged (kept.live live' old.1).1 old.2, uncompleted⟩
    · exact ⟨lodged, uncompleted⟩
  case slots =>
    intro other
    by_cases same : other = slot
    · exact same ▸ tended
    · exact elsewhere.tended (kept.slots other) same
  case taken =>
    intro starting here
    by_cases same : starting.slot = slot
    · rw [same]
      exact taken starting here same
    · rw [elsewhere.results _ same]
      exact kept.taken starting ((elsewhere.starting starting same).mp here)
  case numbered => exact numbered

/-- The memory changes, or the context comes into being, or a result is reported. -/
theorem Kept.quiet {memory : Memory} {ctx : Bool} {entry : Option SlotNote} (kept : g.Kept log)
    (ready : g.ctx = true → ctx = true)
    (plain : ∀ note, entry = some note → ∃ rid written, note = .got rid written) :
    Kept { g with memory := memory, ctx := ctx } (log ++ entry.toList) := by
  have counts : ∀ query, (log ++ entry.toList).countP (SlotNote.completes query) =
      log.countP (SlotNote.completes query) ∧
      (log ++ entry.toList).countP (SlotNote.starts query) =
        log.countP (SlotNote.starts query) := by
    intro query
    cases entry with
    | none => simp
    | some note =>
        obtain ⟨rid, written, rfl⟩ := plain note rfl
        simp [SlotNote.completes, SlotNote.starts]
  -- The step is about no slot, so it is elsewhere for each.
  have elsewhere : ∀ slot, Elsewhere g { g with memory := memory, ctx := ctx } log
      (log ++ entry.toList) slot := by
    intro slot
    refine ⟨ready, Nat.le_refl _, fun _ _ => rfl, fun _ _ => Iff.rfl, ?_,
      List.subset_append_left _ _⟩
    intro other _
    cases entry with
    | none => simp [Slots.holder]
    | some note =>
        obtain ⟨rid, written, rfl⟩ := plain note rfl
        simp [Slots.holder]
  constructor
  case live =>
    intro live present
    obtain ⟨lodged, uncompleted⟩ := kept.live live present
    refine ⟨(elsewhere (live.slot + 1)).lodged lodged ?_, (counts live.query).1.trans uncompleted⟩
    omega
  case slots => exact fun slot => (elsewhere (slot + 1)).tended (kept.slots slot) (by omega)
  case taken => exact kept.taken
  case numbered =>
    constructor
    case unknown =>
      intro query unused
      rw [(counts query).1, (counts query).2]
      exact kept.numbered.unknown query unused
    case unstarted =>
      intro starting id here accepted
      rw [(counts starting.query).2]
      exact kept.numbered.unstarted starting id here accepted
    case once =>
      intro query
      rw [(counts query).1, (counts query).2]
      exact kept.numbered.once query

theorem unused_of_freeSlot {results : Int → Slot} {slot : Nat}
    (free : freeSlot results = some slot) : (results slot).used = false := by
  simpa using List.find?_some free

/-- `resolve_start` takes a slot and calls libunbound, which may accept the query. -/
theorem Kept.begin {slot : Nat} {result : Except UbError Int} {new : List Live} {queries : Nat}
    (kept : g.Kept log) (idle : g.starting = none) (free : freeSlot g.results = some slot)
    (grown : g.queries ≤ queries) (counted : ∀ id, result = .ok id → g.queries < queries)
    (newcomer : ∀ live ∈ new, live = ⟨g.queries, live.id, slot⟩ ∧ live.id ≠ 0 ∧
      result = .ok live.id) :
    Kept { g.set slot { g.results slot with used := true } with
      ctx := true
      live := new ++ g.live
      queries := queries
      starting := some ⟨slot, g.queries, result⟩ } log := by
  have unused := unused_of_freeSlot free
  have cleared := (kept.slots slot).blank unused
  have unknown := kept.numbered.unknown g.queries (Nat.le_refl _)
  have elsewhere : Elsewhere g { g.set slot { g.results slot with used := true } with
      ctx := true
      live := new ++ g.live
      queries := queries
      starting := some ⟨slot, g.queries, result⟩ } log log slot := by
    refine ⟨fun _ => rfl, grown, fun other different => by simp [Slots.set, different], ?_, ?_,
      List.Subset.refl _⟩
    · intro starting different
      rw [idle]
      constructor
      · rintro ⟨⟩
        exact absurd rfl different
      · exact fun impossible => by cases impossible
    · intro other different
      simp [Slots.holder, idle, different.symm]
  apply kept.elsewhere elsewhere
  case live =>
    intro live present
    rcases List.mem_append.mp present with isNew | old
    · obtain ⟨same, nonzero, accepted⟩ := newcomer live isNew
      have slot_eq : live.slot = slot := by rw [same]
      have query_eq : live.query = g.queries := by rw [same]
      rw [query_eq]
      refine ⟨.inr ?_, unknown.1⟩
      constructor
      case nonzero => exact nonzero
      case ctx => rfl
      case number => exact query_eq ▸ counted live.id accepted
      case used => simp [Slots.set, slot_eq]
      case pending => simp [Slots.set, slot_eq, cleared, clearResult]
      case holder => simp [Slots.holder, slot_eq, accepted, query_eq]
      case begun =>
        rintro starting ⟨⟩ _
        exact accepted
      case ubid => exact fun notHere => absurd slot_eq.symm (notHere _ rfl)
    · obtain ⟨lodged, uncompleted⟩ := kept.live live old
      refine ⟨.inl ⟨old, ?_⟩, uncompleted⟩
      intro same
      have used := lodged.used
      rw [same, unused] at used
      cases used
  case tended =>
    constructor
    case blank => simp [Slots.set]
    case fresh => exact fun _ _ => ⟨0, by simp [Slots.set, cleared, clearResult]⟩
    case ready => simp [Slots.set, cleared, clearResult]
  case taken => simp [Slots.set]
  case numbered =>
    constructor
    case unknown =>
      exact fun query unused => kept.numbered.unknown query (Nat.le_trans grown unused)
    case unstarted =>
      rintro starting id ⟨⟩ accepted
      exact ⟨counted id accepted, unknown.2⟩
    case once => exact kept.numbered.once

/-- The query was not accepted, so nothing refers to the slot that is cleared. -/
theorem Kept.rejected {starting : Starting} {err : UbError} (kept : g.Kept log)
    (here : g.starting = some starting) (failed : starting.result = .error err) :
    Kept { g.set starting.slot clearResult with starting := none } log := by
  have elsewhere : Elsewhere g { g.set starting.slot clearResult with starting := none } log log
      starting.slot := by
    refine ⟨id, Nat.le_refl _, fun other different => by simp [Slots.set, different],
      fun _ different => starting_of_other here different, ?_, List.Subset.refl _⟩
    intro other different
    simp [Slots.holder, here, different.symm]
  apply kept.elsewhere elsewhere
  case live =>
    intro live present
    obtain ⟨lodged, uncompleted⟩ := kept.live live present
    refine ⟨.inl ⟨present, ?_⟩, uncompleted⟩
    intro same
    have accepted := lodged.begun starting here same.symm
    rw [failed] at accepted
    cases accepted
  case tended => exact tended_of_cleared (by simp [Slots.set])
  case taken => exact fun _ impossible => by cases impossible
  case numbered =>
    exact ⟨kept.numbered.unknown, fun _ _ impossible => (by cases impossible),
      kept.numbered.once⟩

/-- The id is stored, whether or not the callback came first. -/
theorem Kept.started {starting : Starting} {id : Int} (kept : g.Kept log)
    (here : g.starting = some starting) (accepted : starting.result = .ok id) :
    Kept { g.set starting.slot { g.results starting.slot with ubid := id } with starting := none }
      (log ++ [.started (starting.slot + 1) starting.query]) := by
  obtain ⟨number, unstarted⟩ := kept.numbered.unstarted starting id here accepted
  have used := kept.taken starting here
  have holder : ∀ slot, Slots.holder
      { g.set starting.slot { g.results starting.slot with ubid := id } with starting := none }
        (log ++ [.started (starting.slot + 1) starting.query]) slot = g.holder log slot := by
    intro slot
    simp only [Slots.holder, here, latest_started, accepted, add_left_inj]
  have completes : ∀ query, (log ++ [SlotNote.started (starting.slot + 1) starting.query]).countP
      (SlotNote.completes query) = log.countP (SlotNote.completes query) := by
    intro query
    simp [SlotNote.completes]
  have elsewhere : Elsewhere g
      { g.set starting.slot { g.results starting.slot with ubid := id } with starting := none }
      log (log ++ [.started (starting.slot + 1) starting.query]) starting.slot :=
    ⟨fun ctx => ctx, Nat.le_refl _, fun other different => by simp [Slots.set, different],
      fun _ different => starting_of_other here different, fun other _ => holder other,
      List.subset_append_left _ _⟩
  apply kept.elsewhere elsewhere
  case live =>
    intro live present
    obtain ⟨lodged, uncompleted⟩ := kept.live live present
    refine ⟨?_, (completes _).trans uncompleted⟩
    by_cases same : live.slot = starting.slot
    · have own := lodged.begun starting here same.symm
      rw [accepted] at own
      cases own
      right
      constructor
      case nonzero => exact lodged.nonzero
      case ctx => exact lodged.ctx
      case number => exact lodged.number
      case used => simpa [Slots.set, same] using used
      case pending => simpa [Slots.set, same] using lodged.pending
      case holder => exact (holder _).trans lodged.holder
      case begun => exact fun _ impossible => by cases impossible
      case ubid => simp [Slots.set, same]
    · exact .inl ⟨present, same⟩
  case tended =>
    have tended := kept.slots starting.slot
    constructor
    case blank => simp [Slots.set, used]
    case fresh =>
      intro _ pending
      obtain ⟨ubid, fresh⟩ := tended.fresh used (by simpa [Slots.set] using pending)
      exact ⟨id, by simp [Slots.set, fresh]⟩
    case ready =>
      intro isReady
      obtain ⟨query, outcome, held, completed, reports⟩ :=
        tended.ready (by simpa [Slots.set] using isReady)
      refine ⟨query, outcome, (holder _).trans held, List.mem_append_left _ completed, ?_⟩
      simpa [Slots.set, Reports] using reports
  case taken => exact fun _ impossible => by cases impossible
  case numbered =>
    constructor
    case unknown =>
      intro query unused
      have before := kept.numbered.unknown query unused
      have other : starting.query ≠ query := Nat.ne_of_lt (Nat.lt_of_lt_of_le number unused)
      rw [completes, List.countP_append, before.2]
      exact ⟨before.1, by simp [SlotNote.starts, other]⟩
    case unstarted => exact fun _ _ impossible => by cases impossible
    case once =>
      intro query
      have before := kept.numbered.once query
      rw [completes, List.countP_append]
      refine ⟨before.1, ?_⟩
      by_cases same : starting.query = query
      · subst same
        rw [unstarted]
        simp [SlotNote.starts]
      · simpa [SlotNote.starts, same] using before.2

/-- The callback of a live query fills the slot that is in use for it. -/
theorem Kept.callback {completion : Completion} {live : Live} {memory : Memory} {value : Slot}
    (kept : g.Kept log) (present : live ∈ g.live) (same : live.query = completion.query)
    (written : resultCb g.memory (g.results live.slot) completion.outcome
      completion.packetBlock completion.whyBlock = some (memory, value)) :
    Kept { g.set live.slot value with
      memory := memory
      live := g.live.filter fun other => other.query ≠ completion.query }
      (log ++ [.completed completion.query completion.outcome]) := by
  obtain ⟨lodged, uncompleted⟩ := kept.live live present
  obtain ⟨used, ready, done⟩ := resultCb_ready lodged.used written
  obtain ⟨ubid, fresh⟩ := (kept.slots live.slot).fresh lodged.used lodged.pending
  rw [same] at uncompleted
  have holder : ∀ slot, Slots.holder { g.set live.slot value with
      memory := memory
      live := g.live.filter fun other => other.query ≠ completion.query }
      (log ++ [.completed completion.query completion.outcome]) slot = g.holder log slot := by
    intro slot
    simp only [Slots.holder, Slots.set, latest_completed]
  have starts : ∀ query, (log ++ [SlotNote.completed completion.query
      completion.outcome]).countP (SlotNote.starts query) =
        log.countP (SlotNote.starts query) := by
    intro query
    simp [SlotNote.starts]
  have others : ∀ query, completion.query ≠ query → (log ++ [SlotNote.completed completion.query
      completion.outcome]).countP (SlotNote.completes query) =
        log.countP (SlotNote.completes query) := by
    intro query different
    simp [SlotNote.completes, different]
  have elsewhere : Elsewhere g { g.set live.slot value with
      memory := memory
      live := g.live.filter fun other => other.query ≠ completion.query } log
      (log ++ [.completed completion.query completion.outcome]) live.slot :=
    ⟨fun ctx => ctx, Nat.le_refl _, fun other different => by simp [Slots.set, different],
      fun _ _ => Iff.rfl, fun other _ => holder other, List.subset_append_left _ _⟩
  apply kept.elsewhere elsewhere
  case live =>
    intro other remains
    obtain ⟨old, different⟩ := List.mem_filter.mp remains
    have apart : other.query ≠ completion.query := by simpa using different
    refine ⟨.inl ⟨old, ?_⟩, (others _ (Ne.symm apart)).trans (kept.live other old).2⟩
    -- Two live queries in one slot would be one query.
    intro together
    have held := (kept.live other old).1.holder
    rw [together, lodged.holder, same, Option.some.injEq] at held
    exact apart held.symm
  case tended =>
    constructor
    case blank => simp [Slots.set, used]
    case fresh => simp [Slots.set, ready]
    case ready =>
      intro _
      refine ⟨completion.query, completion.outcome, ?_, by simp, ?_⟩
      · rw [holder, lodged.holder, same]
      · refine ⟨g.memory, ubid, completion.packetBlock, completion.whyBlock, memory, ?_⟩
        rw [← fresh, written]
        simp [Slots.set, ← done]
  case taken => simp [Slots.set, used]
  case numbered =>
    have number := same ▸ lodged.number
    constructor
    case unknown =>
      intro query unused
      rw [starts, others query (Nat.ne_of_lt (Nat.lt_of_lt_of_le number unused))]
      exact kept.numbered.unknown query unused
    case unstarted =>
      intro starting id here accepted
      rw [starts]
      exact kept.numbered.unstarted starting id here accepted
    case once =>
      intro query
      rw [starts]
      refine ⟨?_, (kept.numbered.once query).2⟩
      by_cases own : completion.query = query
      · subst own
        rw [List.countP_append, uncompleted]
        simp [SlotNote.completes]
      · rw [others query own]
        exact (kept.numbered.once query).1

/-- A slot that is cleared has no live query: it was cancelled with the slot. -/
theorem Kept.resolveCancel {rid : Int} (kept : g.Kept log) (idle : g.starting = none) :
    Kept (g.resolveCancel rid) log := by
  unfold Slots.resolveCancel
  split
  · exact kept
  dsimp only
  split
  · have elsewhere : Elsewhere g { g.set (rid - 1) clearResult with
        live := if g.ctx ∧ (g.results (rid - 1)).ubid ≠ 0 then
          g.live.filter fun live => live.id ≠ (g.results (rid - 1)).ubid else g.live }
        log log (rid - 1) :=
      ⟨fun ctx => ctx, Nat.le_refl _, fun other different => by simp [Slots.set, different],
        fun _ _ => Iff.rfl, fun _ _ => rfl, List.Subset.refl _⟩
    apply kept.elsewhere elsewhere
    case live =>
      intro live remains
      have old : live ∈ g.live := by
        dsimp only at remains
        split at remains
        · exact (List.mem_filter.mp remains).1
        · exact remains
      obtain ⟨lodged, uncompleted⟩ := kept.live live old
      refine ⟨.inl ⟨old, ?_⟩, uncompleted⟩
      intro here
      have own := lodged.ubid (by simp [idle])
      rw [here] at own
      simp [own, lodged.ctx, lodged.nonzero] at remains
    case tended => exact tended_of_cleared (by simp [Slots.set])
    case taken => simp [Slots.set, idle]
    case numbered => exact ⟨kept.numbered.unknown, kept.numbered.unstarted, kept.numbered.once⟩
  · exact kept

theorem Kept.step {action : SlotAction} (kept : g.Kept log)
    (stepped : g.step action = some after) : after.Kept (log ++ (g.note action).toList) := by
  cases moved_of_step stepped with
  | @refused start _ idle refused =>
      have silent : g.note (.resolveStart start) = none := by simp [Slots.note, idle]
      rw [silent]
      exact kept.quiet (fun ready => by simp [ready]) (fun _ impossible => by cases impossible)
  | @rejected start slot err idle _ free _ =>
      have silent : g.note (.resolveStart start) = none := by simp [Slots.note, idle]
      rw [silent, Option.toList_none, List.append_nil]
      have newcomer : ∀ live ∈ ([] : List Live), live = ⟨g.queries, live.id, slot⟩ ∧
          live.id ≠ 0 ∧ Except.error err = Except.ok live.id :=
        fun _ impossible => by cases impossible
      exact kept.begin idle free (Nat.le_refl _) (fun _ impossible => by cases impossible) newcomer
  | @accepted start slot id idle _ free _ nonzero =>
      have silent : g.note (.resolveStart start) = none := by simp [Slots.note, idle]
      rw [silent, Option.toList_none, List.append_nil]
      have newcomer : ∀ live ∈ [(⟨g.queries, id, slot⟩ : Live)],
          live = ⟨g.queries, live.id, slot⟩ ∧ live.id ≠ 0 ∧
            (Except.ok id : Except UbError Int) = .ok live.id := by
        intro live isNew
        cases List.mem_singleton.mp isNew
        exact ⟨rfl, nonzero, rfl⟩
      exact kept.begin idle free (Nat.le_succ _) (fun _ _ => Nat.lt_succ_self _) newcomer
  | @returned starting here =>
      obtain ⟨slot, query, result⟩ := starting
      cases result with
      | error err =>
          have silent : g.note .startReturn = none := by simp [Slots.note, here]
          rw [silent, Option.toList_none, List.append_nil]
          exact kept.rejected here rfl
      | ok id =>
          have noted : g.note .startReturn = some (.started (slot + 1) query) := by
            simp [Slots.note, here]
          rw [noted]
          exact kept.started here rfl
  | @callback completion live memory value present same written =>
      have noted : g.note (.callback completion) =
          some (.completed completion.query completion.outcome) := by
        cases here : g.starting <;> simp [Slots.note, here]
      rw [noted]
      exact kept.callback present same written
  | @resultGet rid out memory idle =>
      apply kept.quiet id
      intro note noted
      simp only [Slots.note, idle] at noted
      split at noted
      · cases noted
        exact ⟨_, _, rfl⟩
      · cases noted
  | resolveCancel rid idle =>
      have silent : g.note (.resolveCancel rid) = none := by simp [Slots.note, idle]
      rw [silent, Option.toList_none, List.append_nil]
      exact kept.resolveCancel idle
  | write memory =>
      have silent : g.note (.write memory) = none := by
        cases here : g.starting <;> simp [Slots.note, here]
      rw [silent]
      exact kept.quiet id (fun _ impossible => by cases impossible)

theorem Kept.of_reachable {memory : Memory}
    (reachable : (slotHistory memory).Reachable (g, log)) : g.Kept log :=
  Machine.Reaches.invariant_logged
    (fun _ _ _ _ kept (_ : Machine.always _ _) stepped => kept.step stepped) reachable
    (Kept.initial memory)

end Slots

end UnboundWasm.Guest
