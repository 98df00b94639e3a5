import UnboundWasm.Host.Sockets.Ledger

/-!
# The ownership invariant

Every move of the ledger keeps `Owned`, and the number of sockets that are live
or hold something open only grows when a socket is opened.
-/

namespace UnboundWasm.Host.Sockets

open UnboundWasm.Lib

/-- A guest call keeps what it has found while the sockets keep their types. -/
theorem Role.Ok.mono {role : Role} {socks others : Heap Owner} (ok : role.Ok socks)
    (size : socks.size ≤ others.size)
    (typ : ∀ sock < socks.size, (others.get sock).typ = (socks.get sock).typ) : role.Ok others := by
  cases role with
  | holding sock => exact Nat.lt_of_lt_of_le ok size
  | leaving sock => exact Nat.lt_of_lt_of_le ok size
  | listening sock => exact ⟨Nat.lt_of_lt_of_le ok.1 size, (typ sock ok.1).trans ok.2⟩
  | free => trivial
  | closing conns => trivial

namespace Ledger

/-- The closing loop keeps what it has done while closed sockets stay closed. -/
theorem ShutdownOk.mono {L M : Ledger} {pc : ShutdownPc} (ok : L.ShutdownOk pc)
    (entries : M.entries = L.entries)
    (closed : ∀ sock, (L.socks.get sock).closed = true → (M.socks.get sock).closed = true) :
    M.ShutdownOk pc := by
  have live : ∀ sock, M.Live sock → L.Live sock := by
    intro sock live
    simpa only [Live, lookup, entries] using live
  cases pc with
  | idle => trivial
  | timers => trivial
  | sockets => trivial
  | closing todo => exact fun sock member => (ok sock (live sock member)).imp_left (closed sock)
  | closeConns conns todo =>
      exact fun sock member => (ok sock (live sock member)).imp_left (closed sock)
  | finished => exact entries.trans ok

namespace Owned

variable {L : Ledger}

-- `-linarith` below: what is compared are references, not elements of an ordered field
attribute [grind →] entry live held pending udp tcp owner attempt oneLink oneFlight
  linkOrFlight

/-- An unclosed socket without a connection has no open one left behind. -/
theorem not_open (owned : L.Owned) {sock : Nat}
    (unclosed : (L.socks.get sock).closed = false) (udp : (L.socks.get sock).udp = none)
    (tcp : (L.socks.get sock).tcp = none) (conn : Nat) (allocated : conn < L.links.size)
    (owner : (L.links.get conn).owner = sock) : (L.links.get conn).isOpen = false := by
  by_contra isOpen
  rcases owned.held conn allocated (by simpa using isOpen) with
    ⟨other, -, -, used | used⟩ | pending
  · have := owned.udp other conn used
    grind -linarith
  · have := owned.tcp other conn used
    grind -linarith
  · have := owned.pending conn pending
    grind -linarith

theorem tcp_eq_none (owned : L.Owned) {sock : Nat} (typ : (L.socks.get sock).typ = .udp) :
    (L.socks.get sock).tcp = none := by
  rcases equal : (L.socks.get sock).tcp with _ | conn
  · rfl
  · have := (owned.tcp sock conn equal).2.2
    simp [typ] at this

theorem udp_eq_none (owned : L.Owned) {sock : Nat} (typ : (L.socks.get sock).typ = .tcp) :
    (L.socks.get sock).udp = none := by
  rcases equal : (L.socks.get sock).udp with _ | conn
  · rfl
  · have := (owned.udp sock conn equal).2.2
    simp [typ] at this

/-- An open connection is still held while no socket gives up one that is open. -/
theorem held_mono (owned : L.Owned) {M : Ledger}
    (links : ∀ conn < M.links.size, (M.links.get conn).isOpen = true →
      M.InUse conn ∨ (conn < L.links.size ∧ (L.links.get conn).isOpen = true))
    (used : ∀ conn < L.links.size, (L.links.get conn).isOpen = true → L.InUse conn →
      M.InUse conn)
    (pending : ∀ conn, M.Pending conn ↔ L.Pending conn) :
    ∀ conn < M.links.size, (M.links.get conn).isOpen = true → M.InUse conn ∨ M.Pending conn := by
  intro conn allocated isOpen
  rcases links conn allocated isOpen with inUse | ⟨before, wasOpen⟩
  · exact .inl inUse
  · exact (owned.held conn before wasOpen).imp (used conn before wasOpen) (pending conn).mpr

theorem turn (owned : L.Owned) {role : Role} (quiet : L.role.Quiet) (still : role.Quiet)
    (ok : role.Ok L.socks) : Owned { L with role := role } :=
  { owned with
    live := by
      intro sock allocated unclosed
      rcases owned.live sock allocated unclosed with live | leaving
      · exact .inl live
      · exact absurd leaving (Role.ne_leaving_of_quiet quiet sock)
    held := by
      intro conn allocated isOpen
      simpa [Pending, InUse, Role.conns_of_quiet quiet, Role.conns_of_quiet still] using
        owned.held conn allocated isOpen
    pending := by
      intro conn pending
      refine owned.pending conn ?_
      simpa [Pending, Role.conns_of_quiet quiet, Role.conns_of_quiet still] using pending
    role := ok }

theorem openSocket (owned : L.Owned) {entries : Entries} {id : Int} {typ : SockType}
    (unlocked : L.shutdown.holdsSocketsMu = false) (registered : L.entries = some entries)
    (unused : L.lookup id = none)
    {M : Ledger} (after : M = { L with
      entries := some (entries.insert id L.socks.size)
      socks := L.socks.alloc ⟨id, typ, none, none, false⟩ }) : M.Owned := by
  have lookup_after : ∀ other,
      M.lookup other = if other = id then some L.socks.size else L.lookup other := by
    intro other
    split
    next same => subst same; simp [after, lookup]
    next other => simp [after, lookup, registered, AList.lookup_insert_ne other]
  have pending_after : ∀ conn, M.Pending conn ↔ L.Pending conn := by simp [after, Pending]
  constructor
  case held =>
    refine owned.held_mono ?_ ?_ pending_after
    · grind -linarith
    · rintro conn before wasOpen ⟨sock, bound, used⟩
      exact ⟨sock, by grind -linarith⟩
  case shutdown =>
    have := owned.shutdown
    subst after
    cases equal : L.shutdown <;> grind -linarith [ShutdownOk, ShutdownPc.holdsSocketsMu]
  case role =>
    subst after
    exact owned.role.mono (by simp) (by grind -linarith)
  all_goals grind -linarith [Live]

theorem listen (owned : L.Owned) {sock : Nat} (allocated : sock < L.socks.size)
    (unclosed : (L.socks.get sock).closed = false) (typ : (L.socks.get sock).typ = .udp)
    (udp : (L.socks.get sock).udp = none)
    {M : Ledger} (after : M = { L with
      links := L.links.alloc ⟨sock, true⟩
      socks := L.socks.modify sock fun owner => { owner with udp := some L.links.size } }) :
    M.Owned := by
  have lookup_after : ∀ id, M.lookup id = L.lookup id := by simp [after, lookup]
  have pending_after : ∀ conn, M.Pending conn ↔ L.Pending conn := by simp [after, Pending]
  have tcp := owned.tcp_eq_none typ
  have unlinked := owned.not_open unclosed udp tcp
  constructor
  case held =>
    refine owned.held_mono ?_ ?_ pending_after
    · intro conn allocated isOpen
      by_cases new : conn = L.links.size
      · exact .inl ⟨sock, by grind -linarith⟩
      · exact .inr (by grind -linarith)
    · rintro conn before wasOpen ⟨sock, bound, used⟩
      exact ⟨sock, by grind -linarith⟩
  case shutdown =>
    subst after
    exact owned.shutdown.mono rfl (by grind -linarith)
  case role =>
    subst after
    exact owned.role.mono (by simp) (by grind -linarith)
  all_goals grind -linarith [Live]

theorem dial (owned : L.Owned) {sock : Nat} (allocated : sock < L.socks.size)
    (unclosed : (L.socks.get sock).closed = false) (typ : (L.socks.get sock).typ = .tcp)
    (tcp : (L.socks.get sock).tcp = none) (single : L.NoFlight sock)
    {M : Ledger} (after : M = { L with attempts := L.attempts.alloc ⟨sock, .inFlight⟩ }) :
    M.Owned := by
  have lookup_after : ∀ id, M.lookup id = L.lookup id := by simp [after, lookup]
  have pending_after : ∀ conn, M.Pending conn ↔ L.Pending conn := by
    simp [after, Pending, Heap.any_alloc]
  have udp := owned.udp_eq_none typ
  have unlinked := owned.not_open unclosed udp tcp
  constructor
  case held => grind -linarith [InUse]
  case shutdown =>
    subst after
    exact owned.shutdown
  case role =>
    subst after
    exact owned.role
  all_goals grind -linarith [NoFlight, Live]

theorem miss (owned : L.Owned) {ref : Nat} (allocated : ref < L.attempts.size)
    (flying : (L.attempts.get ref).flight = .inFlight)
    {M : Ledger} (after : M = { L with
      attempts := L.attempts.modify ref fun attempt => { attempt with flight := .landed } }) :
    M.Owned := by
  have lookup_after : ∀ id, M.lookup id = L.lookup id := by simp [after, lookup]
  have pending_after : ∀ conn, M.Pending conn ↔ L.Pending conn := by
    intro conn
    simp [after, Pending, Heap.any_modify allocated, flying]
  constructor
  case held => grind -linarith [InUse]
  case shutdown =>
    subst after
    exact owned.shutdown
  case role =>
    subst after
    exact owned.role
  all_goals grind -linarith [Live]

theorem landUnwanted (owned : L.Owned) {ref : Nat} (allocated : ref < L.attempts.size)
    (flying : (L.attempts.get ref).flight = .inFlight)
    (closed : (L.socks.get (L.attempts.get ref).sock).closed = true)
    {M : Ledger} (after : M = { L with
      links := L.links.alloc ⟨(L.attempts.get ref).sock, true⟩
      attempts := L.attempts.modify ref fun attempt =>
        { attempt with flight := .closing L.links.size } }) :
    M.Owned := by
  have lookup_after : ∀ id, M.lookup id = L.lookup id := by simp [after, lookup]
  have pending_after : ∀ conn, M.Pending conn ↔ conn = L.links.size ∨ L.Pending conn := by
    intro conn
    simp [after, Pending, Heap.any_modify allocated, flying]
    grind -linarith
  constructor
  case held => grind -linarith [InUse]
  case shutdown =>
    subst after
    exact owned.shutdown
  case role =>
    subst after
    exact owned.role
  all_goals grind -linarith [Live]

theorem land (owned : L.Owned) {ref : Nat} (allocated : ref < L.attempts.size)
    (flying : (L.attempts.get ref).flight = .inFlight)
    (unclosed : (L.socks.get (L.attempts.get ref).sock).closed = false)
    {M : Ledger} (after : M = { L with
      links := L.links.alloc ⟨(L.attempts.get ref).sock, true⟩
      socks := L.socks.modify (L.attempts.get ref).sock fun owner =>
        { owner with tcp := some L.links.size }
      attempts := L.attempts.modify ref fun attempt => { attempt with flight := .landed } }) :
    M.Owned := by
  have lookup_after : ∀ id, M.lookup id = L.lookup id := by simp [after, lookup]
  have pending_after : ∀ conn, M.Pending conn ↔ L.Pending conn := by
    intro conn
    simp [after, Pending, Heap.any_modify allocated, flying]
  constructor
  case held =>
    refine owned.held_mono ?_ ?_ pending_after
    · intro conn bound isOpen
      by_cases new : conn = L.links.size
      · exact .inl ⟨(L.attempts.get ref).sock, by grind -linarith⟩
      · exact .inr (by grind -linarith)
    · rintro conn before wasOpen ⟨sock, bound, used⟩
      exact ⟨sock, by grind -linarith⟩
  case shutdown =>
    subst after
    exact owned.shutdown.mono rfl (by grind -linarith)
  case role =>
    subst after
    exact owned.role.mono (by simp) (by grind -linarith)
  all_goals grind -linarith [Live]

theorem discard (owned : L.Owned) {ref conn : Nat} (allocated : ref < L.attempts.size)
    (closing : (L.attempts.get ref).flight = .closing conn)
    {M : Ledger} (after : M = { L with
      links := L.links.modify conn fun link => { link with isOpen := false }
      attempts := L.attempts.modify ref fun attempt => { attempt with flight := .landed } }) :
    M.Owned := by
  have lookup_after : ∀ id, M.lookup id = L.lookup id := by simp [after, lookup]
  have pending_after : ∀ other, other ≠ conn → (M.Pending other ↔ L.Pending other) := by
    intro other different
    simp [after, Pending, Heap.any_modify allocated, closing, different.symm]
  have pending_conn : L.Pending conn := .inr (.inr ⟨ref, allocated, closing⟩)
  constructor
  case held => grind -linarith [InUse]
  case shutdown =>
    subst after
    exact owned.shutdown
  case role =>
    subst after
    exact owned.role
  all_goals grind -linarith [Live]

theorem erase (owned : L.Owned) {entries : Entries} {id : Int} {sock : Nat}
    (quiet : L.role.Quiet) (unlocked : L.shutdown.holdsSocketsMu = false)
    (registered : L.entries = some entries) (found : L.lookup id = some sock)
    {M : Ledger} (after : M = { L with
      entries := some (entries.erase id)
      role := .leaving sock }) : M.Owned := by
  have lookup_after : ∀ other,
      M.lookup other = if other = id then none else L.lookup other := by
    intro other
    split
    next same => subst same; simp [after, lookup]
    next other => simp [after, lookup, registered, AList.lookup_erase_ne other]
  have pending_after : ∀ conn, M.Pending conn ↔ L.Pending conn := by
    simp [after, Pending, Role.conns_of_quiet quiet]
  have leaving := Role.ne_leaving_of_quiet quiet
  constructor
  case held => grind -linarith [InUse]
  case shutdown =>
    have := owned.shutdown
    subst after
    cases equal : L.shutdown <;> grind -linarith [ShutdownOk, ShutdownPc.holdsSocketsMu]
  all_goals grind -linarith [Live, Role.Ok]

/-- Marking a socket closed, with its connections handed to a closing
goroutine. -/
theorem mark (owned : L.Owned) {sock : Nat} {M : Ledger}
    (entries : M.entries = L.entries) (links : M.links = L.links)
    (attempts : M.attempts = L.attempts)
    (socks : M.socks = L.socks.modify sock fun owner => { owner with closed := true })
    (pending : ∀ conn, M.Pending conn ↔ L.Pending conn ∨ conn ∈ (L.socks.get sock).toClose)
    (leaving : ∀ other, L.role = .leaving other → other = sock ∨ M.role = .leaving other)
    (role : M.role.Ok M.socks) (shutdown : M.ShutdownOk M.shutdown) : M.Owned := by
  have lookup_after : ∀ id, M.lookup id = L.lookup id := by simp [lookup, entries]
  constructor
  case held =>
    intro conn bound isOpen
    rcases owned.held conn (by grind -linarith) (by grind -linarith) with
      ⟨user, allocated, used⟩ | held
    · by_cases same : user = sock
      · subst same
        exact .inr ((pending conn).mpr (.inr (Owner.mem_toClose.mpr used)))
      · exact .inl ⟨user, by grind -linarith⟩
    · exact .inr ((pending conn).mpr (.inl held))
  case shutdown => exact shutdown
  case role => exact role
  all_goals grind -linarith [Live, Owner.mem_toClose]

theorem retire (owned : L.Owned) {sock : Nat} (leaving : L.role = .leaving sock) {M : Ledger}
    (after : M = { L with
      socks := L.socks.modify sock fun owner => { owner with closed := true }
      role := .closing (L.socks.get sock).toClose }) : M.Owned := by
  refine owned.mark (by rw [after]) (by rw [after]) (by rw [after]) (by rw [after])
    ?_ ?_ ?_ ?_
  · intro conn
    simp only [after, Pending, leaving, Role.conns_closing, Role.conns_leaving]
    grind -linarith
  · grind -linarith
  · subst after; trivial
  · subst after
    exact owned.shutdown.mono rfl (by grind -linarith)

theorem visit (owned : L.Owned) {todo : List Nat} {pick sock : Nat}
    (closing : L.shutdown = .closing todo) (picked : todo[pick]? = some sock)
    {M : Ledger} (after : M = { L with
        socks := L.socks.modify sock fun owner => { owner with closed := true }
        shutdown := .closeConns (L.socks.get sock).toClose (todo.eraseIdx pick) }) : M.Owned := by
  have ok := owned.shutdown
  rw [closing] at ok
  refine owned.mark (by rw [after]) (by rw [after]) (by rw [after]) (by rw [after])
    ?_ ?_ ?_ ?_
  · intro conn
    simp only [after, Pending, closing, ShutdownPc.conns_closing, ShutdownPc.conns_closeConns]
    grind -linarith
  · grind -linarith
  · subst after
    exact owned.role.mono (by simp) (by grind -linarith)
  · have lookup_after : ∀ id, M.lookup id = L.lookup id := by simp [after, lookup]
    subst after
    intro other live
    rcases ok other live with closed | waiting
    · left
      grind -linarith
    · obtain ⟨index, at_index⟩ := List.getElem?_of_mem waiting
      by_cases same : index = pick
      · grind -linarith
      · exact .inr (List.mem_eraseIdx_iff_getElem?.mpr ⟨index, same, at_index⟩)

theorem closeLink (owned : L.Owned) {conn : Nat} {M : Ledger} (entries : M.entries = L.entries)
    (socks : M.socks = L.socks) (attempts : M.attempts = L.attempts)
    (links : M.links = L.links.modify conn fun link => { link with isOpen := false })
    (pending : ∀ other, other ≠ conn → (M.Pending other ↔ L.Pending other))
    (closing : L.Pending conn)
    (leaving : ∀ other, L.role = .leaving other → M.role = .leaving other)
    (role : M.role.Ok M.socks) (shutdown : M.ShutdownOk M.shutdown) : M.Owned := by
  have lookup_after : ∀ id, M.lookup id = L.lookup id := by simp [lookup, entries]
  constructor
  case held => grind -linarith [InUse]
  case shutdown => exact shutdown
  case role => exact role
  all_goals grind -linarith [Live]

theorem closeOne (owned : L.Owned) {conn : Nat} {conns : List Nat}
    (closing : L.role = .closing (conn :: conns)) {M : Ledger}
    (after : M = { L with
      links := L.links.modify conn fun link => { link with isOpen := false }
      role := .closing conns }) : M.Owned := by
  refine owned.closeLink (by rw [after]) (by rw [after]) (by rw [after]) (by rw [after])
    ?_ ?_ ?_ ?_ ?_
  · intro other different
    simp [after, Pending, closing, different]
  · simp [Pending, closing]
  · simp [closing]
  · subst after; trivial
  · subst after; exact owned.shutdown

theorem sweep (owned : L.Owned) {conn : Nat} {conns todo : List Nat}
    (closing : L.shutdown = .closeConns (conn :: conns) todo) {M : Ledger}
    (after : M = { L with
        links := L.links.modify conn fun link => { link with isOpen := false }
        shutdown := .closeConns conns todo }) : M.Owned := by
  have ok := owned.shutdown
  rw [closing] at ok
  refine owned.closeLink (by rw [after]) (by rw [after]) (by rw [after]) (by rw [after])
    ?_ ?_ ?_ ?_ ?_
  · intro other different
    simp [after, Pending, closing, different]
  · simp [Pending, closing]
  · simp [after]
  · subst after; exact owned.role
  · subst after; exact ok

/-- Moving the shutdown to a section that answers for no connection. -/
theorem proceed (owned : L.Owned) {next : ShutdownPc} (before : L.shutdown.conns = [])
    (after : next.conns = []) (ok : L.ShutdownOk next) : Owned { L with shutdown := next } :=
  { owned with
    held := by
      intro conn allocated isOpen
      simpa [Pending, InUse, before, after] using owned.held conn allocated isOpen
    pending := by
      intro conn pending
      refine owned.pending conn ?_
      simpa [Pending, before, after] using pending
    shutdown := ok }

theorem finish (owned : L.Owned) (closing : L.shutdown = .closing []) {M : Ledger}
    (after : M = { L with entries := none, shutdown := .finished }) : M.Owned := by
  have ok := owned.shutdown
  rw [closing] at ok
  have gone : ∀ id, M.lookup id = none := by simp [after, lookup]
  have pending_after : ∀ conn, M.Pending conn ↔ L.Pending conn := by
    simp [after, Pending, closing, ShutdownPc.conns]
  constructor
  case live =>
    intro sock allocated unclosed
    rcases owned.live sock (by grind -linarith) (by grind -linarith) with live | leaving
    · rcases ok sock live with closed | waiting
      · grind -linarith
      · simp at waiting
    · exact .inr (by grind -linarith)
  case held => grind -linarith [InUse]
  case shutdown => subst after; rfl
  case role => subst after; exact owned.role
  all_goals grind -linarith
end Owned

variable {L M : Ledger} {leaves : Ledger → Nat → Prop}

/-- Every move keeps the ownership invariant. -/
theorem Move.owned (move : Move leaves L M) (owned : L.Owned) : M.Owned := by
  cases move with
  | turn role quiet still ok => exact owned.turn quiet still ok
  | openSocket entries id typ quiet unlocked registered few unused =>
      exact owned.openSocket unlocked registered unused rfl
  | listen sock quiet allocated unclosed typ udp =>
      exact owned.listen allocated unclosed typ udp rfl
  | dial sock quiet allocated unclosed typ tcp single =>
      exact owned.dial allocated unclosed typ tcp single rfl
  | miss ref allocated flying => exact owned.miss allocated flying rfl
  | landUnwanted ref allocated flying closed =>
      exact owned.landUnwanted allocated flying closed rfl
  | land ref allocated flying unclosed => exact owned.land allocated flying unclosed rfl
  | discard ref conn allocated closing => exact owned.discard allocated closing rfl
  | erase entries id sock quiet unlocked registered found =>
      exact owned.erase quiet unlocked registered found rfl
  | retire sock leaving => exact owned.retire leaving rfl
  | closeOne conn conns closing => exact owned.closeOne closing rfl
  | beginShutdown idle =>
      exact owned.proceed (by rw [idle]; rfl) rfl trivial
  | stopTimers timers =>
      exact owned.proceed (by rw [timers]; rfl) rfl trivial
  | takeEntries todo sockets covered =>
      exact owned.proceed (by rw [sockets]; rfl) rfl fun sock live => .inr (covered sock live)
  | visit todo pick sock closing picked => exact owned.visit closing picked rfl
  | visited todo closing =>
      have ok := owned.shutdown
      rw [closing] at ok
      exact owned.proceed (by rw [closing]; rfl) rfl ok
  | sweep conn conns todo closing => exact owned.sweep closing rfl
  | finish closing => exact owned.finish closing rfl

/-- No host socket answers for two descriptors. -/
theorem Owned.descriptors_le_charged (owned : L.Owned) :
    L.openLinks.card + L.flights.card ≤ L.charged.card := by
  have links : Set.InjOn (fun conn => (L.links.get conn).owner) L.openLinks := by
    intro left isLeft right isRight same
    simp only [Finset.mem_coe, mem_openLinks] at isLeft isRight
    exact owned.oneLink left isLeft.1 right isRight.1 isLeft.2 isRight.2 same
  have flights : Set.InjOn (fun ref => (L.attempts.get ref).sock) L.flights := by
    intro left isLeft right isRight same
    simp only [Finset.mem_coe, mem_flights] at isLeft isRight
    exact owned.oneFlight left isLeft.1 right isRight.1 isLeft.2 isRight.2 same
  have apart : Disjoint (L.openLinks.image fun conn => (L.links.get conn).owner)
      (L.flights.image fun ref => (L.attempts.get ref).sock) := by
    rw [Finset.disjoint_left]
    simp only [Finset.mem_image, mem_openLinks, mem_flights]
    rintro sock ⟨conn, isOpen, rfl⟩ ⟨ref, flying, same⟩
    exact owned.linkOrFlight conn isOpen.1 ref flying.1 isOpen.2 flying.2 same.symm
  rw [← Finset.card_image_of_injOn links, ← Finset.card_image_of_injOn flights,
    ← Finset.card_union_of_disjoint apart]
  exact Finset.card_le_card Finset.subset_union_right

/-- A charge is kept as long as what it stands for is. -/
theorem charged_subset (lookup : ∀ id sock, M.lookup id = some sock → L.Live sock)
    (links : ∀ conn < M.links.size, (M.links.get conn).isOpen = true →
      (M.links.get conn).owner ∈ L.charged)
    (flights : ∀ ref < M.attempts.size, (M.attempts.get ref).flight = .inFlight →
      (M.attempts.get ref).sock ∈ L.charged) : M.charged ⊆ L.charged := by
  intro sock charged
  rcases mem_charged.mp charged with ⟨id, found⟩ | ⟨conn, allocated, isOpen, rfl⟩ |
    ⟨ref, allocated, flying, rfl⟩
  · exact mem_charged.mpr (.inl (lookup id sock found))
  · exact links conn allocated isOpen
  · exact flights ref allocated flying

theorem charged_of_open (L : Ledger) (conn : Nat) (allocated : conn < L.links.size)
    (isOpen : (L.links.get conn).isOpen = true) : (L.links.get conn).owner ∈ L.charged :=
  mem_charged.mpr (.inr (.inl ⟨conn, allocated, isOpen, rfl⟩))

theorem charged_of_flight (L : Ledger) (ref : Nat) (allocated : ref < L.attempts.size)
    (flying : (L.attempts.get ref).flight = .inFlight) : (L.attempts.get ref).sock ∈ L.charged :=
  mem_charged.mpr (.inr (.inr ⟨ref, allocated, flying, rfl⟩))

/-- An open socket that the guest call is not closing is charged by its entry. -/
theorem Owned.charged_of_unclosed (owned : L.Owned) (quiet : L.role.Quiet) {sock : Nat}
    (allocated : sock < L.socks.size) (unclosed : (L.socks.get sock).closed = false) :
    sock ∈ L.charged := by
  rcases owned.live sock allocated unclosed with live | leaving
  · exact mem_charged.mpr (.inl live)
  · exact absurd leaving (Role.ne_leaving_of_quiet quiet sock)

/-- Only opening a socket charges a new one. -/
theorem Move.charged_subset (move : Move leaves L M) (owned : L.Owned) :
    M.charged ⊆ L.charged ∨ (L.role.Quiet ∧ L.shutdown.holdsSocketsMu = false ∧
      (∃ entries, L.entries = some entries ∧
        entries.keys.length < State.maxSocketsPerInstance) ∧
      M.charged ⊆ insert L.socks.size L.charged) := by
  cases move with
  | openSocket entries id typ quiet unlocked registered few unused =>
      refine .inr ⟨quiet, unlocked, ⟨entries, registered, few⟩, ?_⟩
      intro sock charged
      rcases mem_charged.mp charged with ⟨other, found⟩ | held
      · by_cases same : other = id
        · subst same
          simp only [lookup, Option.bind_some, AList.lookup_insert, Option.some.injEq] at found
          simp [found]
        · have kept : L.lookup other = some sock := by
            simpa [lookup, registered, AList.lookup_insert_ne same] using found
          exact Finset.mem_insert_of_mem (mem_charged.mpr (.inl ⟨other, kept⟩))
      · exact Finset.mem_insert_of_mem (mem_charged.mpr (.inr held))
  | listen sock quiet allocated unclosed typ udp =>
      have charged := owned.charged_of_unclosed quiet allocated unclosed
      exact .inl (Ledger.charged_subset (fun id _ found => ⟨id, found⟩)
        (by grind -linarith [charged_of_open]) L.charged_of_flight)
  | dial sock quiet allocated unclosed typ tcp single =>
      have charged := owned.charged_of_unclosed quiet allocated unclosed
      exact .inl (Ledger.charged_subset (fun id _ found => ⟨id, found⟩)
        L.charged_of_open (by grind -linarith [charged_of_flight]))
  | erase entries id sock quiet unlocked registered found =>
      refine .inl (Ledger.charged_subset ?_ L.charged_of_open L.charged_of_flight)
      intro other sock found
      by_cases same : other = id
      · subst same
        simp [lookup] at found
      · exact ⟨other, by simpa [lookup, registered, AList.lookup_erase_ne same] using found⟩
  | finish closing =>
      exact .inl (Ledger.charged_subset (by simp [lookup]) L.charged_of_open L.charged_of_flight)
  | turn | retire | beginShutdown | stopTimers | takeEntries | visit | visited =>
      exact .inl (Ledger.charged_subset (fun id _ found => ⟨id, found⟩)
        L.charged_of_open L.charged_of_flight)
  | miss | landUnwanted | land | discard | closeOne | sweep =>
      exact .inl (Ledger.charged_subset (fun id _ found => ⟨id, found⟩)
        (by grind -linarith [charged_of_open, charged_of_flight])
        (by grind -linarith [charged_of_flight]))

end Ledger

end UnboundWasm.Host.Sockets
