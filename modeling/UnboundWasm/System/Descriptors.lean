import Mathlib.Data.List.Perm.Subperm
import UnboundWasm.System.Veneer

/-!
# Descriptors of the guest and sockets of the host

The guest's table of slots and the host's map of sockets are two halves of one table.  Between
two calls the descriptors in use and the entries correspond one to one, so that nothing is
leaked on either side and no two descriptors share a socket; during a call they differ by the
one socket the call is about.  The host's cap on sockets is therefore never what makes
`uw_socket` fail.

This holds until the host's counter of socket ids wraps.
-/

namespace UnboundWasm.System.Veneer

open UnboundWasm.Lib
open UnboundWasm.Guest (Backend fdBase maxSockets)
open UnboundWasm.Host (toInt32 toInt32_of_lt wasiEMFILE)
open UnboundWasm.Guest.Backend (slotOf lookup release mem_of_lookup lookup_of_mem)
open UnboundWasm.Guest.Veneer UnboundWasm.Host.Sockets
open UnboundWasm.Host.Sockets.View

/-! ## Slots -/

/-- A slot in use. -/
def Holds (slots : Slots) (i : Nat) (slot : Slot) : Prop := slots[i]? = some (some slot)

section Slots

variable {slots : Slots} {i j : Nat} {slot other : Slot}

theorem Holds.inj (holds : Holds slots i slot) (again : Holds slots i other) : other = slot := by
  unfold Holds at holds again
  rw [holds] at again
  cases again
  rfl

theorem holds_set_iff {value : Option Slot} (inside : i < slots.length) :
    Holds (slots.set i value) j other ↔
      (j = i ∧ value = some other) ∨ (j ≠ i ∧ Holds slots j other) := by
  unfold Holds
  by_cases same : j = i
  · subst same
    simp [inside]
  · rw [List.getElem?_set_ne (Ne.symm same)]
    simp [same]

end Slots

/-! ## The correspondence -/

/-- What a slot says about itself and about the socket behind it. -/
structure Fits (v : View) (slot : Slot) : Prop where
  range : 0 < slot.sid ∧ slot.sid ≤ v.socks.size
  peer : slot.peer.length = 16 ∧ slot.peerport < 65536
  face : (v.face slot.sid).af = slot.af ∧ (v.face slot.sid).typ = slot.typ

/-- The slots in use, each with a socket of its own. -/
structure Table (v : View) (slots : Slots) : Prop where
  length : slots.length = maxSockets
  fits : ∀ i slot, Holds slots i slot → Fits v slot
  distinct : ∀ i j slot other, Holds slots i slot → Holds slots j other →
    slot.sid = other.sid → i = j

/-- A socket that was opened for a slot and has none yet. -/
structure Placed (v : View) (slots : Slots) (sid : Int) (af : Host.Sockets.Family)
    (typ : SockType) : Prop where
  positive : 0 < sid
  allocated : sid ≤ v.socks.size
  unused : ∀ i slot, Holds slots i slot → slot.sid ≠ sid
  face : (v.face sid).af = af ∧ (v.face sid).typ = typ
  entry : ∀ entries, v.entries = some entries → sid ∈ entries

/-- `sock_close` is on its way; past its first section the entry is gone. -/
def Leaving (v : View) (sid : Int) : Prop :=
  v.guest = .delete sid ∨
    ((∃ sock, v.guest = .close sock) ∨ (∃ conns, v.guest = .closeConns conns) ∨
      v.guest = .running) ∧ ∀ entries, v.entries = some entries → sid ∉ entries

/-- Where the import of the pending call stands. -/
inductive Waits (sizeof : Host.Sockets.Family → Nat) (v : View) (slots : Slots) :
    Option Pending → Prop where
  | idle (pc : v.guest = .outside ∨ v.guest = .running) : Waits sizeof v slots none
  | opening {af : Host.Sockets.Family} {typ : SockType} (pc : v.guest = .openSocket af typ) :
      Waits sizeof v slots (some (.opening af typ))
  | refused {af : Host.Sockets.Family} {typ : SockType} (pc : v.guest = .running)
      (negative : v.returned < 0) (room : v.returned ≠ -wasiEMFILE) :
      Waits sizeof v slots (some (.opening af typ))
  | opened {af : Host.Sockets.Family} {typ : SockType} (pc : v.guest = .running)
      (placed : Placed v slots v.returned af typ) : Waits sizeof v slots (some (.opening af typ))
  | discarding {sid : Int} (leaving : Leaving v sid)
      (unused : ∀ i slot, Holds slots i slot → slot.sid ≠ sid) :
      Waits sizeof v slots (some (.discarding sid))
  | closing {fd : Int} {locals : Locals} (holds : Holds slots (slotOf fd) locals.slot)
      (leaving : Leaving v locals.slot.sid) :
      Waits sizeof v slots (some (.waiting (.close fd) locals))
  | failed {call : Call} {locals : Locals}
      (found : lookup slots (descriptor call) = some locals.slot)
      (unclosed : ∀ fd, call ≠ .close fd) (pc : v.guest = .running) (negative : v.returned < 0) :
      Waits sizeof v slots (some (.waiting call locals))
  | serving {call : Call} {locals : Locals} {op : SockOp}
      (found : lookup slots (descriptor call) = some locals.slot)
      (unclosed : ∀ fd, call ≠ .close fd)
      (decoded : Decoded sizeof locals call) (request : asked v.memory locals call = some op)
      (serving : Serving v locals.slot.sid op v.guest) :
      Waits sizeof v slots (some (.waiting call locals))

/-- The slot is about to be given back. -/
def Closing (pending : Option Pending) (i : Nat) : Prop :=
  ∃ fd locals, pending = some (.waiting (.close fd) locals) ∧ i = slotOf fd

/-- The entry has no slot yet, or will not get one. -/
def Unplaced (v : View) (pending : Option Pending) (id : Int) : Prop :=
  (∃ af typ, pending = some (.opening af typ) ∧ v.guest = .running ∧ v.returned = id) ∨
    pending = some (.discarding id)

/-- The peer a slot has recorded. -/
def peerOf (slot : Slot) : AddrPort := ⟨addrOf (slot.peer.take slot.peerlen), slot.peerport⟩

/-- The recorded peer is where the host sends to. -/
def Peered (v : View) (slot : Slot) : Prop :=
  slot.peerlen ≠ 0 → Connected v slot.sid (peerOf slot)

/-- The host has connected the socket, and the slot is about to record it. -/
def Reconnected (v : View) (pending : Option Pending) (i : Nat) (slot : Slot) : Prop :=
  ∃ fd sa n locals, pending = some (.waiting (.connect fd sa n) locals) ∧ i = slotOf fd ∧
    v.Settled ∧ Connected v slot.sid ⟨addrOf locals.ip, locals.port⟩

/-- The two halves agree, up to what the call in progress is about to do. -/
structure Agrees (sizeof : Host.Sockets.Family → Nat) (v : View) (slots : Slots)
    (pending : Option Pending) : Prop where
  table : Table v slots
  entry : ∀ i slot entries, Holds slots i slot → v.entries = some entries →
    slot.sid ∈ entries ∨ Closing pending i
  covered : ∀ entries, v.entries = some entries → ∀ id ∈ entries,
    (∃ i slot, Holds slots i slot ∧ slot.sid = id) ∨ Unplaced v pending id
  waits : Waits sizeof v slots pending
  peers : ∀ i slot, Holds slots i slot → Peered v slot ∨ Reconnected v pending i slot

variable {sizeof : Host.Sockets.Family → Nat} {v after : View} {slots : Slots}
  {pending : Option Pending} {i : Nat} {slot : Slot}

/-- Sockets that are there stay what they are. -/
theorem Table.mono (table : Table v slots) (size : v.socks.size ≤ after.socks.size)
    (faces : ∀ ref < v.socks.size, (after.socks.get ref).af = (v.socks.get ref).af ∧
      (after.socks.get ref).typ = (v.socks.get ref).typ) : Table after slots where
  length := table.length
  fits i slot holds := by
    obtain ⟨⟨positive, allocated⟩, peer, af, typ⟩ := table.fits i slot holds
    obtain ⟨sameAf, sameTyp⟩ := faces (slot.sid - 1).toNat (by omega)
    exact ⟨⟨positive, by omega⟩, peer, sameAf.trans af, sameTyp.trans typ⟩
  distinct := table.distinct

theorem Table.of_socks (table : Table v slots) (socks : after.socks = v.socks) :
    Table after slots :=
  table.mono (by rw [socks]) fun ref _ => by rw [socks]; exact ⟨rfl, rfl⟩

/-- Different slots have different sockets behind them. -/
theorem Table.apart (table : Table v slots) {j : Nat} {other : Slot} (holds : Holds slots i slot)
    (holds' : Holds slots j other) (different : j ≠ i) :
    (other.sid - 1).toNat ≠ (slot.sid - 1).toNat := by
  have positive := (table.fits i slot holds).range.1
  have positive' := (table.fits j other holds').range.1
  intro same
  exact different (table.distinct j i other slot holds' holds (by omega))

/-! Where the call in progress is not about it, nothing is unfinished. -/

variable {entries : Entries} {af : Host.Sockets.Family} {typ : SockType} {locals : Locals}
    {s : State}

theorem Agrees.entered (agrees : Agrees sizeof v slots pending)
    (other : ∀ fd locals, pending ≠ some (.waiting (.close fd) locals))
    (holds : Holds slots i slot) (present : v.entries = some entries) : slot.sid ∈ entries := by
  rcases agrees.entry i slot entries holds present with inside | ⟨fd, locals, closing, -⟩
  · exact inside
  · exact absurd closing (other fd locals)

theorem Agrees.slotted (agrees : Agrees sizeof v slots pending)
    (opening : ∀ af typ, pending ≠ some (.opening af typ))
    (discarding : ∀ sid, pending ≠ some (.discarding sid)) {id : Int}
    (present : v.entries = some entries) (inside : id ∈ entries) :
    ∃ i slot, Holds slots i slot ∧ slot.sid = id := by
  rcases agrees.covered entries present id inside with used | ⟨af, typ, opens, -⟩ | discards
  · exact used
  · exact absurd opens (opening af typ)
  · exact absurd discards (discarding id)

theorem Agrees.peered (agrees : Agrees sizeof v slots pending)
    (other : ∀ fd sa n locals, pending ≠ some (.waiting (.connect fd sa n) locals))
    (holds : Holds slots i slot) : Peered v slot := by
  rcases agrees.peers i slot holds with peered | ⟨fd, sa, n, locals, connects, -⟩
  · exact peered
  · exact absurd connects (other fd sa n locals)

/-! ## Steps of the other goroutines -/

theorem Placed.quiet {sid : Int} (placed : Placed v slots sid af typ) (quiet : Quiet v after) :
    Placed after slots sid af typ where
  positive := placed.positive
  allocated := by rw [quiet.size]; exact placed.allocated
  unused := placed.unused
  face := ⟨(quiet.af _).trans placed.face.1, (quiet.typ _).trans placed.face.2⟩
  entry entries present := by
    rcases quiet.entries with same | none
    · exact placed.entry entries (same.symm.trans present)
    · rw [none] at present
      cases present

theorem Leaving.quiet {sid : Int} (leaving : Leaving v sid) (quiet : Quiet v after) :
    Leaving after sid := by
  unfold Leaving at leaving ⊢
  rw [quiet.guest]
  refine leaving.imp_right fun ⟨pc, gone⟩ => ⟨pc, ?_⟩
  intro entries present
  rcases quiet.entries with same | none
  · exact gone entries (same.symm.trans present)
  · rw [none] at present
    cases present

theorem Settled.quiet (settled : v.Settled) (quiet : Quiet v after) : after.Settled := by
  unfold View.Settled at settled ⊢
  rwa [quiet.guest, quiet.returned]

theorem Waits.quiet (waits : Waits sizeof v slots pending) (quiet : Quiet v after) :
    Waits sizeof after slots pending := by
  cases waits with
  | idle pc => exact .idle (by rwa [quiet.guest])
  | opening pc => exact .opening (by rwa [quiet.guest])
  | refused pc negative room =>
      exact .refused (by rwa [quiet.guest]) (by rwa [quiet.returned]) (by rwa [quiet.returned])
  | opened pc placed =>
      refine .opened (by rwa [quiet.guest]) ?_
      rw [quiet.returned]
      exact placed.quiet quiet
  | discarding leaving unused => exact .discarding (leaving.quiet quiet) unused
  | closing holds leaving => exact .closing holds (leaving.quiet quiet)
  | failed found unclosed pc negative =>
      exact .failed found unclosed (by rwa [quiet.guest]) (by rwa [quiet.returned])
  | serving found unclosed decoded request serving =>
      refine .serving found unclosed decoded (by rwa [quiet.memory]) ?_
      rw [quiet.guest]
      exact serving.quiet quiet

theorem Agrees.quiet (agrees : Agrees sizeof v slots pending) (quiet : Quiet v after) :
    Agrees sizeof after slots pending where
  table := agrees.table.mono (Nat.le_of_eq quiet.size.symm) fun ref _ =>
    ⟨quiet.af ref, quiet.typ ref⟩
  entry i slot entries holds present := by
    rcases quiet.entries with same | none
    · exact agrees.entry i slot entries holds (same.symm.trans present)
    · rw [none] at present
      cases present
  covered entries present id inside := by
    rcases quiet.entries with same | none
    · refine (agrees.covered entries (same.symm.trans present) id inside).imp_right ?_
      unfold Unplaced
      rw [quiet.guest, quiet.returned]
      exact fun unplaced => unplaced
    · rw [none] at present
      cases present
  waits := agrees.waits.quiet quiet
  peers i slot holds := by
    refine (agrees.peers i slot holds).imp ?_ ?_
    · exact fun peered recorded => quiet.connected (peered recorded)
    · rintro ⟨fd, sa, n, locals, waiting, index, settled, connected⟩
      exact ⟨fd, sa, n, locals, waiting, index, Settled.quiet settled quiet,
        quiet.connected connected⟩

/-! ## Calls -/

/-- A call begins: nothing but the import in progress changes. -/
theorem Agrees.begin (agrees : Agrees sizeof v slots none) (entries : after.entries = v.entries)
    (socks : after.socks = v.socks) (waits : Waits sizeof after slots pending) :
    Agrees sizeof after slots pending where
  table := agrees.table.of_socks socks
  entry i slot some holds present :=
    .inl (agrees.entered (by simp) holds (entries.symm.trans present))
  covered some present id inside :=
    .inl (agrees.slotted (by simp) (by simp) (entries.symm.trans present) inside)
  waits := waits
  peers i slot holds :=
    .inl fun recorded => (agrees.peered (by simp) holds recorded).of_socks socks

/-- A call ends without a change to the slots, and the import has left nothing unfinished. -/
theorem Agrees.finish (agrees : Agrees sizeof v slots pending) (pc : v.guest = .running)
    (kept : ∀ i, ¬ Closing pending i)
    (placed : ∀ entries, v.entries = some entries → ∀ id ∈ entries, ¬ Unplaced v pending id)
    (recorded : ∀ i slot, ¬ Reconnected v pending i slot) : Agrees sizeof v slots none where
  table := agrees.table
  entry i slot entries holds present :=
    (agrees.entry i slot entries holds present).imp_right fun closing => absurd closing (kept i)
  covered entries present id inside :=
    (agrees.covered entries present id inside).imp_right fun unplaced =>
      absurd unplaced (placed entries present id inside)
  waits := .idle (.inr pc)
  peers i slot holds :=
    (agrees.peers i slot holds).imp_right fun reconnected => absurd reconnected (recorded i slot)

theorem view_openCall (host : Host.Sockets.State) (af : Host.Sockets.Family) (typ : SockType) :
    (host.call (.sockOpen (afNumber af) (typNumber typ))).view =
      host.view.goto (.openSocket af typ) := by
  cases af <;> cases typ <;> rfl

/-- The first import of a call. -/
theorem Agrees.ask {host : Host.Sockets.State} {stored : Memory} {imp : Import} {next : Pending}
    (agrees : Agrees sizeof host.view slots none)
    (asks : Asks sizeof slots host.memory stored imp next) :
    Agrees sizeof ((host.store stored).call imp).view slots (some next) := by
  cases asks with
  | opens af typ =>
      rw [view_openCall]
      exact agrees.begin rfl rfl (.opening rfl)
  | @closes fd locals found =>
      exact agrees.begin rfl rfl (.closing (mem_of_lookup found).2 (.inl rfl))
  | requests found decoded unclosed requests =>
      rcases requests (host.store stored) rfl with ⟨result, negative, view⟩ | ⟨op, request, view⟩
      · rw [view]
        exact agrees.begin rfl rfl (.failed found unclosed rfl negative)
      · rw [view]
        exact agrees.begin rfl rfl (.serving found unclosed decoded request .lookup)

/-! ## Imports -/

/-- At most one entry has no slot, so the host's cap is out of reach. -/
theorem Agrees.few_entries (agrees : Agrees sizeof v slots pending)
    (present : v.entries = some entries) : entries.keys.length ≤ maxSockets + 1 := by
  obtain ⟨extra, alone⟩ : ∃ extra, ∀ id, Unplaced v pending id → id = extra := by
    cases pending with
    | none => exact ⟨0, by rintro id (⟨_, _, none, _⟩ | none) <;> cases none⟩
    | some pending =>
        cases pending with
        | opening af typ =>
            refine ⟨v.returned, ?_⟩
            rintro id (⟨_, _, _, _, same⟩ | none)
            · exact same.symm
            · cases none
        | discarding sid =>
            refine ⟨sid, ?_⟩
            rintro id (⟨_, _, none, _⟩ | same)
            · cases none
            · cases same
              rfl
        | waiting call locals => exact ⟨0, by rintro id (⟨_, _, none, _⟩ | none) <;> cases none⟩
  have inside : entries.keys ⊆ extra :: slots.filterMap (Option.map Slot.sid) := by
    intro id member
    rcases agrees.covered entries present id (AList.mem_keys.mpr member) with
      ⟨i, slot, holds, rfl⟩ | unplaced
    · refine List.mem_cons_of_mem _ (List.mem_filterMap.mpr ⟨some slot, ?_, rfl⟩)
      exact List.mem_of_getElem? holds
    · rw [alone id unplaced]
      exact List.mem_cons_self
  have bound := (entries.keys_nodup.subperm inside).length_le
  have short := List.length_filterMap_le (Option.map Slot.sid) slots
  rw [agrees.table.length] at short
  rw [List.length_cons] at bound
  omega

/-- No entry is lost but the one of a socket, and none is added. -/
def Fewer (sid : Int) (v after : View) : Prop :=
  ∀ entries, after.entries = some entries → ∃ old, v.entries = some old ∧
    (∀ id ∈ entries, id ∈ old) ∧ ∀ id ∈ old, id ≠ sid → id ∈ entries

theorem fewer_of_same {sid : Int} (entries : after.entries = v.entries) : Fewer sid v after :=
  fun some present =>
    ⟨some, entries.symm.trans present, fun _ inside => inside, fun _ inside _ => inside⟩

theorem erased {sid : Int} (present : (v.erase sid).entries = some entries) :
    ∃ old, v.entries = some old ∧ entries = old.erase sid := by
  obtain ⟨old, was, rfl⟩ := Option.map_eq_some_iff.mp present
  exact ⟨old, was, rfl⟩

theorem fewer_erase (sid : Int) : Fewer sid v (v.erase sid) := by
  intro entries present
  obtain ⟨old, was, rfl⟩ := erased present
  refine ⟨old, was, fun id inside => (AList.mem_erase.mp inside).2, fun id inside other => ?_⟩
  exact AList.mem_erase.mpr ⟨other, inside⟩

theorem Leaving.move {sid : Int} (leaving : Leaving v sid) (move : Move v v.guest after) :
    Leaving after sid ∧ after.socks = v.socks ∧ Fewer sid v after := by
  have gone : ∀ entries, (v.erase sid).entries = some entries → sid ∉ entries := by
    intro entries present inside
    obtain ⟨old, _, rfl⟩ := erased present
    exact (AList.mem_erase.mp inside).1 rfl
  rcases leaving with pc | ⟨⟨sock, pc⟩ | ⟨conns, pc⟩ | pc, missing⟩
  · rw [pc] at move
    cases move with
    | gone => exact ⟨.inr ⟨.inr (.inr rfl), gone⟩, rfl, fewer_erase sid⟩
    | leaving => exact ⟨.inr ⟨.inl ⟨_, rfl⟩, gone⟩, rfl, fewer_erase sid⟩
  · rw [pc] at move
    cases move
    exact ⟨.inr ⟨.inr (.inl ⟨_, rfl⟩), missing⟩, rfl, fewer_of_same rfl⟩
  · rw [pc] at move
    cases move with
    | closeNext => exact ⟨.inr ⟨.inr (.inl ⟨_, rfl⟩), missing⟩, rfl, fewer_of_same rfl⟩
    | closed => exact ⟨.inr ⟨.inr (.inr rfl), missing⟩, rfl, fewer_of_same rfl⟩
  · rw [pc] at move
    cases move

/-- A `sock_close` that runs for the pending call. -/
theorem Agrees.leave {sid : Int} {next : Pending} (agrees : Agrees sizeof v slots (some next))
    (leaving : Leaving v sid) (move : Move v v.guest after)
    (unused : ∀ i slot, Holds slots i slot → slot.sid ≠ sid ∨ Closing (some next) i)
    (other : ∀ af typ, next ≠ .opening af typ)
    (still : ∀ fd sa n locals, next ≠ .waiting (.connect fd sa n) locals)
    (waits : Leaving after sid → Waits sizeof after slots (some next)) :
    Agrees sizeof after slots (some next) := by
  obtain ⟨left, socks, fewer⟩ := leaving.move move
  constructor
  case table => exact agrees.table.of_socks socks
  case entry =>
    intro i slot entries holds present
    obtain ⟨old, was, -, kept⟩ := fewer entries present
    rcases unused i slot holds with different | closing
    · exact (agrees.entry i slot old holds was).imp_left fun inside => kept _ inside different
    · exact .inr closing
  case covered =>
    intro entries present id inside
    obtain ⟨old, was, older, -⟩ := fewer entries present
    refine (agrees.covered old was id (older id inside)).imp_right ?_
    rintro (⟨af, typ, opens, _⟩ | discards)
    · exact absurd (Option.some.inj opens) (other af typ)
    · exact .inr discards
  case waits => exact waits left
  case peers =>
    intro i slot holds
    have peered := agrees.peered (by simpa using still) holds
    exact .inl fun recorded => (peered recorded).of_socks socks

/-- `sock_open` adds an entry for the slot to come. -/
theorem Agrees.opened (agrees : Agrees sizeof v slots (some (.opening af typ)))
    (pc : v.guest = .openSocket af typ) (sound : v.Sound) (few : v.socks.size < 2 ^ 31 - 1)
    (registered : v.entries = some entries) :
    Agrees sizeof (v.opened entries af typ) slots (some (.opening af typ)) := by
  have next := sound.next_eq few
  have index : (v.next - 1).toNat = v.socks.size := by omega
  have old (ref : Nat) (allocated : ref < v.socks.size) :
      (v.opened entries af typ).socks.get ref = v.socks.get ref :=
    Heap.get_alloc_of_lt _ _ _ allocated
  constructor
  case table =>
    refine agrees.table.mono (Nat.le_succ _) fun ref allocated => ?_
    rw [old ref allocated]
    exact ⟨rfl, rfl⟩
  case entry =>
    intro i slot added holds present
    cases present
    refine (agrees.entry i slot entries holds registered).imp_left fun inside => ?_
    exact (AList.mem_insert _).mpr (.inr inside)
  case covered =>
    intro added present id inside
    cases present
    rcases (AList.mem_insert _).mp inside with rfl | inside
    · exact .inr (.inl ⟨af, typ, rfl, rfl, rfl⟩)
    · rcases agrees.covered entries registered id inside with used | ⟨_, _, _, running, _⟩ | none
      · exact .inl used
      · rw [pc] at running
        cases running
      · cases none
  case waits =>
    refine .opened rfl ⟨?_, ?_, ?_, ?_, ?_⟩
    · show 0 < v.next
      omega
    · show v.next ≤ (v.socks.size + 1 : Nat)
      omega
    · intro i slot holds same
      have allocated := (agrees.table.fits i slot holds).range.2
      have same : slot.sid = v.next := same
      omega
    · show ((v.opened entries af typ).socks.get (v.next - 1).toNat).af = af ∧ _
      rw [face, show (v.opened entries af typ).returned = v.next from rfl, index]
      simp [View.opened, View.ret]
    · intro added present
      cases present
      exact (AList.mem_insert _).mpr (.inl rfl)
  case peers =>
    intro i slot holds
    refine .inl fun recorded => ?_
    have connected := agrees.peered (by simp) holds recorded
    obtain ⟨positive, allocated⟩ := (agrees.table.fits i slot holds).range
    unfold Connected face at connected ⊢
    rwa [old _ (by omega)]

theorem asked_connect {memory : Memory} {call : Call} {remote : AddrPort}
    (request : asked memory locals call = some (.connect remote)) :
    ∃ fd sa n, call = .connect fd sa n ∧ remote = ⟨addrOf locals.ip, locals.port⟩ := by
  cases call with
  | connect fd sa n =>
      cases request
      exact ⟨fd, sa, n, rfl, rfl⟩
  | _ => simp [asked] at request

theorem asked_recv {memory other : Memory} {call : Call} {ptr capacity : Nat}
    {fromOut : Option (Nat × Nat)}
    (request : asked memory locals call = some (.recv ptr capacity fromOut)) :
    asked other locals call = some (.recv ptr capacity fromOut) := by
  cases call with
  | recv | recvfrom => exact request
  | _ => simp [asked] at request

theorem asked_of_move {sid : Int} {op : SockOp} {pc : GuestPc} {call : Call}
    (request : asked v.memory locals call = some op) (serving : Serving v sid op pc)
    (move : Move v pc after) : asked after.memory locals call = some op := by
  rcases serving.memory move with same | ⟨ptr, capacity, fromOut, rfl⟩
  · rwa [same]
  · exact asked_recv request

/-- An import on the socket of the pending call. -/
theorem Agrees.serve {call : Call} {op : SockOp}
    (agrees : Agrees sizeof v slots (some (.waiting call locals))) (sound : v.Sound)
    (few : v.socks.size < 2 ^ 31 - 1) (found : lookup slots (descriptor call) = some locals.slot)
    (unclosed : ∀ fd, call ≠ .close fd) (decoded : Decoded sizeof locals call)
    (request : asked v.memory locals call = some op)
    (serving : Serving v locals.slot.sid op v.guest) (move : Move v v.guest after) :
    Agrees sizeof after slots (some (.waiting call locals)) := by
  have kept := serving.kept move
  have holds : Holds slots _ locals.slot := (mem_of_lookup found).2
  constructor
  case table =>
    exact agrees.table.mono (Nat.le_of_eq kept.size.symm) fun ref _ =>
      ⟨kept.af ref, kept.typ ref⟩
  case entry =>
    intro i slot entries used present
    exact agrees.entry i slot entries used (kept.entries.symm.trans present)
  case covered =>
    intro entries present id inside
    exact .inl (agrees.slotted (by simp) (by simp) (kept.entries.symm.trans present) inside)
  case waits =>
    exact .serving found unclosed decoded (asked_of_move request serving move)
      (serving.move sound few move)
  case peers =>
    intro j other used
    rcases agrees.peers j other used with
      peered | ⟨fd, sa, n, locals, waiting, index, settled, connected⟩
    · by_cases connects : ∃ remote, op = .connect remote
      · obtain ⟨remote, rfl⟩ := connects
        obtain ⟨fd, sa, n, rfl, rfl⟩ := asked_connect request
        by_cases same : j = slotOf fd
        · subst same
          cases holds.inj used
          rcases serving.connect move with ⟨settled, connected⟩ | stays
          · exact .inr ⟨fd, sa, n, locals, rfl, rfl, settled, connected⟩
          · exact .inl fun recorded => stays (peered recorded)
        · exact .inl fun recorded =>
            kept.connected (agrees.table.apart holds used same) (peered recorded)
      · exact .inl fun recorded =>
          serving.stays move (fun remote same => connects ⟨remote, same⟩) (peered recorded)
    · obtain ⟨settled, socks⟩ := settled.move move
      exact .inr ⟨fd, sa, n, locals, waiting, index, settled, connected.of_socks socks⟩

/-- `sock_open` fails, but not for want of room. -/
theorem Agrees.refused {result : Int} (agrees : Agrees sizeof v slots (some (.opening af typ)))
    (pc : v.guest = .openSocket af typ) (negative : result < 0)
    (full : result = -wasiEMFILE → ∃ entries, v.entries = some entries ∧
      Host.Sockets.State.maxSocketsPerInstance ≤ entries.keys.length) :
    Agrees sizeof (v.ret result) slots (some (.opening af typ)) := by
  constructor
  case table => exact agrees.table.mono (Nat.le_refl _) fun _ _ => ⟨rfl, rfl⟩
  case entry => exact agrees.entry
  case covered =>
    intro entries present id inside
    rcases agrees.covered entries present id inside with used | ⟨_, _, _, running, _⟩ | none
    · exact .inl used
    · rw [pc] at running
      cases running
    · cases none
  case waits =>
    refine .refused rfl negative fun same => ?_
    obtain ⟨entries, present, many⟩ := full same
    have few := agrees.few_entries present
    exact absurd (Nat.le_trans many few) (by decide)
  case peers => exact fun i slot holds => .inl (agrees.peered (by simp) holds)

/-- Every section of an import keeps the two halves together. -/
theorem Agrees.move (agrees : Agrees sizeof v slots pending) (sound : v.Sound)
    (few : after.socks.size < 2 ^ 31 - 1) (move : Move v v.guest after) :
    Agrees sizeof after slots pending := by
  have before : v.socks.size < 2 ^ 31 - 1 := Nat.lt_of_le_of_lt move.size few
  cases waits : agrees.waits with
  | idle pc =>
      rcases pc with pc | pc
      all_goals
        rw [pc] at move
        cases move
  | opening pc =>
      have moved := move
      rw [pc] at moved
      cases moved with
      | refused negative full => exact agrees.refused pc negative full
      | opened registered => exact agrees.opened pc sound before registered
  | refused pc | opened pc | failed _ _ pc =>
      rw [pc] at move
      cases move
  | discarding leaving unused =>
      exact agrees.leave leaving move (fun i slot holds => .inl (unused i slot holds))
        (fun _ _ => by simp) (fun _ _ _ _ => by simp) fun left => .discarding left unused
  | @closing fd locals holds leaving =>
      refine agrees.leave leaving move ?_ (fun _ _ => by simp) (fun _ _ _ _ => by simp) fun left =>
        .closing holds left
      intro i slot used
      by_cases same : i = slotOf fd
      · exact .inr ⟨fd, locals, rfl, same⟩
      · exact .inl fun equal => same (agrees.table.distinct _ _ _ _ used holds equal)
  | serving found unclosed decoded request serving =>
      exact agrees.serve sound before found unclosed decoded request serving move

/-! ## The end of a call -/

/-- The call leaves something in its slot: the others agree as before, and every entry has a
slot. -/
theorem Agrees.set {value : Option Slot} (agrees : Agrees sizeof v slots pending)
    (pc : v.guest = .running) (inside : i < slots.length)
    (fits : ∀ slot, value = some slot → Fits v slot)
    (distinct : ∀ slot, value = some slot → ∀ j other, j ≠ i → Holds slots j other →
      other.sid ≠ slot.sid)
    (entry : ∀ slot, value = some slot → ∀ entries, v.entries = some entries →
      slot.sid ∈ entries)
    (peered : ∀ slot, value = some slot → Peered v slot)
    (kept : ∀ j, j ≠ i → ¬ Closing pending j ∧ ∀ slot, ¬ Reconnected v pending j slot)
    (covered : ∀ entries, v.entries = some entries → ∀ id ∈ entries,
      (∃ slot, value = some slot ∧ slot.sid = id) ∨
        ∃ j other, j ≠ i ∧ Holds slots j other ∧ other.sid = id) :
    Agrees sizeof v (slots.set i value) none := by
  constructor
  case table =>
    refine ⟨by simpa using agrees.table.length, ?_, ?_⟩
    · intro j other holds
      rcases (holds_set_iff inside).mp holds with ⟨-, new⟩ | ⟨-, old⟩
      · exact fits other new
      · exact agrees.table.fits j other old
    · intro j k one two holdsOne holdsTwo same
      rcases (holds_set_iff inside).mp holdsOne with ⟨rfl, new⟩ | ⟨apart, old⟩
      · rcases (holds_set_iff inside).mp holdsTwo with ⟨rfl, -⟩ | ⟨apart, old⟩
        · rfl
        · exact absurd same.symm (distinct one new k two apart old)
      · rcases (holds_set_iff inside).mp holdsTwo with ⟨rfl, new⟩ | ⟨-, other⟩
        · exact absurd same (distinct two new j one apart old)
        · exact agrees.table.distinct j k one two old other same
  case entry =>
    intro j other entries holds present
    rcases (holds_set_iff inside).mp holds with ⟨-, new⟩ | ⟨apart, old⟩
    · exact .inl (entry other new entries present)
    · exact (agrees.entry j other entries old present).imp_right fun closing =>
        absurd closing (kept j apart).1
  case covered =>
    intro entries present id member
    refine .inl ?_
    rcases covered entries present id member with ⟨slot, new, same⟩ | ⟨j, other, apart, old, same⟩
    · exact ⟨i, slot, (holds_set_iff inside).mpr (.inl ⟨rfl, new⟩), same⟩
    · exact ⟨j, other, (holds_set_iff inside).mpr (.inr ⟨apart, old⟩), same⟩
  case waits => exact .idle (.inr pc)
  case peers =>
    intro j other holds
    rcases (holds_set_iff inside).mp holds with ⟨-, new⟩ | ⟨apart, old⟩
    · exact .inl (peered other new)
    · exact (agrees.peers j other old).imp_right fun reconnected =>
        absurd reconnected ((kept j apart).2 other)

/-- `uw_socket` gives the new socket a slot. -/
theorem Agrees.place {i : Nat} (agrees : Agrees sizeof v slots (some (.opening af typ)))
    (pc : v.guest = .running) (placed : Placed v slots v.returned af typ)
    (inside : i < slots.length) (free : ∀ slot, ¬ Holds slots i slot) :
    Agrees sizeof v (slots.set i (some (.new v.returned af typ))) none := by
  apply agrees.set pc inside
  case fits =>
    rintro _ ⟨⟩
    refine ⟨⟨placed.positive, placed.allocated⟩, ⟨by simp [Slot.new], ?_⟩, placed.face⟩
    exact show 0 < 65536 by decide
  case distinct =>
    rintro _ ⟨⟩ j other - old
    exact placed.unused j other old
  case entry =>
    rintro _ ⟨⟩
    exact placed.entry
  case peered =>
    rintro _ ⟨⟩ recorded
    exact absurd rfl recorded
  case kept => simp [Closing, Reconnected]
  case covered =>
    intro entries present id member
    rcases agrees.covered entries present id member with
      ⟨j, other, old, same⟩ | ⟨_, _, _, _, same⟩ | none
    · refine .inr ⟨j, other, ?_, old, same⟩
      rintro rfl
      exact free other old
    · exact .inl ⟨_, rfl, same⟩
    · cases none

/-- `uw_close` gives the slot back. -/
theorem Agrees.drop {fd : Int}
    (agrees : Agrees sizeof v slots (some (.waiting (.close fd) locals)))
    (pc : v.guest = .running) (holds : Holds slots (slotOf fd) locals.slot)
    (gone : ∀ entries, v.entries = some entries → locals.slot.sid ∉ entries) :
    Agrees sizeof v (release slots fd) none := by
  apply agrees.set pc (List.getElem?_eq_some_iff.mp holds).1
  case fits | distinct | entry | peered =>
    rintro _ ⟨⟩
  case kept =>
    intro j apart
    refine ⟨?_, by simp [Reconnected]⟩
    rintro ⟨_, _, same, index⟩
    cases same
    exact apart index
  case covered =>
    intro entries present id member
    obtain ⟨j, other, old, rfl⟩ := agrees.slotted (by simp) (by simp) present member
    refine .inr ⟨j, other, ?_, old, rfl⟩
    rintro rfl
    cases holds.inj old
    exact gone entries present member

/-- `uw_connect` records the peer. -/
theorem Agrees.record {fd : Int} {sa : Option Sockaddr} {n : Nat}
    (agrees : Agrees sizeof v slots (some (.waiting (.connect fd sa n) locals)))
    (pc : v.guest = .running) (holds : Holds slots (slotOf fd) locals.slot)
    (decoded : decode sizeof sa n = .ok (locals.ip, locals.port))
    (connected : Connected v locals.slot.sid ⟨addrOf locals.ip, locals.port⟩) : Agrees sizeof v
      (slots.set (slotOf fd) (some (locals.slot.connected locals.ip locals.port))) none := by
  apply agrees.set pc (List.getElem?_eq_some_iff.mp holds).1
  case fits =>
    rintro _ ⟨⟩
    obtain ⟨length, small⟩ := bounds_of_decode decoded
    obtain ⟨range, ⟨full, -⟩, face⟩ := agrees.table.fits _ _ holds
    refine ⟨range, ⟨?_, small⟩, face⟩
    simp only [Slot.connected, List.length_append, List.length_drop, full]
    omega
  case distinct =>
    rintro _ ⟨⟩ j other apart old same
    exact apart (agrees.table.distinct _ _ _ _ old holds same)
  case entry =>
    rintro _ ⟨⟩ entries present
    have inside := agrees.entered (by simp) holds present
    exact inside
  case peered =>
    rintro _ ⟨⟩ -
    have taken : (locals.slot.connected locals.ip locals.port).peer.take
        (locals.slot.connected locals.ip locals.port).peerlen = locals.ip :=
      List.take_left' rfl
    rw [peerOf, taken]
    exact connected
  case kept =>
    intro j apart
    refine ⟨by simp [Closing], fun slot => ?_⟩
    rintro ⟨_, _, _, _, same, index, -⟩
    cases same
    exact apart index
  case covered =>
    intro entries present id member
    obtain ⟨j, other, old, rfl⟩ := agrees.slotted (by simp) (by simp) present member
    by_cases same : j = slotOf fd
    · subst same
      cases holds.inj old
      exact .inl ⟨_, rfl, rfl⟩
    · exact .inr ⟨j, other, same, old, rfl⟩

/-- `uw_socket` has no slot for the new socket and closes it. -/
theorem Agrees.discard (agrees : Agrees sizeof v slots (some (.opening af typ)))
    (placed : Placed v slots v.returned af typ) (entries : after.entries = v.entries)
    (socks : after.socks = v.socks) (pc : after.guest = .delete v.returned) :
    Agrees sizeof after slots (some (.discarding v.returned)) where
  table := agrees.table.of_socks socks
  entry i slot some holds present :=
    .inl (agrees.entered (by simp) holds (entries.symm.trans present))
  covered some present id inside := by
    rcases agrees.covered some (entries.symm.trans present) id inside with
      used | ⟨_, _, _, _, same⟩ | none
    · exact .inl used
    · exact .inr (.inr (by rw [same]))
    · cases none
  waits := .discarding (.inl pc) placed.unused
  peers i slot holds :=
    .inl fun recorded => (agrees.peered (by simp) holds recorded).of_socks socks

theorem free_of_freeSlot {i : Nat} (found : Backend.freeSlot slots = some i) :
    i < slots.length ∧ ∀ slot, ¬ Holds slots i slot := by
  obtain ⟨inside, empty, -⟩ := List.findIdx?_eq_some_iff_getElem.mp found
  refine ⟨inside, fun slot holds => ?_⟩
  rw [Holds, List.getElem?_eq_getElem inside] at holds
  rw [Option.some.inj holds] at empty
  cases empty

/-- A call on a slot that neither closes nor connects it ends with the slots as they were. -/
theorem slots_of_resume {memory : Memory} {r : Int} {call : Call} {turn : Turn}
    (unclosed : ∀ fd, call ≠ .close fd) (failed : ∀ fd sa n, call = .connect fd sa n → r < 0)
    (resumed : resume sizeof slots memory r (.waiting call locals) = some turn) :
    ∃ outcome, turn = .done slots outcome := by
  cases call with
  | connect fd sa n =>
      simp only [resume, if_pos (failed fd sa n rfl)] at resumed
      cases resumed
      exact ⟨_, rfl⟩
  | recvfrom fd buf n sl =>
      simp only [resume] at resumed
      split at resumed
      · cases resumed
        exact ⟨_, rfl⟩
      · split at resumed <;> cases resumed
        exact ⟨_, rfl⟩
  | getsockname fd room =>
      simp only [resume] at resumed
      split at resumed <;> cases resumed <;> exact ⟨_, rfl⟩
  | close fd => exact absurd rfl (unclosed fd)
  | bind | send | sendto | recv | getsockopt =>
      cases resumed
      exact ⟨_, rfl⟩
  | socket | getpeername => cases resumed

theorem not_closing {call : Call} (unclosed : ∀ fd, call ≠ .close fd) (i : Nat) :
    ¬ Closing (some (.waiting call locals)) i := by
  rintro ⟨fd, _, same, -⟩
  cases same
  exact unclosed fd rfl

theorem not_reconnected {call : Call} (pc : v.guest = .running)
    (failed : ∀ fd sa n, call = .connect fd sa n → v.returned < 0) :
    ¬ Reconnected v (some (.waiting call locals)) i slot := by
  rintro ⟨fd, sa, n, _, same, -, settled, -⟩
  cases same
  have negative := failed fd sa n rfl
  rcases settled with ⟨event, other⟩ | other | ⟨-, positive⟩
  · rw [pc] at other
    cases other
  · rw [pc] at other
    cases other
  · omega

/-- The return of an import keeps the two halves together. -/
theorem Agrees.resume {next : Pending} {turn : Turn}
    (agrees : Agrees sizeof s.host.view s.slots (some next)) (sound : s.host.view.Sound)
    (few : s.host.view.socks.size < 2 ^ 31 - 1) (running : s.host.guest = .running)
    (resumed : resume sizeof s.slots s.host.memory s.host.returned next = some turn) :
    Agrees sizeof (s.advance turn).host.view (s.advance turn).slots (s.advance turn).pending := by
  have here : s.host.view.guest = .running := running
  cases waits : agrees.waits with
  | opening pc =>
      rw [here] at pc
      cases pc
  | refused pc negative room =>
      have negative : s.host.returned < 0 := negative
      simp only [Guest.Veneer.resume, if_pos negative] at resumed
      cases resumed
      refine agrees.finish pc (by simp [Closing]) ?_ (by simp [Reconnected])
      rintro entries present id inside (⟨_, _, _, _, same⟩ | none)
      · obtain ⟨sock, found⟩ := Option.isSome_iff_exists.mp (AList.lookup_isSome.mpr inside)
        have number := (sound.entry few id sock (by rw [View.socket, present]; exact found)).1
        have same : s.host.returned = id := same
        omega
      · cases none
  | opened pc placed =>
      have positive : ¬ s.host.returned < 0 := by
        have positive : 0 < s.host.returned := placed.positive
        omega
      simp only [Guest.Veneer.resume, if_neg positive] at resumed
      split at resumed
      next i found =>
        cases resumed
        obtain ⟨inside, free⟩ := free_of_freeSlot found
        exact agrees.place pc placed inside free
      next full =>
        cases resumed
        exact agrees.discard placed rfl rfl rfl
  | discarding leaving unused =>
      cases resumed
      refine agrees.finish here (by simp [Closing]) ?_ (by simp [Reconnected])
      rintro entries present id inside (⟨_, _, none, _⟩ | same)
      · cases none
      · cases same
        rcases leaving with pc | ⟨-, gone⟩
        · rw [here] at pc
          cases pc
        · exact gone entries present inside
  | closing holds leaving =>
      cases resumed
      rcases leaving with pc | ⟨-, gone⟩
      · rw [here] at pc
        cases pc
      · exact agrees.drop here holds gone
  | failed found unclosed pc negative =>
      obtain ⟨outcome, rfl⟩ := slots_of_resume unclosed (fun _ _ _ _ => negative) resumed
      exact agrees.finish pc (not_closing unclosed) (by simp [Unplaced])
        fun i slot => not_reconnected pc fun _ _ _ _ => negative
  | @serving call locals op found unclosed decoded request serving =>
      by_cases success : ∃ fd sa n, call = .connect fd sa n ∧ ¬ s.host.returned < 0
      · obtain ⟨fd, sa, n, rfl, success⟩ := success
        simp only [Guest.Veneer.resume, if_neg success] at resumed
        cases resumed
        cases request
        rw [here] at serving
        cases serving with
        | returned post =>
            refine agrees.record here (mem_of_lookup found).2 decoded (post ?_)
            show 0 ≤ s.host.returned
            omega
      · have failed : ∀ fd sa n, call = .connect fd sa n → s.host.returned < 0 := by
          intro fd sa n connects
          by_contra positive
          exact success ⟨fd, sa, n, connects, positive⟩
        obtain ⟨outcome, rfl⟩ := slots_of_resume unclosed failed resumed
        exact agrees.finish here (not_closing unclosed) (by simp [Unplaced])
          fun i slot => not_reconnected here failed

/-! ## The table of the event backend -/

/-- The host ids in the slots, which is what `Guest.Backend` keeps of them. -/
def sids (slots : Slots) : List (Option Int) := slots.map (Option.map Slot.sid)

/-- What a call amounts to in `Guest.Backend`, once its import has returned `r`. -/
def operated (b : Backend) (r : Int) : Pending → Backend
  | .opening _ _ => if r < 0 then b else b.socket
  | .waiting (.close fd) _ => b.close fd
  | .discarding _ | .waiting _ _ => b

theorem getElem?_sids (holds : Holds slots i slot) : (sids slots)[i]? = some (some slot.sid) := by
  rw [sids, List.getElem?_map, holds]
  rfl

theorem lookup_sids (slots : Slots) (fd : Int) :
    lookup (sids slots) fd = (lookup slots fd).map Slot.sid := by
  unfold lookup
  split
  · rfl
  · rw [sids, List.getElem?_map]
    rcases slots[slotOf fd]? with - | - | slot <;> rfl

theorem freeSlot_sids (slots : Slots) :
    Backend.freeSlot (sids slots) = Backend.freeSlot slots := by
  simp [Backend.freeSlot, sids, List.findIdx?_map, Function.comp_def]

theorem sids_set (slots : Slots) (i : Nat) (value : Option Slot) :
    sids (slots.set i value) = (sids slots).set i (value.map Slot.sid) :=
  List.map_set

/-- `uw_socket` and `uw_close` do to the ids in the slots what the operations of `Guest.Backend`
do, where `sock_open` returns the id that it counts to, and no other call changes them. -/
theorem sids_of_resume {b : Backend} {memory : Memory} {r : Int} {next : Pending}
    {final : Slots} {outcome : Outcome} (same : b.slots = sids slots)
    (number : ∀ af typ, next = .opening af typ → ¬ r < 0 → toInt32 (b.opened + 1) = r)
    (held : ∀ call locals, next = .waiting call locals →
      lookup slots (descriptor call) = some locals.slot)
    (resumed : resume sizeof slots memory r next = some (.done final outcome)) :
    (operated b r next).slots = sids final := by
  cases next with
  | opening af typ =>
      simp only [Guest.Veneer.resume] at resumed
      split at resumed
      next negative =>
        cases resumed
        rw [operated, if_pos negative, same]
      next success =>
        split at resumed
        next i free =>
          cases resumed
          rw [← freeSlot_sids, ← same] at free
          rw [operated, if_neg success, Backend.socket, number af typ rfl success]
          simp only [if_neg success, free]
          rw [same, sids_set]
          rfl
        next => cases resumed
  | discarding sid =>
      cases resumed
      exact same
  | waiting call locals =>
      have found := held call locals rfl
      by_cases closes : ∃ fd, call = .close fd
      · obtain ⟨fd, rfl⟩ := closes
        cases resumed
        have found : lookup b.slots fd = some locals.slot.sid := by
          rw [same, lookup_sids, show lookup slots fd = _ from found]
          rfl
        rw [operated, Backend.close, found]
        dsimp only
        rw [same, release, release, sids_set]
        rfl
      have unchanged : operated b r (.waiting call locals) = b := by
        cases call with
        | close fd => exact absurd ⟨fd, rfl⟩ closes
        | _ => rfl
      rw [unchanged, same]
      by_cases connects : ∃ fd sa n, call = .connect fd sa n ∧ ¬ r < 0
      · obtain ⟨fd, sa, n, rfl, success⟩ := connects
        simp only [Guest.Veneer.resume, if_neg success] at resumed
        cases resumed
        rw [sids_set]
        obtain ⟨inside, value⟩ :=
          List.getElem?_eq_some_iff.mp (getElem?_sids (mem_of_lookup found).2)
        have kept := List.set_getElem_self inside
        rw [value] at kept
        exact kept.symm
      · obtain ⟨_, done⟩ := slots_of_resume (fun fd same => closes ⟨fd, same⟩)
          (fun fd sa n same => not_le.mp fun positive =>
            connects ⟨fd, sa, n, same, not_lt.mpr positive⟩) resumed
        cases done
        rfl

/-! ## Whole runs -/

theorem size_call (host : Host.Sockets.State) (imp : Import) :
    (host.call imp).view.socks.size = host.view.socks.size := by
  rcases Host.Sockets.State.view_of_entered (host.entered_call imp) with ⟨result, same⟩ | ⟨pc, same⟩
  · rw [same]
    rfl
  · rw [same]
    rfl

/-- A step of the host that the veneer does not make. -/
theorem Agrees.host {action : Host.Sockets.Action} {host : Host.Sockets.State}
    (agrees : s.host.view.socks.size < 2 ^ 31 - 1 → Agrees sizeof s.host.view s.slots s.pending)
    (sound : s.host.view.Sound) (admitted : s.admits action = true)
    (stepped : s.host.step action = some host) (few : host.view.socks.size < 2 ^ 31 - 1) :
    Agrees sizeof host.view s.slots s.pending := by
  have turn (pc : GuestPc) (here : pc = .outside ∨ pc = .running)
      (free : s.pending.isNone = true) (few : s.host.view.socks.size < 2 ^ 31 - 1) :
      Agrees sizeof (s.host.view.goto pc) s.slots s.pending := by
    have free := Option.isNone_iff_eq_none.mp free
    have agrees := agrees few
    rw [free] at agrees ⊢
    exact agrees.begin rfl rfl (.idle here)
  cases action with
  | guest reply =>
      have move := Host.Sockets.State.move_of_guestStep stepped
      exact (agrees (Nat.lt_of_le_of_lt move.size few)).move sound few move
  | dial | reader | shutdown =>
      have quiet := (Host.Sockets.State.beside_of_step stepped rfl).quiet
      exact (agrees (by rwa [quiet.size] at few)).quiet quiet
  | call imp => cases admitted
  | enter | dispatch =>
      cases Host.Sockets.State.moved_of_step stepped
      exact turn .running (.inr rfl) admitted few
  | leave =>
      cases Host.Sockets.State.moved_of_step stepped
      exact turn .outside (.inl rfl) admitted few
  | compute memory =>
      cases Host.Sockets.State.moved_of_step stepped with
      | compute running =>
          have free := Option.isNone_iff_eq_none.mp admitted
          have agrees := agrees few
          rw [free] at agrees ⊢
          exact agrees.begin rfl rfl (.idle (.inr running))

/-- Every step keeps the two halves together. -/
theorem agrees_step {after : State} (sound : s.host.view.Sound)
    (agrees : s.host.view.socks.size < 2 ^ 31 - 1 → Agrees sizeof s.host.view s.slots s.pending)
    (stepped : Stepped sizeof s after) (few : after.host.view.socks.size < 2 ^ 31 - 1) :
    Agrees sizeof after.host.view after.slots after.pending := by
  cases stepped with
  | host admitted moved => exact Agrees.host (s := s) agrees sound admitted moved few
  | @call call frame turn running free started =>
      cases turn with
      | done other outcome =>
          have same := slots_of_start started
          subst same
          have agrees := agrees few
          rw [free] at agrees
          exact agrees.begin rfl rfl (.idle (.inr running))
      | ask stored imp next =>
          rw [State.advance, size_call] at few
          have agrees := agrees few
          rw [free] at agrees
          exact agrees.ask (asks_of_start started)
  | @resume next turn running waiting resumed =>
      have before : s.host.view.socks.size < 2 ^ 31 - 1 := by
        cases turn with
        | done other outcome => exact few
        | ask stored imp next =>
            rw [State.advance, size_call] at few
            exact few
      have agrees := agrees before
      rw [waiting] at agrees
      exact agrees.resume sound before running resumed

theorem agrees_initial :
    Agrees sizeof State.initial.host.view State.initial.slots State.initial.pending := by
  have empty (i : Nat) (slot : Slot) : ¬ Holds State.initial.slots i slot := by
    intro holds
    simp [Holds, State.initial, List.getElem?_replicate] at holds
  constructor
  case table =>
    exact ⟨List.length_replicate, fun i slot holds => absurd holds (empty i slot),
      fun i _ slot _ holds => absurd holds (empty i slot)⟩
  case entry => exact fun i slot _ holds => absurd holds (empty i slot)
  case covered =>
    intro entries present id inside
    cases present
    cases inside
  case waits => exact .idle (.inl rfl)
  case peers => exact fun i slot holds => absurd holds (empty i slot)

theorem agrees_of_reachable (reachable : (machine sizeof).Reachable s)
    (few : s.host.socks.size < 2 ^ 31 - 1) : Agrees sizeof s.host.view s.slots s.pending := by
  have preserved : ∀ before action after,
      (Host.Sockets.machine.Reachable before.host ∧ (before.host.view.socks.size < 2 ^ 31 - 1 →
        Agrees sizeof before.host.view before.slots before.pending)) →
      (machine sizeof).step before action = some after →
      Host.Sockets.machine.Reachable after.host ∧ (after.host.view.socks.size < 2 ^ 31 - 1 →
        Agrees sizeof after.host.view after.slots after.pending) := by
    intro before action after held stepped
    have stepped := stepped_of_step stepped
    exact ⟨host_reachable_step held.1 stepped,
      agrees_step (Host.Sockets.State.sound_of_reachable held.1) held.2 stepped⟩
  have reached := Machine.Reachable.invariant preserved reachable ⟨.refl _, fun _ => agrees_initial⟩
  exact reached.2 few

/-- The descriptors in use and the host's entries correspond one to one, and what the guest
keeps about a socket is what the host keeps. -/
structure Matched (s : State) (entries : Entries) : Prop where
  entry : ∀ fd slot, lookup s.slots fd = some slot →
    ∃ sock, entries.lookup slot.sid = some sock ∧ (s.host.socks.get sock).id = slot.sid ∧
      (s.host.socks.get sock).af = slot.af ∧ (s.host.socks.get sock).typ = slot.typ
  descriptor : ∀ id ∈ entries, ∃ fd, ∀ other,
    (∃ slot, lookup s.slots other = some slot ∧ slot.sid = id) ↔ other = fd

theorem matched_of_agrees (agrees : Agrees sizeof s.host.view s.slots none)
    (sound : s.host.view.Sound) (few : s.host.socks.size < 2 ^ 31 - 1)
    (present : s.host.sockets = some entries) : Matched s entries where
  entry fd slot found := by
    have holds := (mem_of_lookup found).2
    have inside := agrees.entered (by simp) holds present
    obtain ⟨sock, located⟩ := Option.isSome_iff_exists.mp (AList.lookup_isSome.mpr inside)
    obtain ⟨number, allocated⟩ := sound.entry few slot.sid sock (by
      rw [View.socket, show s.host.view.entries = some entries from present]
      exact located)
    have face := (agrees.table.fits _ slot holds).face
    rw [face_of_named number] at face
    refine ⟨sock, located, ?_, face⟩
    rw [number]
    have id := sound.ids sock allocated
    rw [show (sock : Int) + 1 = (sock + 1 : Nat) from rfl,
      @toInt32_of_lt (sock + 1) (by have : sock < s.host.socks.size := allocated; omega)] at id
    exact id
  descriptor id inside := by
    obtain ⟨i, slot, holds, rfl⟩ := agrees.slotted (by simp) (by simp) present inside
    refine ⟨fdBase + i, fun other => ⟨?_, ?_⟩⟩
    · rintro ⟨slot', found, same⟩
      obtain ⟨high, holds'⟩ := mem_of_lookup found
      have index := agrees.table.distinct _ _ _ _ holds' holds same
      unfold slotOf at index
      omega
    · rintro rfl
      exact ⟨slot, lookup_of_mem holds, rfl⟩

/-- Between two calls the descriptors in use match the host's sockets one to one. At any time
the host holds at most one socket more than the veneer has slots, so that `sock_open` never
fails because of the host's own cap. -/
theorem descriptors_match_sockets {s : State} (reachable : (machine sizeof).Reachable s)
    (few : s.host.socks.size < 2 ^ 31 - 1) :
    (∀ entries, s.host.sockets = some entries → entries.keys.length ≤ maxSockets + 1) ∧
      (∀ entries, s.host.sockets = some entries → s.pending = none → Matched s entries) ∧
      ∀ af typ, s.pending = some (.opening af typ) → s.host.guest = .running →
        s.host.returned ≠ -wasiEMFILE := by
  have agrees := agrees_of_reachable reachable few
  have sound := Host.Sockets.State.sound_of_reachable (host_reachable reachable)
  refine ⟨fun entries present => agrees.few_entries present, fun entries present idle => ?_, ?_⟩
  · rw [idle] at agrees
    exact matched_of_agrees agrees sound few present
  · intro af typ opening running
    rw [opening] at agrees
    cases agrees.waits with
    | opening pc =>
        rw [show s.host.view.guest = .running from running] at pc
        cases pc
    | refused _ _ room => exact room
    | opened _ placed =>
        have positive : 0 < s.host.returned := placed.positive
        intro full
        rw [full] at positive
        exact absurd positive (by decide)

/-- Unbound opens a UDP socket. -/
def openOne : List Action :=
  [.host .enter, .call (.socket (some .inet4) (some .udp)) ⟨0, 16⟩, .host (.guest {}), .resume]

theorem descriptors_match_sockets_openOne :
    ∃ s entries, (machine fun _ => 16).run (machine fun _ => 16).initial openOne = some s ∧
      s.host.sockets = some entries ∧ lookup s.slots fdBase = some (.new 1 .inet4 .udp) ∧
      Matched s entries := by
  obtain ⟨s, entries, ran, present, idle, small, found⟩ : ∃ s entries,
      (machine fun _ => 16).run (machine fun _ => 16).initial openOne = some s ∧
      s.host.sockets = some entries ∧ s.pending = none ∧ s.host.socks.size = 1 ∧
      lookup s.slots fdBase = some (.new 1 .inet4 .udp) :=
    ⟨_, _, rfl, rfl, rfl, rfl, rfl⟩
  have few : s.host.socks.size < 2 ^ 31 - 1 := by rw [small]; decide
  exact ⟨s, entries, ran, present, found,
    (descriptors_match_sockets (Machine.reaches_of_run ran) few).2.1 entries present idle⟩

end UnboundWasm.System.Veneer
