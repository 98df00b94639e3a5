import Mathlib.Tactic.Ring
import UnboundWasm.Lib.Pool

/-!
# The ports that are shared

The patch to `services/outside_network.c` keeps the outgoing ports that are free as a bitmap,
where it used to keep them in an array.  A random index below their number picks one: the
bitmap's by counting bits in the order of the ports, the array's by its place.  Both are pools of
the same ports, so that neither can do what the other cannot and each port has one index.

The bytes of the bitmap are a function of their position.  `reusenum` and the draw of the index
are the caller's.
-/

namespace UnboundWasm.Guest

open UnboundWasm.Lib

/-- `struct shared_ports_if` with the bitmap. -/
structure SharedPortsIf where
  availBits : Nat → UInt8
  availTotal : Nat
  inuse : Nat

/-- `(b >> bit) & 1`. -/
def hasBit (byte : UInt8) (bit : Nat) : Bool := (byte.toNat >>> bit) &&& 1 ≠ 0

/-- The popcount of a byte, two bits, four bits and then all of them at a time. -/
def popcount (byte : UInt8) : Nat :=
  let c := byte.toNat - ((byte.toNat >>> 1) &&& 0x55)
  let c := (c &&& 0x33) + ((c >>> 2) &&& 0x33)
  (c + (c >>> 4)) &&& 0x0f

/-- `avail_bits[i] &= (uint8_t)~(1<<bit)`. -/
def clearBit (bits : Nat → UInt8) (i bit : Nat) : Nat → UInt8 :=
  Function.update bits i (bits i &&& ~~~(1 <<< UInt8.ofNat bit))

/-- `avail_bits[port/8] |= (uint8_t)(1<<(port%8))`. -/
def setBit (bits : Nat → UInt8) (port : Nat) : Nat → UInt8 :=
  Function.update bits (port / 8) (bits (port / 8) ||| (1 <<< UInt8.ofNat (port % 8)))

/-- The inner loop, for a number of bits: the bit that is found, or what is left of `num`. -/
def takeBit (byte : UInt8) : Nat → Nat → Nat → Except Nat Nat
  | 0, _, num => .error num
  | rounds + 1, bit, num =>
      if hasBit byte bit then
        if num = 0 then .ok bit else takeBit byte rounds (bit + 1) (num - 1)
      else takeBit byte rounds (bit + 1) num

/-- The loop of `shared_ports_take_avail`, for a number of bytes: the port and the bitmap without
it, or nothing for -1. -/
def takeLoop (bits : Nat → UInt8) : Nat → Nat → Nat → Option (Nat × (Nat → UInt8))
  | 0, _, _ => none
  | rounds + 1, i, num =>
      let b := bits i
      if b = 0 then takeLoop bits rounds (i + 1) num
      else if num ≥ popcount b then takeLoop bits rounds (i + 1) (num - popcount b)
      else
        match takeBit b 8 0 num with
        | .ok bit => some (i * 8 + bit, clearBit bits i bit)
        | .error num => takeLoop bits rounds (i + 1) num

/-- `shared_ports_take_avail`. -/
def sharedPortsTakeAvail (bits : Nat → UInt8) (num : Nat) : Option (Nat × (Nat → UInt8)) :=
  takeLoop bits (65536 / 8) 0 num

/-- The loop of `shared_ports_setup_if`. -/
def setupBits (availports : List Int) (bits : Nat → UInt8) : Nat → UInt8 :=
  availports.foldl (fun bits port =>
    if port < 0 ∨ port > 65535 then bits else setBit bits port.toNat) bits

/-- `shared_ports_setup_if`, with whether `calloc` finds memory. -/
def sharedPortsSetupIf (found : Bool) (availports : List Int) : Option SharedPortsIf :=
  if found then some ⟨setupBits availports fun _ => 0, availports.length, 0⟩ else none

/-- The end of a fetch: nothing is returned for -1, and nothing has changed then. -/
def portFetch (shpif : SharedPortsIf) (myPort : Nat) : Option (Int × SharedPortsIf) :=
  match sharedPortsTakeAvail shpif.availBits myPort with
  | none => none
  | some (portno, bits) =>
      some (portno, { shpif with availBits := bits, inuse := shpif.inuse + 1 })

/-- The return of a port. -/
def portReturn (shpif : SharedPortsIf) (port : Int) : SharedPortsIf :=
  { shpif with availBits := setBit shpif.availBits port.toNat, inuse := shpif.inuse - 1 }

/-- The interface before the patch, with the ports in an array of which the first
`avail_total - inuse` are free. -/
structure PortArray where
  availPorts : List Int
  availTotal : Nat
  inuse : Nat
  deriving DecidableEq, Repr

/-- The setup before the patch. -/
def PortArray.setup (availports : List Int) : PortArray :=
  ⟨availports, availports.length, 0⟩

/-- The fetch before the patch: the last free port takes the place of the one that goes. -/
def PortArray.fetch (array : PortArray) (myPort : Nat) : Option (Int × PortArray) :=
  match array.availPorts[myPort]?, array.availPorts[array.availTotal - array.inuse - 1]? with
  | some portno, some last =>
      some (portno, { array with
        availPorts := array.availPorts.set myPort last
        inuse := array.inuse + 1 })
  | _, _ => none

/-- The return before the patch. -/
def PortArray.giveBack (array : PortArray) (port : Int) : PortArray :=
  { array with
    availPorts := array.availPorts.set (array.availTotal - array.inuse) port
    inuse := array.inuse - 1 }

/-! ## Bits -/

theorem hasBit_eq (byte : UInt8) (bit : Nat) : hasBit byte bit = byte.toBitVec.getLsbD bit := by
  rw [hasBit, BitVec.getLsbD, Nat.testBit, Nat.and_comm, UInt8.toNat_toBitVec]
  simp only [ne_eq, decide_not]
  rfl

theorem hasBit_clear {byte : UInt8} {bit other : Nat} (small : bit < 8) (inside : other < 8) :
    hasBit (byte &&& ~~~(1 <<< UInt8.ofNat bit)) other = true ↔
      hasBit byte other = true ∧ other ≠ bit := by
  have apart : (other < bit ∨ ¬ other - bit = 0) ↔ other ≠ bit := by omega
  rw [hasBit_eq, hasBit_eq]
  simp [inside, Nat.mod_eq_of_lt small, apart]

theorem hasBit_set {byte : UInt8} {bit other : Nat} (small : bit < 8) (inside : other < 8) :
    hasBit (byte ||| (1 <<< UInt8.ofNat bit)) other = true ↔
      hasBit byte other = true ∨ other = bit := by
  have same : (bit ≤ other ∧ other - bit = 0) ↔ other = bit := by omega
  rw [hasBit_eq, hasBit_eq]
  simp [inside, Nat.mod_eq_of_lt small, same]

/-- The bits of a byte, from one of them on. -/
def bitsFrom (byte : UInt8) (bit rounds : Nat) : List Nat :=
  (List.range' bit rounds).filter (hasBit byte)

/-- The sums of bits count them, for each of the 256 bytes. -/
theorem popcount_eq (byte : UInt8) : popcount byte = (bitsFrom byte 0 8).length := by
  have all : ∀ n < 256, popcount (UInt8.ofNat n) = (bitsFrom (UInt8.ofNat n) 0 8).length := by
    decide +kernel
  simpa using all byte.toNat byte.toNat_lt

/-- The inner loop finds the bit with a number. -/
theorem takeBit_eq {byte : UInt8} {rounds bit num found : Nat}
    (there : (bitsFrom byte bit rounds)[num]? = some found) :
    takeBit byte rounds bit num = .ok found := by
  induction rounds generalizing bit num with
  | zero => simp [bitsFrom] at there
  | succ rounds ih =>
      rw [bitsFrom, List.range'_succ, List.filter_cons] at there
      rw [takeBit]
      by_cases set : hasBit byte bit = true
      · rw [if_pos set] at there ⊢
        cases num with
        | zero =>
            rw [List.getElem?_cons_zero, Option.some.injEq] at there
            rw [if_pos rfl, there]
        | succ num =>
            rw [List.getElem?_cons_succ] at there
            rw [if_neg (Nat.succ_ne_zero num), Nat.add_sub_cancel]
            exact ih there
      · rw [if_neg set] at there ⊢
        exact ih there

/-! ## The bitmap -/

/-- Whether a port is free. -/
def hasPort (bits : Nat → UInt8) (port : Nat) : Bool := hasBit (bits (port / 8)) (port % 8)

theorem hasPort_clear (bits : Nat → UInt8) {i bit : Nat} (small : bit < 8) (port : Nat) :
    hasPort (clearBit bits i bit) port = true ↔ hasPort bits port = true ∧ port ≠ i * 8 + bit := by
  rw [hasPort, hasPort, clearBit]
  by_cases same : port / 8 = i
  · subst same
    rw [Function.update_self, hasBit_clear small (Nat.mod_lt _ (by decide))]
    apply and_congr_right'
    omega
  · have apart : port ≠ i * 8 + bit := by omega
    rw [Function.update_of_ne same, and_iff_left apart]

theorem hasPort_set (bits : Nat → UInt8) (new port : Nat) :
    hasPort (setBit bits new) port = true ↔ hasPort bits port = true ∨ port = new := by
  rw [hasPort, hasPort, setBit]
  by_cases same : port / 8 = new / 8
  · rw [same, Function.update_self,
      hasBit_set (Nat.mod_lt _ (by decide)) (Nat.mod_lt _ (by decide))]
    apply or_congr_right
    omega
  · have apart : port ≠ new := by
      rintro rfl
      exact same rfl
    rw [Function.update_of_ne same, or_iff_left apart]

/-- The free ports in a number of bytes. -/
def portsFrom (bits : Nat → UInt8) (i rounds : Nat) : List Nat :=
  (List.range' (i * 8) (rounds * 8)).filter (hasPort bits)

/-- The free ports, in order. -/
def freePorts (bits : Nat → UInt8) : List Nat := (List.range 65536).filter (hasPort bits)

theorem portsFrom_succ (bits : Nat → UInt8) (i rounds : Nat) :
    portsFrom bits i (rounds + 1) =
      (bitsFrom (bits i) 0 8).map (i * 8 + ·) ++ portsFrom bits (i + 1) rounds := by
  have split : List.range' (i * 8) ((rounds + 1) * 8) =
      (List.range' 0 8).map (i * 8 + ·) ++ List.range' ((i + 1) * 8) (rounds * 8) := by
    rw [List.map_add_range', Nat.add_mul, Nat.add_mul, Nat.add_comm (rounds * 8), Nat.add_zero,
      List.range'_append_1]
  rw [portsFrom, split, List.filter_append, List.filter_map, bitsFrom]
  congr 2
  apply List.filter_congr
  intro bit inside
  have small : bit < 8 := by simpa using List.mem_range'.mp inside
  rw [Function.comp_apply, hasPort, show (i * 8 + bit) / 8 = i by omega,
    show (i * 8 + bit) % 8 = bit by omega]

theorem takeLoop_eq (bits : Nat → UInt8) (rounds i num : Nat) :
    takeLoop bits rounds i num = ((portsFrom bits i rounds)[num]?).map fun port =>
      (port, clearBit bits (port / 8) (port % 8)) := by
  induction rounds generalizing i num with
  | zero => simp [takeLoop, portsFrom]
  | succ rounds ih =>
      rw [takeLoop, portsFrom_succ]
      by_cases zero : bits i = 0
      · have none : bitsFrom (bits i) 0 8 = [] := by
          rw [zero]
          decide
        rw [if_pos zero, ih, none, List.map_nil, List.nil_append]
      · rw [if_neg zero]
        have length : ((bitsFrom (bits i) 0 8).map (i * 8 + ·)).length = popcount (bits i) := by
          rw [List.length_map, popcount_eq]
        by_cases skipped : num ≥ popcount (bits i)
        · rw [if_pos skipped, ih, List.getElem?_append_right (by omega), length]
        · rw [if_neg skipped, List.getElem?_append_left (by omega), List.getElem?_map]
          obtain ⟨bit, there⟩ : ∃ bit, (bitsFrom (bits i) 0 8)[num]? = some bit := by
            rw [popcount_eq] at skipped
            exact ⟨_, List.getElem?_eq_getElem (Nat.lt_of_not_le skipped)⟩
          have small : bit < 8 := by
            have member := List.mem_of_getElem? there
            simpa using List.mem_range'.mp (List.mem_filter.mp member).1
          rw [takeBit_eq there, there]
          simp only [Option.map_some, show (i * 8 + bit) / 8 = i by omega,
            show (i * 8 + bit) % 8 = bit by omega]

theorem sharedPortsTakeAvail_eq (bits : Nat → UInt8) (num : Nat) :
    sharedPortsTakeAvail bits num = ((freePorts bits)[num]?).map fun port =>
      (port, clearBit bits (port / 8) (port % 8)) := by
  have all : portsFrom bits 0 (65536 / 8) = freePorts bits := by
    rw [portsFrom, freePorts, List.range_eq_range']
  rw [sharedPortsTakeAvail, takeLoop_eq, all]

theorem mem_freePorts {bits : Nat → UInt8} {port : Nat} :
    port ∈ freePorts bits ↔ port < 65536 ∧ hasPort bits port = true := by
  rw [freePorts, List.mem_filter, List.mem_range]

theorem nodup_freePorts (bits : Nat → UInt8) : (freePorts bits).Nodup :=
  List.Nodup.filter _ List.nodup_range

theorem freePorts_clear (bits : Nat → UInt8) (port : Nat) :
    freePorts (clearBit bits (port / 8) (port % 8)) = (freePorts bits).erase port := by
  rw [(nodup_freePorts bits).erase_eq_filter, freePorts, freePorts, List.filter_filter]
  apply List.filter_congr
  intro other _
  rw [Bool.eq_iff_iff, hasPort_clear bits (Nat.mod_lt _ (by decide)), Nat.div_add_mod']
  simp [and_comm]

theorem freePorts_set {bits : Nat → UInt8} {port : Nat} (small : port < 65536)
    (absent : port ∉ freePorts bits) :
    (freePorts (setBit bits port)).Perm (port :: freePorts bits) := by
  rw [List.perm_ext_iff_of_nodup (nodup_freePorts _)
    (List.nodup_cons.mpr ⟨absent, nodup_freePorts bits⟩)]
  intro other
  rw [List.mem_cons, mem_freePorts, mem_freePorts, hasPort_set]
  constructor
  · rintro ⟨below, set | rfl⟩
    · exact .inr ⟨below, set⟩
    · exact .inl rfl
  · rintro (rfl | ⟨below, set⟩)
    · exact ⟨small, .inr rfl⟩
    · exact ⟨below, .inl set⟩

-- what follows never computes the 65536 entries
attribute [irreducible] freePorts

theorem hasPort_setupBits (ports : List Int) (bits : Nat → UInt8) (other : Nat) :
    hasPort (setupBits ports bits) other = true ↔
      hasPort bits other = true ∨ ((other : Int) ∈ ports ∧ other < 65536) := by
  induction ports generalizing bits with
  | nil => simp [setupBits]
  | cons port ports ih =>
      rw [setupBits, List.foldl_cons, ← setupBits, ih, List.mem_cons]
      split
      next outOfRange =>
        have apart : other < 65536 → (other : Int) ≠ port := by omega
        grind
      next inRange =>
        have same : other = port.toNat ↔ (other : Int) = port := by omega
        have small : (other : Int) = port → other < 65536 := by omega
        rw [hasPort_set, same]
        grind

/-! ## Two pools -/

section Pools

variable {ports : List Int}

/-- The ports the bitmap holds, in the order of their indices. -/
def SharedPortsIf.available (shpif : SharedPortsIf) : List Int :=
  (freePorts shpif.availBits).map fun port : Nat => (port : Int)

/-- The ports the array holds, in the order of their indices. -/
def PortArray.available (array : PortArray) : List Int :=
  array.availPorts.take (array.availTotal - array.inuse)

theorem mem_available {shpif : SharedPortsIf} {port : Int} :
    port ∈ shpif.available ↔ 0 ≤ port ∧ port.toNat ∈ freePorts shpif.availBits := by
  rw [SharedPortsIf.available, List.mem_map]
  constructor
  · rintro ⟨free, member, rfl⟩
    exact ⟨Int.natCast_nonneg free, member⟩
  · rintro ⟨positive, member⟩
    exact ⟨port.toNat, member, Int.toNat_of_nonneg positive⟩

theorem nodup_available (shpif : SharedPortsIf) : shpif.available.Nodup :=
  (nodup_freePorts _).map fun _ _ same => Int.ofNat.inj same

theorem available_setup (distinct : ports.Nodup)
    (inRange : ∀ port ∈ ports, 0 ≤ port ∧ port ≤ 65535) (total inuse : Nat) :
    (SharedPortsIf.available ⟨setupBits ports fun _ => 0, total, inuse⟩).Perm ports := by
  rw [List.perm_ext_iff_of_nodup (nodup_available _) distinct]
  intro port
  have empty : hasPort (fun _ => 0) port.toNat = false := by simp [hasPort, hasBit]
  rw [mem_available, mem_freePorts, hasPort_setupBits, empty]
  constructor
  · rintro ⟨positive, -, clear | ⟨member, -⟩⟩
    · exact absurd clear Bool.false_ne_true
    · rwa [Int.toNat_of_nonneg positive] at member
  · intro member
    obtain ⟨positive, small⟩ := inRange port member
    rw [Int.toNat_of_nonneg positive]
    exact ⟨positive, by omega, .inr ⟨member, by omega⟩⟩

theorem portFetch_eq (shpif : SharedPortsIf) (index : Nat) :
    portFetch shpif index = ((freePorts shpif.availBits)[index]?).map fun port : Nat =>
      ((port : Int), { shpif with
        availBits := clearBit shpif.availBits (port / 8) (port % 8)
        inuse := shpif.inuse + 1 }) := by
  rw [portFetch, sharedPortsTakeAvail_eq]
  cases (freePorts shpif.availBits)[index]? <;> rfl

/-- A fetch with an index takes the port that has it. -/
theorem portFetch_available {shpif : SharedPortsIf} {index : Nat}
    (inside : index < shpif.available.length) :
    ∃ next, portFetch shpif index = some (shpif.available[index], next) ∧
      next.available = shpif.available.erase shpif.available[index] ∧
      next.availTotal = shpif.availTotal ∧ next.inuse = shpif.inuse + 1 := by
  have below : index < (freePorts shpif.availBits).length := by
    rwa [SharedPortsIf.available, List.length_map] at inside
  have found : shpif.available[index]? =
      ((freePorts shpif.availBits)[index]?).map fun port : Nat => (port : Int) := List.getElem?_map
  rw [List.getElem?_eq_getElem inside, List.getElem?_eq_getElem below, Option.map_some,
    Option.some.injEq] at found
  rw [portFetch_eq, List.getElem?_eq_getElem below, Option.map_some, found]
  refine ⟨_, rfl, ?_, rfl, rfl⟩
  rw [SharedPortsIf.available, freePorts_clear]
  exact List.map_erase (fun _ _ same => Int.ofNat.inj same) _

theorem portReturn_perm {shpif : SharedPortsIf} {port : Int} (inRange : 0 ≤ port ∧ port ≤ 65535)
    (absent : port ∉ shpif.available) :
    (portReturn shpif port).available.Perm (port :: shpif.available) := by
  rw [mem_available, not_and] at absent
  have more := freePorts_set (by omega) (absent inRange.1)
  have mapped := more.map fun port : Nat => (port : Int)
  rwa [List.map_cons, Int.toNat_of_nonneg inRange.1] at mapped

/-- The bitmap is a pool of the ports it was set up with. -/
def bitmapPool (distinct : ports.Nodup) (inRange : ∀ port ∈ ports, 0 ≤ port ∧ port ≤ 65535) :
    Pool SharedPortsIf ports where
  valid shpif := shpif.availTotal = ports.length ∧
    shpif.available.length + shpif.inuse = shpif.availTotal
  initial := ⟨setupBits ports fun _ => 0, ports.length, 0⟩
  available := SharedPortsIf.available
  count shpif := shpif.availTotal - shpif.inuse
  take := portFetch
  put := portReturn
  full := by
    have everything := available_setup distinct inRange ports.length 0
    exact ⟨⟨rfl, (Nat.add_zero _).trans everything.length_eq⟩, everything⟩
  counted := by
    rintro shpif ⟨-, counted⟩
    exact Nat.sub_eq_of_eq_add counted.symm
  taken := by
    rintro shpif index ⟨total, counted⟩ inside
    obtain ⟨next, fetched, rest, sameTotal, used⟩ := portFetch_available inside
    refine ⟨next, fetched, ⟨by omega, ?_⟩, by rw [rest]⟩
    rw [rest, List.length_erase_of_mem (List.getElem_mem inside)]
    omega
  returned := by
    rintro shpif port ⟨total, counted⟩ known absent fewer
    have more := portReturn_perm (inRange port known) absent
    refine ⟨⟨total, ?_⟩, more⟩
    rw [more.length_eq, List.length_cons]
    simp only [portReturn]
    omega

theorem giveBack_available {array : PortArray} (port : Int)
    (sized : array.availPorts.length = array.availTotal) (used : 0 < array.inuse)
    (counted : array.inuse ≤ array.availTotal) :
    (array.giveBack port).available = array.available ++ [port] := by
  have free : array.availTotal - (array.inuse - 1) = array.availTotal - array.inuse + 1 := by omega
  have inside : array.availTotal - array.inuse <
      (array.availPorts.set (array.availTotal - array.inuse) port).length := by
    rw [List.length_set]
    omega
  simp only [PortArray.giveBack, PortArray.available, free]
  rw [List.take_succ_eq_append_getElem inside, List.getElem_set_self, List.take_set_of_le le_rfl]

theorem fetch_available {array : PortArray} {index : Nat}
    (sized : array.availPorts.length = array.availTotal)
    (inside : index < array.available.length) :
    ∃ next, array.fetch index = some (array.available[index], next) ∧
      next.available.Perm (array.available.eraseIdx index) ∧
      next.availPorts.length = array.availPorts.length ∧
      next.availTotal = array.availTotal ∧ next.inuse = array.inuse + 1 := by
  obtain ⟨free, total⟩ : ∃ free, array.availTotal - array.inuse = free + 1 := by
    rw [PortArray.available, List.length_take] at inside
    exact Nat.exists_eq_add_one.mpr (by omega)
  simp only [PortArray.available, total, List.length_take] at inside
  have below : index < array.availPorts.length := by omega
  have last : free < array.availPorts.length := by omega
  rw [PortArray.fetch, total, Nat.add_sub_cancel, List.getElem?_eq_getElem below,
    List.getElem?_eq_getElem last]
  simp only [PortArray.available, total, List.getElem_take]
  refine ⟨_, rfl, ?_, List.length_set, rfl, rfl⟩
  have fewer : array.availTotal - (array.inuse + 1) = free := by omega
  rw [fewer, List.take_succ_eq_append_getElem last]
  have size : (array.availPorts.take free).length = free := by
    rw [List.length_take]
    omega
  rcases Nat.lt_or_ge index free with before | atLast
  · rw [List.take_set, List.eraseIdx_append_of_lt_length (by omega)]
    exact (List.set_perm_cons_eraseIdx (by omega) _).trans (List.perm_append_singleton _ _).symm
  · rw [List.take_set_of_le atLast, List.eraseIdx_append_of_length_le (by omega), size,
      show index - free = 0 by omega, List.eraseIdx_cons_zero, List.append_nil]

/-- The array is a pool of the ports it was set up with. -/
def arrayPool (distinct : ports.Nodup) : Pool PortArray ports where
  valid array := array.availTotal = ports.length ∧ array.availPorts.length = array.availTotal ∧
    array.inuse ≤ array.availTotal ∧ array.available.Nodup
  initial := .setup ports
  available := PortArray.available
  count array := array.availTotal - array.inuse
  take := PortArray.fetch
  put := PortArray.giveBack
  full := by
    have everything : (PortArray.setup ports).available = ports := List.take_length
    rw [everything]
    exact ⟨⟨rfl, rfl, Nat.zero_le _, distinct⟩, .refl ports⟩
  counted := by
    rintro array ⟨total, sized, counted, -⟩
    rw [PortArray.available, List.length_take]
    omega
  taken := by
    rintro array index ⟨total, sized, counted, apart⟩ inside
    obtain ⟨next, fetched, rest, sameSize, sameTotal, used⟩ := fetch_available sized inside
    rw [apart.erase_getElem]
    refine ⟨next, fetched, ⟨by omega, by omega, ?_, ?_⟩, rest⟩
    · rw [PortArray.available, List.length_take] at inside
      omega
    · exact rest.nodup_iff.mpr (apart.eraseIdx index)
  returned := by
    rintro array port ⟨total, sized, counted, apart⟩ - absent fewer
    have used : 0 < array.inuse := by
      rw [PortArray.available, List.length_take] at fewer
      omega
    have more := giveBack_available port sized used counted
    rw [more]
    refine ⟨⟨total, ?_, ?_, ?_⟩, List.perm_append_singleton _ _⟩
    · rw [PortArray.giveBack, List.length_set, sized]
    · exact Nat.le_trans (Nat.sub_le _ _) counted
    · exact (List.perm_append_singleton _ _).nodup_iff.mpr (List.nodup_cons.mpr ⟨absent, apart⟩)

/-- What the bitmap keeps to, with the ports that are in use after the fetches and returns of a
run. -/
structure BitmapKept (ports : List Int) (shpif : SharedPortsIf) (log : List (PoolEvent Int)) :
    Prop where
  /-- As many bits are set as ports are free. -/
  counted : (freePorts shpif.availBits).length + shpif.inuse = shpif.availTotal
  /-- The bits that are set are the ports not in use. -/
  free : ∀ port : Nat, port < 65536 →
    (hasPort shpif.availBits port = true ↔ (port : Int) ∈ ports ∧ (port : Int) ∉ outside log)
  /-- An index takes the port with that number among the set bits and clears its bit, no other. -/
  taken : ∀ num < shpif.availTotal - shpif.inuse, ∃ port rest,
    (freePorts shpif.availBits)[num]? = some port ∧
      sharedPortsTakeAvail shpif.availBits num = some (port, rest) ∧
      ∀ other, hasPort rest other = true ↔ hasPort shpif.availBits other = true ∧ other ≠ port

theorem bitmapKept_of_kept {distinct : ports.Nodup}
    {inRange : ∀ port ∈ ports, 0 ≤ port ∧ port ≤ 65535} {shpif : SharedPortsIf}
    {log : List (PoolEvent Int)} (kept : (bitmapPool distinct inRange).Kept shpif log) :
    BitmapKept ports shpif log := by
  have counted : (freePorts shpif.availBits).length + shpif.inuse = shpif.availTotal := by
    have length := kept.valid.2
    rwa [SharedPortsIf.available, List.length_map] at length
  refine ⟨counted, ?_, ?_⟩
  · intro port small
    have held : (port : Int) ∈ shpif.available ↔ hasPort shpif.availBits port = true := by
      rw [mem_available, mem_freePorts, Int.toNat_natCast]
      exact ⟨fun held => held.2.2, fun held => ⟨Int.natCast_nonneg port, small, held⟩⟩
    exact held.symm.trans (kept.mem_available distinct)
  · intro num below
    have inside : num < (freePorts shpif.availBits).length := by omega
    have found := List.getElem?_eq_getElem inside
    refine ⟨_, _, found, by rw [sharedPortsTakeAvail_eq, found, Option.map_some], ?_⟩
    intro other
    rw [hasPort_clear _ (Nat.mod_lt _ (by decide)), Nat.div_add_mod']

/-- Over every run of fetches and returns the bitmap keeps to the free ports: it starts as the
setup leaves it, no port is fetched twice without a return between, the indices stand for the
free ports one each, and the array it replaces can do the same and has one index each as well. -/
theorem bitmap_refines_array (distinct : ports.Nodup)
    (inRange : ∀ port ∈ ports, 0 ≤ port ∧ port ≤ 65535) :
    sharedPortsSetupIf true ports = some (bitmapPool distinct inRange).initial ∧
      ∀ shpif log, (bitmapPool distinct inRange).Reached shpif log →
        BitmapKept ports shpif log ∧ ReturnedBetween log ∧
        Selects (portFetch shpif) (shpif.availTotal - shpif.inuse)
          (fun port => port ∈ ports ∧ port ∉ outside log) ∧
        ∃ array, (arrayPool distinct).Reached array log ∧
          array.availTotal - array.inuse = shpif.availTotal - shpif.inuse ∧
          Selects array.fetch (array.availTotal - array.inuse)
            (fun port => port ∈ ports ∧ port ∉ outside log) := by
  refine ⟨rfl, ?_⟩
  intro shpif log reached
  have kept := Pool.kept_of_reached distinct reached
  obtain ⟨array, arrayReached⟩ := Pool.exists_reached distinct (arrayPool distinct) reached
  have arrayKept := Pool.kept_of_reached distinct arrayReached
  have same : (arrayPool distinct).count array = (bitmapPool distinct inRange).count shpif := by
    have first := kept.count
    have second := arrayKept.count
    omega
  exact ⟨bitmapKept_of_kept kept, Pool.returnedBetween_of_reached distinct reached,
    kept.selects distinct, array, arrayReached, same, arrayKept.selects distinct⟩

theorem bitmap_refines_array_fetched :
    ∃ shpif, (@bitmapPool [9, 3, 10] (by decide) (by decide)).Reached shpif [.taken 9] ∧
      BitmapKept [9, 3, 10] shpif [.taken 9] ∧
      Selects (portFetch shpif) (shpif.availTotal - shpif.inuse)
        fun port => port ∈ ([9, 3, 10] : List Int) ∧ port ∉ outside [.taken 9] := by
  have distinct : ([9, 3, 10] : List Int).Nodup := by decide
  have kept := Pool.Kept.initial (@bitmapPool [9, 3, 10] distinct (by decide))
  have inside := (kept.mem_available distinct).mpr (show (9 : Int) ∈ _ ∧ 9 ∉ outside [] by decide)
  obtain ⟨shpif, reached⟩ := Pool.Reached.take distinct (Machine.Reaches.refl _) inside
  obtain ⟨kept, -, selects, -⟩ := (bitmap_refines_array distinct (by decide)).2 shpif _ reached
  exact ⟨shpif, reached, kept, selects⟩

end Pools

end UnboundWasm.Guest
