import UnboundWasm.Lib.Netip

/-!
# The egress policy

`deniedNetworks`, `globalUnicastV6` and `egressAllowed` of `sockets.go`, the
policy stated as a property of destinations, and its agreement with the list the
guest is configured with in `module.go`.
-/

namespace UnboundWasm.Host

open UnboundWasm.Lib

/-- `deniedNetworks`, in source order. -/
def deniedNetworks : List Prefix :=
  [.v4 (ip4 0 0 0 0) 8,
   .v4 (ip4 10 0 0 0) 8,
   .v4 (ip4 100 64 0 0) 10,
   .v4 (ip4 127 0 0 0) 8,
   .v4 (ip4 169 254 0 0) 16,
   .v4 (ip4 172 16 0 0) 12,
   .v4 (ip4 192 0 0 0) 24,
   .v4 (ip4 192 0 2 0) 24,
   .v4 (ip4 192 88 99 0) 24,
   .v4 (ip4 192 168 0 0) 16,
   .v4 (ip4 198 18 0 0) 15,
   .v4 (ip4 198 51 100 0) 24,
   .v4 (ip4 203 0 113 0) 24,
   .v4 (ip4 224 0 0 0) 4,
   .v4 (ip4 240 0 0 0) 4,
   .v6 (ip6 [0]) 128,
   .v6 (ip6 [0, 0, 0, 0, 0, 0, 0, 1]) 128,
   .v6 (ip6 [0x64, 0xff9b]) 96,
   .v6 (ip6 [0x64, 0xff9b, 1]) 48,
   .v6 (ip6 [0x100]) 64,
   .v6 (ip6 [0x2001]) 23,
   .v6 (ip6 [0x2001, 0xdb8]) 32,
   .v6 (ip6 [0x2002]) 16,
   .v6 (ip6 [0x3fff]) 20,
   .v6 (ip6 [0x5f00]) 16,
   .v6 (ip6 [0xfc00]) 7,
   .v6 (ip6 [0xfe80]) 10,
   .v6 (ip6 [0xff00]) 8]

/-- `globalUnicastV6`, the range `2000::/3`. -/
def globalUnicastV6 : Prefix := .v6 (ip6 [0x2000]) 3

/-- `egressAllowed`. -/
def egressAllowed (remote : AddrPort) : Bool :=
  if remote.port ≠ 53 then
    false
  else
    let ip := remote.addr.unmap
    if !ip.isValid then
      false
    else if ip.is6 && !globalUnicastV6.contains ip then
      false
    else
      !deniedNetworks.any fun network => network.contains ip

/-- A DNS server the policy lets the guest talk to: port 53 of an IPv4 address
outside the denied networks, or of an IPv6 address inside `2000::/3` and outside
them, IPv4-mapped addresses counting as the IPv4 address they hold. -/
def PublicServer (remote : AddrPort) : Prop :=
  remote.port = 53 ∧
    (∀ network ∈ deniedNetworks, network.contains remote.addr.unmap = false) ∧
    (remote.addr.unmap.is4 = true ∨
      remote.addr.unmap.is6 = true ∧ globalUnicastV6.contains remote.addr.unmap = true)

/-- `egressAllowed` decides the policy. -/
theorem egressAllowed_eq_true (remote : AddrPort) :
    egressAllowed remote = true ↔ PublicServer remote := by
  simp only [egressAllowed, PublicServer]
  by_cases port : remote.port = 53
  · cases ip : remote.addr.unmap <;>
      simp [port, Addr.isValid, Addr.is4, Addr.is6, and_comm]
  · simp [port]

example : egressAllowed ⟨.v4 (ip4 8 8 8 8), 53⟩ = true := by decide

example : egressAllowed ⟨.v6 (ip6 [0, 0, 0, 0, 0, 0xffff, 0x0a00, 1]) "", 53⟩ = false := by
  decide

/-! ## The guest's own list -/

/-- The `do-not-query-address` lines of `defaultCanonicalConfig`, in source order. -/
def doNotQueryAddress : List Prefix :=
  [.v4 (ip4 192 168 0 0) 16,
   .v4 (ip4 172 16 0 0) 12,
   .v4 (ip4 10 0 0 0) 8,
   .v4 (ip4 127 0 0 0) 8,
   .v4 (ip4 0 0 0 0) 8,
   .v4 (ip4 169 254 0 0) 16,
   .v4 (ip4 192 0 0 0) 24,
   .v4 (ip4 192 0 2 0) 24,
   .v4 (ip4 198 51 100 0) 24,
   .v4 (ip4 203 0 113 0) 24,
   .v4 (ip4 192 88 99 0) 24,
   .v4 (ip4 198 18 0 0) 15,
   .v4 (ip4 224 0 0 0) 4,
   .v4 (ip4 240 0 0 0) 4,
   .v4 (ip4 255 255 255 255) 32,
   .v4 (ip4 100 64 0 0) 10,
   .v6 (ip6 [0]) 128,
   .v6 (ip6 [0, 0, 0, 0, 0, 0, 0, 1]) 128,
   .v6 (ip6 [0, 0, 0, 0, 0, 0xffff]) 96,
   .v6 (ip6 [0x100]) 64,
   .v6 (ip6 [0x2001]) 23,
   .v6 (ip6 [0x2001, 0xdb8]) 32,
   .v6 (ip6 [0xfc00]) 7,
   .v6 (ip6 [0xfe80]) 10,
   .v6 (ip6 [0xff00]) 8,
   .v6 (ip6 [0x64, 0xff9b]) 96,
   .v6 (ip6 [0x64, 0xff9b, 1]) 48,
   .v6 (ip6 [0x2002]) 16,
   .v6 (ip6 [0x3fff]) 20,
   .v6 (ip6 [0x5f00]) 16,
   .v6 (ip6 [0xfec0]) 10,
   .v6 (ip6 [0]) 96]

/-- An address the guest never picks as a server. -/
def DoNotQuery (addr : Addr) : Prop :=
  ∃ network ∈ doNotQueryAddress, network.contains addr = true

/-- Every prefix of the guest's list lies inside a denied network or, having no
address in `2000::/3`, outside the IPv6 space the policy admits. -/
theorem denied_or_outside :
    ∀ inner ∈ doNotQueryAddress, (∃ outer ∈ deniedNetworks, outer.covers inner = true) ∨
      inner.is6 = true ∧ inner.meets globalUnicastV6 = false := by
  decide

/-- Every denied network lies inside a prefix of the guest's list. -/
theorem listed_of_denied :
    ∀ inner ∈ deniedNetworks, ∃ outer ∈ doNotQueryAddress, outer.covers inner = true := by
  decide

/-- No mapped address is global unicast. -/
theorem unmap_of_global {addr : Addr} (inside : globalUnicastV6.contains addr = true) :
    addr.unmap = addr := by
  cases addr with
  | invalid | v4 => rfl
  | v6 bits zone =>
      have unzoned : zone = "" := by
        simp only [globalUnicastV6, Prefix.contains, Bool.and_eq_true, beq_iff_eq] at inside
        exact inside.1
      subst unzoned
      cases is4In6 : (Addr.v6 bits "").is4In6 with
      | false => simp [Addr.unmap, is4In6]
      | true =>
          have meets := Prefix.meets_of_contains (mapped_contains is4In6) inside
          exact absurd meets (by decide)

theorem egressAllowed_eq_false {addr : Addr} (valid : addr.isValid = true)
    (unmapped : addr.unmap = addr) : egressAllowed ⟨addr, 53⟩ = false ↔
      (∃ network ∈ deniedNetworks, network.contains addr = true) ∨
        addr.is6 = true ∧ globalUnicastV6.contains addr = false := by
  rw [Bool.eq_false_iff, ne_eq, egressAllowed_eq_true, PublicServer, unmapped]
  cases addr with
  | invalid => cases valid
  | v4 bits => simp [Addr.is4, Addr.is6]
  | v6 bits zone => simp [Addr.is4, Addr.is6, or_iff_not_imp_left]

/-- What the guest's list excludes, the host refuses. -/
theorem refused_of_doNotQuery {addr : Addr} (valid : addr.isValid = true)
    (unmapped : addr.unmap = addr) (excluded : DoNotQuery addr) :
    egressAllowed ⟨addr, 53⟩ = false := by
  obtain ⟨inner, member, inside⟩ := excluded
  rw [egressAllowed_eq_false valid unmapped]
  rcases denied_or_outside inner member with ⟨outer, denied, covers⟩ | ⟨is6, apart⟩
  · left
    exact ⟨outer, denied, Prefix.contains_of_covers covers inside⟩
  · right
    refine ⟨(Prefix.is6_of_contains inside).symm.trans is6, ?_⟩
    cases global : globalUnicastV6.contains addr with
    | false => rfl
    | true =>
        rw [Prefix.meets_of_contains inside global] at apart
        cases apart

/-- What the host refuses within public space, the guest's list excludes. -/
theorem doNotQuery_of_refused {addr : Addr} (valid : addr.isValid = true)
    (unmapped : addr.unmap = addr)
    (pub : addr.is6 = true → globalUnicastV6.contains addr = true)
    (refused : egressAllowed ⟨addr, 53⟩ = false) : DoNotQuery addr := by
  rw [egressAllowed_eq_false valid unmapped] at refused
  rcases refused with ⟨inner, denied, inside⟩ | ⟨is6, outside⟩
  · obtain ⟨outer, member, covers⟩ := listed_of_denied inner denied
    exact ⟨outer, member, Prefix.contains_of_covers covers inside⟩
  · rw [pub is6] at outside
    cases outside

/-- The guest's list and the host's policy agree: on every address the list
excludes, IPv4-mapped ones apart, and on every public address the policy refuses. -/
theorem egress_policies_agree (addr : Addr) :
    (addr.is4 = true ∨ addr.is6 = true ∧ addr.is4In6 = false →
      DoNotQuery addr → egressAllowed ⟨addr, 53⟩ = false) ∧
    (addr.is4 = true ∨ addr.is6 = true ∧ (Prefix.v6 (ip6 [0x2000]) 3).contains addr = true →
      egressAllowed ⟨addr, 53⟩ = false → DoNotQuery addr) := by
  constructor
  · intro family
    cases addr with
    | invalid => simp [Addr.is4, Addr.is6] at family
    | v4 bits => exact refused_of_doNotQuery rfl rfl
    | v6 bits zone =>
        have unmapped : (Addr.v6 bits zone).is4In6 = false := by
          simpa [Addr.is4, Addr.is6] using family
        exact refused_of_doNotQuery rfl (by simp [Addr.unmap, unmapped])
  · intro family
    cases addr with
    | invalid => simp [Addr.is4, Addr.is6] at family
    | v4 bits => exact doNotQuery_of_refused rfl rfl (by simp [Addr.is6])
    | v6 bits zone =>
        have global : globalUnicastV6.contains (.v6 bits zone) = true := by
          simpa [Addr.is4, Addr.is6, globalUnicastV6] using family
        exact doNotQuery_of_refused rfl (unmap_of_global global) fun _ => global

/-- A private address is refused by the one and excluded by the other. -/
theorem egress_policies_agree_private :
    egressAllowed ⟨.v4 (ip4 10 0 0 1), 53⟩ = false ∧ DoNotQuery (.v4 (ip4 10 0 0 1)) := by
  have listed : DoNotQuery (.v4 (ip4 10 0 0 1)) :=
    ⟨.v4 (ip4 10 0 0 0) 8, by decide, by decide⟩
  have refused := (egress_policies_agree (.v4 (ip4 10 0 0 1))).1 (.inl rfl) listed
  exact ⟨refused, (egress_policies_agree (.v4 (ip4 10 0 0 1))).2 (.inl rfl) refused⟩

end UnboundWasm.Host
