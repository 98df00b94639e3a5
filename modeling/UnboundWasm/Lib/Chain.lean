import Mathlib.Data.Finset.Card
import Mathlib.Data.Finset.Range

/-!
# Following links

Links are a partial function: where it is undefined, a chain ends.  A bounded walk
follows at most so many links.  When every link is read off one of finitely many
entries, and the entry alone says where the link leads, a chain that ends has no more
links than there are entries, since using an entry twice would repeat the chain.
-/

namespace UnboundWasm.Lib.Chain

universe u

variable {α : Type u} (next : α → Option α)

/-- What stands a number of links further on, if the chain is that long. -/
def ahead : Nat → α → Option α
  | 0, start => some start
  | links + 1, start => (next start).bind (ahead links)

/-- Follow at most a number of links. -/
def follow : Nat → α → α
  | 0, start => start
  | links + 1, start =>
      match next start with
      | none => start
      | some further => follow links further

/-- A chain ends. -/
inductive Ends : α → α → Prop where
  | stop {final : α} (last : next final = none) : Ends final final
  | link {start further final : α} (leads : next start = some further)
      (rest : Ends further final) : Ends start final

/-- A chain never ends. -/
def Endless (start : α) : Prop := ∀ links, (ahead next links start).isSome = true

variable {next} {start further final : α} {links more : Nat}

theorem ahead_add (links more : Nat) (start : α) :
    ahead next (links + more) start = (ahead next links start).bind (ahead next more) := by
  induction links generalizing start with
  | zero => rw [Nat.zero_add, ahead, Option.bind_some]
  | succ links ih =>
      rw [Nat.succ_add, ahead, ahead, Option.bind_assoc]
      congr 1
      funext further
      exact ih further

theorem ahead_of_end (last : next final = none) (links : Nat) :
    ahead next (links + 1) final = none := by
  rw [ahead, last, Option.bind_none]

/-- A walk of exactly the given number of links. -/
theorem follow_of_ahead (reached : ahead next links start = some further) :
    follow next links start = further := by
  induction links generalizing start with
  | zero => exact Option.some.inj reached
  | succ links ih =>
      rw [ahead, Option.bind_eq_some_iff] at reached
      obtain ⟨second, leads, rest⟩ := reached
      simp only [follow, leads]
      exact ih rest

theorem follow_of_end (last : next final = none) (links : Nat) :
    follow next links final = final := by
  cases links with
  | zero => rfl
  | succ links => simp only [follow, last]

/-- A walk with links to spare stops at the end. -/
theorem follow_of_le (enough : links ≤ more) (reached : ahead next links start = some final)
    (last : next final = none) : follow next more start = final := by
  induction links generalizing start more with
  | zero =>
      cases reached
      exact follow_of_end last more
  | succ links ih =>
      rw [ahead, Option.bind_eq_some_iff] at reached
      obtain ⟨second, leads, rest⟩ := reached
      obtain ⟨more, rfl⟩ : ∃ less, more = less + 1 := ⟨more - 1, by omega⟩
      simp only [follow, leads]
      exact ih (Nat.le_of_succ_le_succ enough) rest

theorem exists_ahead_of_ends (ends : Ends next start final) :
    next final = none ∧ ∃ links, ahead next links start = some final := by
  induction ends with
  | stop last => exact ⟨last, 0, rfl⟩
  | link leads _ ih =>
      obtain ⟨last, links, reached⟩ := ih
      refine ⟨last, links + 1, ?_⟩
      rw [ahead, leads, Option.bind_some, reached]

theorem ends_of_ahead (reached : ahead next links start = some final) (last : next final = none) :
    Ends next start final := by
  induction links generalizing start with
  | zero =>
      cases reached
      exact .stop last
  | succ links ih =>
      rw [ahead, Option.bind_eq_some_iff] at reached
      obtain ⟨second, leads, rest⟩ := reached
      exact .link leads (ih rest)

/-- A chain ends, or it goes on for as long as one likes. -/
theorem endless_of_not_ends (unended : ∀ final, ¬ Ends next start final) : Endless next start := by
  intro links
  induction links with
  | zero => rfl
  | succ links ih =>
      obtain ⟨here, reached⟩ := Option.isSome_iff_exists.mp ih
      rw [ahead_add, reached, Option.bind_some, ahead, Option.isSome_bind]
      cases leads : next here with
      | none => exact absurd (ends_of_ahead reached leads) (unended here)
      | some further => rfl

/-- Links that lead the same way along a chain make the same chain. -/
theorem ahead_congr {other : α → Option α}
    (same : ∀ links here, ahead next links start = some here → other here = next here)
    (links : Nat) : ahead other links start = ahead next links start := by
  induction links generalizing start with
  | zero => rfl
  | succ links ih =>
      rw [ahead, ahead, same 0 start rfl]
      cases leads : next start with
      | none => rfl
      | some further =>
          apply ih
          intro more here reached
          apply same (more + 1)
          rw [ahead, leads, Option.bind_some, reached]

/-- A chain has one length. -/
theorem length_unique {other : α} (reached : ahead next links start = some final)
    (last : next final = none) (also : ahead next more start = some other)
    (lastAlso : next other = none) : links = more := by
  have shorter : ∀ {few many : Nat} {here there : α}, ahead next few start = some here →
      next here = none → ahead next many start = some there → ¬ few < many := by
    intro few many here there short ended long less
    obtain ⟨rest, rfl⟩ : ∃ rest, many = few + (rest + 1) := ⟨many - few - 1, by omega⟩
    rw [ahead_add, short, Option.bind_some, ahead_of_end ended] at long
    cases long
  have first := shorter reached last also
  have second := shorter also lastAlso reached
  omega

/-- A chain that ends uses no entry twice, so it is no longer than their number. -/
theorem length_le_of_ends (entry : α → Nat) {entries : Nat}
    (read : ∀ start further, next start = some further → entry start < entries)
    (determined : ∀ start further other another, next start = some further →
      next other = some another → entry start = entry other → further = another)
    (ends : Ends next start final) :
    ∃ links ≤ entries, ahead next links start = some final ∧ next final = none := by
  obtain ⟨last, links, reached⟩ := exists_ahead_of_ends ends
  refine ⟨links, ?_, reached, last⟩
  by_contra long
  -- What stands before each link, and the entry the link is read off.
  have inside : ∀ i < links, ∃ here further, ahead next i start = some here ∧
      next here = some further ∧ ahead next (links - (i + 1)) further = some final := by
    intro i less
    have whole := reached
    rw [show links = i + ((links - (i + 1)) + 1) by omega, ahead_add,
      Option.bind_eq_some_iff] at whole
    obtain ⟨here, upTo, onward⟩ := whole
    rw [ahead, Option.bind_eq_some_iff] at onward
    obtain ⟨further, leads, rest⟩ := onward
    exact ⟨here, further, upTo, leads, rest⟩
  have nonempty : Nonempty α := ⟨start⟩
  choose! here further _ leads rest using inside
  have repeated : ∃ i ∈ Finset.range links, ∃ j ∈ Finset.range links, i ≠ j ∧
      entry (here i) = entry (here j) := by
    apply Finset.exists_ne_map_eq_of_card_lt_of_maps_to (t := Finset.range entries)
    · rw [Finset.card_range, Finset.card_range]
      omega
    · intro i member
      rw [Finset.mem_coe, Finset.mem_range] at member
      rw [Finset.mem_coe, Finset.mem_range]
      exact read _ _ (leads i member)
  obtain ⟨i, hi, j, hj, different, same⟩ := repeated
  rw [Finset.mem_range] at hi hj
  have meet := determined _ _ _ _ (leads i hi) (leads j hj) same
  have fromI := rest i hi
  rw [meet] at fromI
  have equal := length_unique fromI last (rest j hj) last
  omega

/-- A bounded walk reaches the end of a chain. -/
theorem follow_of_ends (entry : α → Nat) {entries : Nat}
    (read : ∀ start further, next start = some further → entry start < entries)
    (determined : ∀ start further other another, next start = some further →
      next other = some another → entry start = entry other → further = another)
    (ends : Ends next start final) : follow next entries start = final := by
  obtain ⟨links, short, reached, last⟩ := length_le_of_ends entry read determined ends
  exact follow_of_le short reached last

end UnboundWasm.Lib.Chain
