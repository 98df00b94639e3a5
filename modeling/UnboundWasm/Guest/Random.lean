import Mathlib.Data.Int.CardIntervalMod

/-!
# Random numbers of the guest

`random.c`: the entropy import hands out 32-bit words, `ub_random` keeps 31 bits of one, and
`ub_random_max` draws until the value is below a multiple of its bound.
-/

namespace UnboundWasm.Guest

/-- `ub_random`, for the word that `uw_entropy` stored. -/
def ubRandom (word : UInt32) : UInt32 :=
  word &&& 0x7fffffff

/-- The `limit` of `ub_random_max`. -/
def randomLimit (bound : UInt32) : UInt32 :=
  0x80000000 - (0x80000000 % bound)

/-- The loop of `ub_random_max` over the words of `uw_entropy`. There is no value when the
words run out before one is accepted. -/
def drawBelow (limit : UInt32) : List UInt32 → Option UInt32
  | [] => none
  | word :: words =>
      let value := ubRandom word
      if value ≥ limit then drawBelow limit words else some value

/-- `ub_random_max`, with a `long int` of 32 bits. -/
def ubRandomMax (upper : Int) (words : List UInt32) : Option Int :=
  if upper ≤ 1 then some 0
  else
    let bound := UInt32.ofInt upper
    (drawBelow (randomLimit bound) words).map fun value => (value % bound).toNat

/-- The draws, as numbers, that `ub_random_max` accepts. -/
def accepted (bound : UInt32) : Finset Nat :=
  (Finset.range (2 ^ 31)).filter fun draw => draw < (randomLimit bound).toNat

/-! ## Draws -/

theorem toNat_ubRandom (word : UInt32) : (ubRandom word).toNat = word.toNat % 2 ^ 31 := by
  rw [ubRandom, UInt32.toNat_and]
  exact Nat.and_two_pow_sub_one_eq_mod word.toNat 31

/-- The loop takes the first draw that is accepted. -/
theorem drawBelow_eq (limit : UInt32) (words : List UInt32) :
    drawBelow limit words = (words.find? fun word => ubRandom word < limit).map ubRandom := by
  induction words with
  | nil => rfl
  | cons word words ih =>
      rw [drawBelow, List.find?_cons]
      by_cases small : ubRandom word < limit
      · simp [small, UInt32.not_le.mpr small]
      · simp [small, UInt32.not_lt.mp small, ih]

/-- A residue has one number in every block of its modulus. -/
theorem card_residue {modulus total value : Nat} (divides : modulus ∣ total)
    (small : value < modulus) :
    ((Finset.range total).filter fun draw => draw % modulus = value).card = total / modulus := by
  have counted := Nat.count_modEq_card total (Nat.zero_lt_of_lt small) value
  rw [Nat.mod_eq_zero_of_dvd divides, if_neg (Nat.not_lt_zero _), Nat.add_zero,
    Nat.count_eq_card_filter_range] at counted
  rw [← counted]
  congr 1
  apply Finset.filter_congr
  intro draw _
  rw [Nat.ModEq, Nat.mod_eq_of_lt small]

/-! ## The limit -/

section Bound

variable {upper : Int} (low : 2 ≤ upper) (high : upper ≤ 2 ^ 31 - 1)

include low high

theorem toNat_bound : (UInt32.ofInt upper).toNat = upper.toNat := by
  rw [UInt32.ofInt, Int.emod_eq_of_lt (by omega) (by omega)]
  exact UInt32.toNat_ofNat_of_lt (by simp; omega)

theorem toNat_randomLimit :
    (randomLimit (.ofInt upper)).toNat = 2 ^ 31 - 2 ^ 31 % upper.toNat := by
  have smaller : (0x80000000 % UInt32.ofInt upper).toNat = 2 ^ 31 % upper.toNat := by
    rw [UInt32.toNat_mod, toNat_bound low high]
    rfl
  rw [randomLimit, UInt32.toNat_sub_of_le, smaller]
  · rfl
  · rw [UInt32.le_iff_toNat_le, smaller]
    exact Nat.mod_le _ _

/-- A bound above 2^30 goes once into 2^31, and a smaller one leaves a smaller rest. -/
theorem half_lt_randomLimit : 2 ^ 30 < (randomLimit (.ofInt upper)).toNat := by
  rw [toNat_randomLimit low high]
  have rest := Nat.mod_lt (2 ^ 31) (show 0 < upper.toNat by omega)
  by_cases large : 2 ^ 30 < upper.toNat
  · have once : 2 ^ 31 % upper.toNat = 2 ^ 31 - upper.toNat := by
      rw [Nat.mod_eq_sub_mod (by omega), Nat.mod_eq_of_lt (by omega)]
    omega
  · omega

theorem dvd_randomLimit : upper.toNat ∣ (randomLimit (.ofInt upper)).toNat := by
  rw [toNat_randomLimit low high]
  exact Nat.dvd_sub_mod _

theorem accepted_eq :
    accepted (.ofInt upper) = Finset.range (randomLimit (.ofInt upper)).toNat := by
  have limit := toNat_randomLimit low high
  ext draw
  simp only [accepted, Finset.mem_filter, Finset.mem_range]
  omega

end Bound

/-- What is asked of `ub_random_max` for a bound. -/
structure ExactlyUniform (upper : Int) : Prop where
  /-- Every draw comes from two words. -/
  words : ∀ draw < 2 ^ 31, ((Finset.range (2 ^ 32)).filter fun word =>
    (ubRandom (.ofNat word)).toNat = draw).card = 2
  positive : 0 < (randomLimit (.ofInt upper)).toNat
  multiple : upper.toNat ∣ (randomLimit (.ofInt upper)).toNat
  half : 2 ^ 30 < (randomLimit (.ofInt upper)).toNat
  /-- More than half of the draws are accepted. -/
  most : 2 ^ 31 < 2 * (accepted (.ofInt upper)).card
  /-- The first accepted draw decides. -/
  first : ∀ words, ubRandomMax upper words =
    (words.find? fun word => ubRandom word < randomLimit (.ofInt upper)).map
      fun word => (ubRandom word).toNat % upper
  range : ∀ draw ∈ accepted (.ofInt upper), 0 ≤ (draw : Int) % upper ∧ (draw : Int) % upper < upper
  /-- Every value is the result of as many draws. -/
  equal : ∀ value, 0 ≤ value → value < upper →
    ((accepted (.ofInt upper)).filter fun draw : Nat => (draw : Int) % upper = value).card =
      (randomLimit (.ofInt upper)).toNat / upper.toNat

theorem ubRandomMax_eq {upper : Int} (low : 2 ≤ upper) (high : upper ≤ 2 ^ 31 - 1)
    (words : List UInt32) :
    ubRandomMax upper words =
      (words.find? fun word => ubRandom word < randomLimit (.ofInt upper)).map
        fun word => (ubRandom word).toNat % upper := by
  have unfolded : ubRandomMax upper words =
      (drawBelow (randomLimit (.ofInt upper)) words).map fun value =>
        ((value % UInt32.ofInt upper).toNat : Int) := if_neg (by omega)
  have values : ∀ word, ((ubRandom word % UInt32.ofInt upper).toNat : Int) =
      (ubRandom word).toNat % upper := by
    intro word
    rw [UInt32.toNat_mod, toNat_bound low high, Int.natCast_mod, Int.toNat_of_nonneg (by omega)]
  rw [unfolded, drawBelow_eq, Option.map_map]
  exact congrArg (Option.map · _) (funext values)

/-- `ub_random_max` is exactly uniform. -/
theorem bounded_random_uniform {upper : Int} (low : 2 ≤ upper) (high : upper ≤ 2 ^ 31 - 1) :
    ExactlyUniform upper := by
  have half := half_lt_randomLimit low high
  constructor
  case words =>
    intro draw small
    have blocks := card_residue (show 2 ^ 31 ∣ 2 ^ 32 by decide) small
    refine Eq.trans (congrArg Finset.card (Finset.filter_congr ?_)) blocks
    intro word member
    rw [toNat_ubRandom, UInt32.toNat_ofNat', Nat.mod_eq_of_lt (Finset.mem_range.mp member)]
  case positive => exact Nat.zero_lt_of_lt half
  case multiple => exact dvd_randomLimit low high
  case half => exact half
  case most =>
    rw [accepted_eq low high, Finset.card_range]
    omega
  case first => exact ubRandomMax_eq low high
  case range =>
    intro draw _
    exact ⟨Int.emod_nonneg _ (by omega), Int.emod_lt_of_pos _ (by omega)⟩
  case equal =>
    intro value nonneg small
    have blocks := card_residue (dvd_randomLimit low high)
      (show value.toNat < upper.toNat by omega)
    rw [accepted_eq low high]
    refine Eq.trans (congrArg Finset.card (Finset.filter_congr ?_)) blocks
    intro draw _
    have same : ((draw % upper.toNat : Nat) : Int) = draw % upper := by
      rw [Int.natCast_mod, Int.toNat_of_nonneg (by omega)]
    omega

theorem bounded_random_uniform_six :
    ExactlyUniform 6 ∧ ubRandomMax 6 [0xffffffff, 8] = some 2 :=
  ⟨bounded_random_uniform (by decide) (by decide), by decide⟩

end UnboundWasm.Guest
