import Mathlib.Algebra.Order.Floor.Div
import Mathlib.Tactic.Ring
import SqlBuilder.Number.Binary64

set_option autoImplicit false

namespace SqlBuilder

namespace Magnitude

variable {a b c : Nat}

theorem divideToEven_le (positive : 0 < b) (bound : a ≤ c * b) : divideToEven a b ≤ c := by
  have below : a / b ≤ c := Nat.div_le_of_le_mul (by rwa [Nat.mul_comm])
  have split := Nat.div_add_mod a b
  unfold divideToEven
  by_cases whole : a % b = 0
  · simp [whole, positive, below]
  · have apart : a / b < c := by
      rw [Nat.div_lt_iff_lt_mul positive]
      refine Nat.lt_of_le_of_ne bound fun same => whole ?_
      rw [same, Nat.mul_mod_left]
    dsimp only
    split
    · omega
    · split <;> omega

theorem lt_divideToEven (positive : 0 < b) (bound : b * (2 * c + 1) < 2 * a) :
    c < divideToEven a b := by
  have split := Nat.div_add_mod a b
  have rest := Nat.mod_lt a positive
  have reached : c ≤ a / b := by
    rw [Nat.le_div_iff_mul_le positive]
    by_contra short
    have next : a + 1 ≤ c * b := by omega
    have doubled : b * (2 * c + 1) = 2 * (c * b) + b := by ring
    omega
  unfold divideToEven
  dsimp only
  rcases Nat.lt_or_eq_of_le reached with above | same
  · split
    · exact above
    · split <;> omega
  · have spread : b * (2 * c + 1) = 2 * (b * (a / b)) + b := by
      rw [same]
      ring
    rw [if_neg (by omega), if_pos (by omega)]
    omega

theorem quotientLog2_le (positive : 0 < a) :
    b * 2 ^ (quotientLog2 a b).toNat ≤ a * 2 ^ (-quotientLog2 a b).toNat := by
  unfold quotientLog2
  simp only [Nat.pow_eq]
  split
  · next fits => exact fits
  · have low : 2 ^ a.log2 ≤ a := Nat.log2_self_le (Nat.ne_of_gt positive)
    have high : b < 2 ^ (b.log2 + 1) := Nat.lt_log2_self
    rcases Int.le_total 0 ((a.log2 : Int) - b.log2 - 1) with up | down
    · obtain ⟨d, place⟩ := Int.eq_ofNat_of_zero_le up
      have shape : a.log2 = b.log2 + 1 + d := by omega
      rw [place, Int.toNat_natCast, Int.toNat_of_nonpos (by omega), Nat.pow_zero, Nat.mul_one]
      calc b * 2 ^ d ≤ 2 ^ (b.log2 + 1) * 2 ^ d := Nat.mul_le_mul_right _ high.le
        _ = 2 ^ a.log2 := by rw [← Nat.pow_add, ← shape]
        _ ≤ a := low
    · obtain ⟨d, place⟩ := Int.eq_ofNat_of_zero_le (Int.neg_nonneg.mpr down)
      have shape : b.log2 + 1 = a.log2 + d := by omega
      rw [place, Int.toNat_natCast, Int.toNat_of_nonpos down, Nat.pow_zero, Nat.mul_one]
      calc b ≤ 2 ^ (b.log2 + 1) := high.le
        _ = 2 ^ a.log2 * 2 ^ d := by rw [← Nat.pow_add, ← shape]
        _ ≤ a * 2 ^ d := Nat.mul_le_mul_right _ low

theorem le_quotientLog2 (a b : Nat) : (a.log2 : Int) - b.log2 - 1 ≤ quotientLog2 a b := by
  unfold quotientLog2
  dsimp only
  split <;> omega

/-- A number in the unit below an integer, that integer included, has it as its ceiling. -/
theorem ceil_eq {x : Magnitude} (lower : (c - 1) * x.denominator < x.numerator)
    (upper : x.numerator ≤ c * x.denominator) : x.ceil = c := by
  have positive : 0 < x.denominator := Nat.two_pow_pos _
  have apart : 0 < c := by
    rcases Nat.eq_zero_or_pos c with rfl | apart
    · omega
    · exact apart
  obtain ⟨d, rfl⟩ : ∃ d, c = d + 1 := ⟨c - 1, by omega⟩
  have spread : (d + 1) * x.denominator = d * x.denominator + x.denominator := by ring
  rw [Nat.add_sub_cancel] at lower
  rw [ceil, Nat.div_eq_iff positive]
  omega

theorem ceil_zero (exponent : Int) : ceil ⟨0, exponent⟩ = 0 := by
  have positive : 0 < denominator ⟨0, exponent⟩ := Nat.two_pow_pos _
  rw [ceil, numerator, Nat.zero_mul, Nat.zero_add]
  exact Nat.div_eq_of_lt (Nat.sub_lt positive Nat.one_pos)

theorem numerator_neg (m s : Nat) : numerator ⟨m, -(s : Int)⟩ = m := by
  simp only [numerator, Nat.pow_eq]
  rw [Int.toNat_of_nonpos (by omega), Nat.pow_zero, Nat.mul_one]

theorem denominator_neg (m s : Nat) : denominator ⟨m, -(s : Int)⟩ = 2 ^ s := by
  simp only [denominator, Nat.pow_eq, Int.neg_neg, Int.toNat_natCast]

/-- A mantissa that fills 53 bits is carried to the next place, and the number stays the same. -/
theorem ceil_carried {m s : Nat} (lower : (c - 1) * 2 ^ s < m) (upper : m ≤ c * 2 ^ s) :
    ceil (if m = 2 ^ 53 then ⟨2 ^ 52, -(s : Int) + 1⟩ else ⟨m, -(s : Int)⟩) = c := by
  split
  · next filled =>
    subst filled
    cases s with
    | zero =>
      have numerator : Magnitude.numerator ⟨2 ^ 52, -((0 : Nat) : Int) + 1⟩ = 2 ^ 53 := by decide
      have denominator : Magnitude.denominator ⟨2 ^ 52, -((0 : Nat) : Int) + 1⟩ = 1 := by decide
      apply ceil_eq <;> rw [numerator, denominator] <;> omega
    | succ s =>
      have place : -((s + 1 : Nat) : Int) + 1 = -(s : Int) := by omega
      have below : (c - 1) * 2 ^ (s + 1) = 2 * ((c - 1) * 2 ^ s) := by ring
      have above : c * 2 ^ (s + 1) = 2 * (c * 2 ^ s) := by ring
      rw [place]
      apply ceil_eq <;> rw [numerator_neg, denominator_neg] <;> omega
  · apply ceil_eq <;> rw [numerator_neg, denominator_neg]
    · exact lower
    · exact upper

/-- A quotient in units of `2 ^ -s` is rounded to a mantissa in the same unit interval. -/
theorem mantissaAt_bounds {s : Nat} (positive : 0 < b) (lower : b * (c - 1) < a) (upper : a ≤ b * c)
    (fine : b < 2 ^ (s + 1) ∨ a = b * c) :
    (c - 1) * 2 ^ s < mantissaAt (-(s : Int)) a b ∧ mantissaAt (-(s : Int)) a b ≤ c * 2 ^ s := by
  have numerator : a * Nat.pow 2 (- -(s : Int)).toNat = a * 2 ^ s := by
    rw [Int.neg_neg, Int.toNat_natCast, Nat.pow_eq]
  have denominator : b * Nat.pow 2 (-(s : Int)).toNat = b := by
    rw [Int.toNat_of_nonpos (by omega), Nat.pow_eq, Nat.pow_zero, Nat.mul_one]
  rw [mantissaAt, numerator, denominator]
  constructor
  · apply lt_divideToEven positive
    have spread : b * (2 * ((c - 1) * 2 ^ s) + 1) = 2 * (b * (c - 1) * 2 ^ s) + b := by ring
    have least : (b * (c - 1) + 1) * 2 ^ s ≤ a * 2 ^ s := Nat.mul_le_mul_right _ lower
    rw [Nat.succ_mul] at least
    rw [spread]
    rcases fine with small | whole
    · rw [Nat.pow_succ] at small
      omega
    · have unit : b ≤ b * 2 ^ s := Nat.le_mul_of_pos_right b (Nat.two_pow_pos s)
      obtain ⟨d, rfl⟩ : ∃ d, c = d + 1 := ⟨c - 1, by
        rcases Nat.eq_zero_or_pos c with rfl | apart
        · omega
        · omega⟩
      have next : a * 2 ^ s = b * d * 2 ^ s + b * 2 ^ s := by
        rw [whole]
        ring
      rw [Nat.add_sub_cancel]
      omega
  · apply divideToEven_le positive
    calc a * 2 ^ s ≤ b * c * 2 ^ s := Nat.mul_le_mul_right _ upper
      _ = c * 2 ^ s * b := by ring

theorem ceilDiv_bounds (apart : 0 < a) (positive : 0 < b) :
    b * (a ⌈/⌉ b - 1) < a ∧ a ≤ b * (a ⌈/⌉ b) := by
  have reached : a ≤ b * (a ⌈/⌉ b) := (ceilDiv_le_iff_le_mul positive).mp le_rfl
  have least : 0 < a ⌈/⌉ b := by
    by_contra none
    rw [Nat.eq_zero_of_not_pos none] at reached
    omega
  refine ⟨?_, reached⟩
  by_contra covered
  have less := (ceilDiv_le_iff_le_mul positive).mpr (Nat.le_of_not_lt covered)
  omega

/-- A quotient of integers of at most 53 bits has units of its mantissa that are finer than half of
its distance from the integer below, unless it is an integer itself. -/
theorem fine_of_place {s : Nat} (apart : 0 < a) (positive : 0 < b) (total : a ≤ 2 ^ 53)
    (size : b ≤ 2 ^ 53) (place : quotientLog2 a b + s = 52) :
    b < 2 ^ (s + 1) ∨ a = b * (a ⌈/⌉ b) := by
  rcases Nat.lt_or_ge b (2 ^ (s + 1)) with small | large
  · exact .inl small
  rcases Int.lt_or_le (quotientLog2 a b) 0 with down | up
  · have more : 2 ^ 54 ≤ 2 ^ (s + 1) := Nat.pow_le_pow_right (by omega) (by omega)
    omega
  · -- Only the greatest numerator over a power of two is left, and that is an integer.
    obtain ⟨q, power⟩ := Int.eq_ofNat_of_zero_le up
    have fits := quotientLog2_le (b := b) apart
    rw [power, Int.toNat_natCast, Int.toNat_of_nonpos (by omega), Nat.pow_zero, Nat.mul_one] at fits
    have places : q + (s + 1) = 53 := by omega
    have whole : 2 ^ (s + 1) * 2 ^ q = 2 ^ 53 := by rw [← Nat.pow_add, Nat.add_comm, places]
    have least : 2 ^ (s + 1) * 2 ^ q ≤ b * 2 ^ q := Nat.mul_le_mul_right _ large
    have same : a = b * 2 ^ q := by omega
    have quotient : (b * 2 ^ q) ⌈/⌉ b = 2 ^ q := smul_ceilDiv positive (2 ^ q)
    exact .inr (by rw [same, quotient])

/-- Rounding a quotient of integers of at most 53 bits keeps its ceiling. -/
theorem ceil_nearest (apart : 0 < a) (positive : 0 < b) (total : a ≤ 2 ^ 53) (size : b ≤ 2 ^ 53) :
    (nearest a b).map ceil = some (a ⌈/⌉ b) := by
  have logA : a.log2 ≤ 53 := by
    have low : 2 ^ a.log2 ≤ a := Nat.log2_self_le (Nat.ne_of_gt apart)
    exact (Nat.pow_le_pow_iff_right (by decide : 1 < 2)).mp (low.trans total)
  have logB : b.log2 ≤ 53 := by
    have low : 2 ^ b.log2 ≤ b := Nat.log2_self_le (Nat.ne_of_gt positive)
    exact (Nat.pow_le_pow_iff_right (by decide : 1 < 2)).mp (low.trans size)
  have least := le_quotientLog2 a b
  have exponent : max (quotientLog2 a b - 52) leastExponent = quotientLog2 a b - 52 :=
    Int.max_eq_left (by unfold leastExponent; omega)
  rcases Int.lt_or_le 52 (quotientLog2 a b) with top | below
  · -- The only quotient as great as this is the greatest numerator itself.
    obtain ⟨q, power⟩ := Int.eq_ofNat_of_zero_le (by omega : 0 ≤ quotientLog2 a b)
    have fits := quotientLog2_le (b := b) apart
    rw [power, Int.toNat_natCast, Int.toNat_of_nonpos (by omega), Nat.pow_zero, Nat.mul_one] at fits
    have great : 2 ^ 53 ≤ 2 ^ q := Nat.pow_le_pow_right (by decide) (by omega)
    have least : b * 2 ^ 53 ≤ b * 2 ^ q := Nat.mul_le_mul_left b great
    obtain rfl : b = 1 := by omega
    obtain rfl : a = 2 ^ 53 := by omega
    rfl
  · obtain ⟨s, place⟩ := Int.eq_ofNat_of_zero_le (Int.sub_nonneg_of_le below)
    have unit : quotientLog2 a b - 52 = -(s : Int) := by omega
    obtain ⟨lower, upper⟩ := ceilDiv_bounds apart positive
    have fine := fine_of_place apart positive total size (s := s) (by omega)
    obtain ⟨above, under⟩ := mantissaAt_bounds positive lower upper fine
    have carried := ceil_carried above under
    rw [nearest, if_neg (Nat.ne_of_gt apart), exponent, unit]
    simp only [Nat.pow_eq]
    rw [if_pos]
    · rw [Option.map_some, carried]
    · split <;> simp only [greatestExponent] <;> omega

end Magnitude

/-- The number of parts of a given size that a total comes to, both of at most 53 bits, is found
without an error of rounding. -/
theorem Binary64.ceilQuotient_eq {n k : Nat} (positive : 0 < k) (total : n ≤ 2 ^ 53)
    (size : k ≤ 2 ^ 53) : ceilQuotient n k = some ((n ⌈/⌉ k : Nat) : Int) := by
  have natural : ceilQuotient n k =
      ((Magnitude.nearest n k).map Magnitude.ceil).map fun c : Nat => (c : Int) := by
    rw [ceilQuotient, Int.natAbs_natCast, Option.map_map]
    simp only [Int.not_lt.mpr (Int.natCast_nonneg n), ↓reduceIte]
    rfl
  rw [natural]
  rcases Nat.eq_zero_or_pos n with rfl | apart
  · rw [Magnitude.nearest, if_pos rfl, Option.map_some, Magnitude.ceil_zero, zero_ceilDiv]
    rfl
  · rw [Magnitude.ceil_nearest apart positive total size]
    rfl

end SqlBuilder
