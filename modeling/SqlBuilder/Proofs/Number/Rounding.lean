import Mathlib.Data.Rat.Floor
import Mathlib.Tactic.FieldSimp
import Mathlib.Tactic.Linarith
import Mathlib.Tactic.Positivity
import SqlBuilder.Proofs.Number.Quotient

set_option autoImplicit false

namespace SqlBuilder.Magnitude

variable {a b m : Nat} {x y : Magnitude} {q : ℚ}

/-- What a number amounts to. -/
def value (x : Magnitude) : ℚ := x.mantissa * 2 ^ x.exponent

/-- The number is finite and in its normal form. -/
structure Normal (x : Magnitude) : Prop where
  short : x.mantissa < 2 ^ 53
  full : 2 ^ 52 ≤ x.mantissa ∨ x.exponent = leastExponent
  least : leastExponent ≤ x.exponent
  greatest : x.exponent ≤ greatestExponent

/-- No finite number is closer to `q`, and one that is as close leaves the even mantissa to this. -/
structure Nearest (q : ℚ) (x : Magnitude) : Prop where
  normal : x.Normal
  closest : ∀ y : Magnitude, y.Normal → |x.value - q| ≤ |y.value - q|
  even : ∀ y : Magnitude, y.Normal → y ≠ x → |y.value - q| = |x.value - q| → x.mantissa % 2 = 0

theorem value_at (x : Magnitude) {e : Int} (place : e ≤ x.exponent) :
    x.value = (x.mantissa * 2 ^ (x.exponent - e).toNat : Nat) * 2 ^ e := by
  have split : (2 : ℚ) ^ x.exponent = 2 ^ (x.exponent - e).toNat * 2 ^ e := by
    rw [← zpow_natCast, Int.toNat_of_nonneg (by omega), ← zpow_add₀ (by norm_num)]
    congr 1
    omega
  rw [value, split]
  push_cast
  ring

/-- A number has one normal form. -/
theorem eq_of_value (normal : x.Normal) (normal' : y.Normal) (same : x.value = y.value) :
    x = y := by
  have ordered : ∀ {x y : Magnitude}, x.Normal → y.Normal → x.value = y.value →
      x.exponent ≤ y.exponent → x = y := by
    intro x y normal normal' same place
    have spread := value_at y place
    rw [← same, value] at spread
    have unit : (0 : ℚ) < 2 ^ x.exponent := zpow_pos (by norm_num) _
    have mantissa : x.mantissa = y.mantissa * 2 ^ (y.exponent - x.exponent).toNat := by
      exact_mod_cast mul_right_cancel₀ unit.ne' spread
    rcases Int.lt_or_eq_of_le place with apart | level
    · have full := normal'.full.resolve_right (by have := normal.least; omega)
      have double : 2 ^ 1 ≤ 2 ^ (y.exponent - x.exponent).toNat :=
        Nat.pow_le_pow_right (by decide) (by omega)
      have long := Nat.mul_le_mul full double
      have short := normal.short
      omega
    · rw [← level, Int.sub_self, Int.toNat_zero, Nat.pow_zero, Nat.mul_one] at mantissa
      cases x
      cases y
      exact congrArg₂ Magnitude.mk mantissa level
  rcases Int.le_total x.exponent y.exponent with place | place
  · exact ordered normal normal' same place
  · exact (ordered normal' normal same.symm place).symm

/-- Division to even is off by half a unit at most, and by half a unit only if it is even. -/
theorem divideToEven_near (positive : 0 < b) :
    |(divideToEven a b : ℚ) - a / b| ≤ 1 / 2 ∧
      (|(divideToEven a b : ℚ) - a / b| = 1 / 2 → divideToEven a b % 2 = 0) := by
  have unit : (0 : ℚ) < b := by exact_mod_cast positive
  have spread : ((a / b : Nat) : ℚ) * b + (a % b : Nat) = a := by
    exact_mod_cast (Nat.mul_comm b _ ▸ Nat.div_add_mod a b : a / b * b + a % b = a)
  have apart : ∀ n : Nat, (n : ℚ) - a / b = (n * b - a) / b := by
    intro n
    field_simp
  have rest : (0 : ℚ) ≤ (a % b : Nat) := Nat.cast_nonneg _
  rw [apart, abs_div, abs_of_pos unit, div_le_div_iff₀ unit (by norm_num), div_eq_div_iff unit.ne'
    (by norm_num)]
  unfold divideToEven
  dsimp only
  split
  · next below =>
    have below : (2 : ℚ) * (a % b : Nat) < b := by exact_mod_cast below
    have off : ((a / b : Nat) : ℚ) * b - a = -(a % b : Nat) := by linarith
    rw [off, abs_neg, abs_of_nonneg rest]
    exact ⟨by linarith, fun half => absurd half (by linarith)⟩
  · split
    · next above =>
      have above : (b : ℚ) < 2 * (a % b : Nat) := by exact_mod_cast above
      have short : ((a % b : Nat) : ℚ) < b := by exact_mod_cast Nat.mod_lt a positive
      have off : ((a / b + 1 : Nat) : ℚ) * b - a = b - (a % b : Nat) := by
        push_cast
        linarith
      rw [off, abs_of_nonneg (by linarith)]
      exact ⟨by linarith, fun half => absurd half (by linarith)⟩
    · next half =>
      have half : (2 : ℚ) * (a % b : Nat) = b := by
        have half : 2 * (a % b) = b := by omega
        exact_mod_cast half
      refine ⟨?_, fun _ => by omega⟩
      rcases Nat.mod_two_eq_zero_or_one (a / b) with even | odd
      · have off : ((a / b + a / b % 2 : Nat) : ℚ) * b - a = -(a % b : Nat) := by
          rw [even, Nat.add_zero]
          linarith
        rw [off, abs_neg, abs_of_nonneg rest]
        linarith
      · have off : ((a / b + a / b % 2 : Nat) : ℚ) * b - a = (a % b : Nat) := by
          rw [odd]
          push_cast
          linarith
        rw [off, abs_of_nonneg rest]
        linarith

/-- A whole number within half a unit is as close as any other; where another is as close, it is
off by half a unit. -/
theorem near_of_half {r : ℚ} (near : |(m : ℚ) - r| ≤ 1 / 2) (n : Nat) :
    |(m : ℚ) - r| ≤ |(n : ℚ) - r| ∧
      (n ≠ m → |(n : ℚ) - r| = |(m : ℚ) - r| → |(m : ℚ) - r| = 1 / 2) := by
  rcases eq_or_ne n m with rfl | differ
  · exact ⟨le_rfl, fun differ => absurd rfl differ⟩
  have apart : (1 : ℚ) ≤ |(n : ℚ) - m| := by
    have apart : (1 : ℤ) ≤ |(n : ℤ) - m| := Int.one_le_abs (by omega)
    exact_mod_cast apart
  have detour : |(n : ℚ) - m| ≤ |(n : ℚ) - r| + |(m : ℚ) - r| := by
    rw [abs_sub_comm (m : ℚ) r]
    exact abs_sub_le _ _ _
  exact ⟨by linarith, fun _ same => by linarith⟩

theorem zpow_toNat (e : Int) : (2 : ℚ) ^ e.toNat = 2 ^ e * 2 ^ (-e).toNat := by
  rcases Int.le_total 0 e with up | down
  · obtain ⟨n, rfl⟩ := Int.eq_ofNat_of_zero_le up
    rw [Int.toNat_natCast, Int.toNat_of_nonpos (by omega), pow_zero, mul_one, zpow_natCast]
  · obtain ⟨n, place⟩ := Int.eq_ofNat_of_zero_le (Int.neg_nonneg.mpr down)
    obtain rfl : e = -(n : Int) := by omega
    rw [Int.toNat_of_nonpos down, Int.neg_neg, Int.toNat_natCast, zpow_neg, zpow_natCast, pow_zero,
      inv_mul_cancel₀ (by positivity)]

theorem le_quotient_iff (positive : 0 < b) (e : Int) :
    b * 2 ^ e.toNat ≤ a * 2 ^ (-e).toNat ↔ (2 : ℚ) ^ e ≤ a / b := by
  have unit : (0 : ℚ) < b := by exact_mod_cast positive
  have scale : (0 : ℚ) < 2 ^ (-e).toNat := by positivity
  rw [le_div_iff₀ unit, ← mul_le_mul_iff_left₀ scale]
  have shifted : (2 : ℚ) ^ e * b * 2 ^ (-e).toNat = b * 2 ^ e.toNat := by
    rw [zpow_toNat e]
    ring
  rw [shifted]
  exact_mod_cast Iff.rfl

theorem zpow_le_quotient (apart : 0 < a) (positive : 0 < b) :
    (2 : ℚ) ^ quotientLog2 a b ≤ a / b :=
  (le_quotient_iff positive _).mp (quotientLog2_le apart)

theorem quotient_lt_zpow (positive : 0 < b) :
    (a : ℚ) / b < 2 ^ (quotientLog2 a b + 1) := by
  unfold quotientLog2
  simp only [Nat.pow_eq]
  split
  · have unit : (0 : ℚ) < b := by exact_mod_cast positive
    have low : (2 : ℚ) ^ (b.log2 : Int) ≤ b := by
      exact_mod_cast Nat.log2_self_le (Nat.ne_of_gt positive)
    have high : (a : ℚ) < 2 ^ ((a.log2 : Int) + 1) := by
      exact_mod_cast (Nat.lt_log2_self : a < 2 ^ (a.log2 + 1))
    have place : ((a.log2 : Int) - b.log2 + 1) + b.log2 = a.log2 + 1 := by omega
    rw [div_lt_iff₀ unit]
    calc (a : ℚ) < 2 ^ ((a.log2 : Int) + 1) := high
      _ = 2 ^ ((a.log2 : Int) - b.log2 + 1) * 2 ^ (b.log2 : Int) := by
        rw [← zpow_add₀ (by norm_num), place]
      _ ≤ 2 ^ ((a.log2 : Int) - b.log2 + 1) * b :=
        mul_le_mul_of_nonneg_left low (zpow_pos (by norm_num) _).le
  · next less =>
    rw [le_quotient_iff positive, not_le] at less
    rw [Int.sub_add_cancel]
    exact less

/-- The mantissa is the quotient in units of `2 ^ e`, divided to even. -/
theorem mantissaAt_near (positive : 0 < b) (e : Int) :
    |(mantissaAt e a b : ℚ) - a / b / 2 ^ e| ≤ 1 / 2 ∧
      (|(mantissaAt e a b : ℚ) - a / b / 2 ^ e| = 1 / 2 → mantissaAt e a b % 2 = 0) := by
  have scaled : ((a * 2 ^ (-e).toNat : Nat) : ℚ) / (b * 2 ^ e.toNat : Nat) = a / b / 2 ^ e := by
    have unit : (b : ℚ) ≠ 0 := by exact_mod_cast positive.ne'
    have place : (2 : ℚ) ^ e ≠ 0 := zpow_ne_zero e (by norm_num)
    have scale : (2 : ℚ) ^ (-e).toNat ≠ 0 := by positivity
    push_cast
    rw [zpow_toNat e]
    field_simp
  have near := divideToEven_near (a := a * 2 ^ (-e).toNat)
    (Nat.mul_pos positive (Nat.two_pow_pos e.toNat))
  rw [scaled] at near
  exact near

/-- What rounding in units of `2 ^ e` gives, with a mantissa that fills 53 bits carried on. -/
def carried (m : Nat) (e : Int) : Magnitude :=
  if m = 2 ^ 53 then ⟨2 ^ 52, e + 1⟩ else ⟨m, e⟩

theorem value_carried (m : Nat) (e : Int) : (carried m e).value = m * 2 ^ e := by
  unfold carried
  split
  · next filled =>
    rw [value, filled, zpow_add_one₀ (by norm_num)]
    push_cast
    ring
  · rfl

theorem even_carried {e : Int} (even : m % 2 = 0) : (carried m e).mantissa % 2 = 0 := by
  unfold carried
  split
  · norm_num
  · exact even

theorem normal_carried {e : Int} (least : leastExponent ≤ e)
    (greatest : (carried m e).exponent ≤ greatestExponent) (short : m ≤ 2 ^ 53)
    (full : 2 ^ 52 ≤ m ∨ e = leastExponent) : (carried m e).Normal := by
  unfold carried at greatest ⊢
  split
  · next filled =>
    rw [if_pos filled] at greatest
    have later : leastExponent ≤ e + 1 := by omega
    exact ⟨Nat.pow_lt_pow_right (by decide) (by decide), .inl le_rfl, later, greatest⟩
  · next apart =>
    rw [if_neg apart] at greatest
    exact ⟨lt_of_le_of_ne short apart, full, least, greatest⟩

/-- A number with a smaller exponent than `e` is less than all that fill 53 bits at `e`. -/
theorem value_lt_of_exponent {e : Int} (short : y.mantissa < 2 ^ 53) (place : y.exponent < e) :
    y.value < (2 ^ 52 : Nat) * 2 ^ e := by
  have unit : (0 : ℚ) < 2 ^ y.exponent := zpow_pos (by norm_num) _
  have mantissa : (y.mantissa : ℚ) < 2 ^ 53 := by exact_mod_cast short
  have next : (2 : ℚ) ^ (y.exponent + 1) ≤ 2 ^ e := zpow_le_zpow_right₀ (by norm_num) (by omega)
  rw [zpow_add_one₀ (by norm_num)] at next
  calc y.value < 2 ^ 53 * 2 ^ y.exponent := mul_lt_mul_of_pos_right mantissa unit
    _ = 2 ^ 52 * (2 ^ y.exponent * 2) := by ring
    _ ≤ (2 ^ 52 : Nat) * 2 ^ e := by
      push_cast
      linarith

/-- In units of `2 ^ e` the nearest whole number gives the nearest of all numbers, if `q` is at
least what fills 53 bits there or `e` is the least exponent. -/
theorem nearest_carried {e : Int} (near : |(m : ℚ) - q / 2 ^ e| ≤ 1 / 2)
    (half : |(m : ℚ) - q / 2 ^ e| = 1 / 2 → m % 2 = 0) (normal : (carried m e).Normal)
    (full : (2 ^ 52 : Nat) * 2 ^ e ≤ q ∨ e = leastExponent) : Nearest q (carried m e) := by
  have unit : (0 : ℚ) < 2 ^ e := zpow_pos (by norm_num) _
  have scaled : ∀ n : Nat, |(n : ℚ) * 2 ^ e - q| = |(n : ℚ) - q / 2 ^ e| * 2 ^ e := by
    intro n
    have spread : (n : ℚ) * 2 ^ e - q = (n - q / 2 ^ e) * 2 ^ e := by
      rw [sub_mul, div_mul_cancel₀ q unit.ne']
    rw [spread, abs_mul, abs_of_pos unit]
  have coarse : ∀ y : Magnitude, e ≤ y.exponent → ∃ n : Nat, y.value = n * 2 ^ e :=
    fun y place => ⟨_, y.value_at place⟩
  have fine : ∀ y : Magnitude, y.Normal → y.exponent < e →
      |(carried m e).value - q| < |y.value - q| := by
    intro y other place
    have below := value_lt_of_exponent other.short place
    have above := full.resolve_right (by have := other.least; omega)
    have closer := (near_of_half near (2 ^ 52)).1
    have filled := scaled (2 ^ 52)
    rw [value_carried, scaled, abs_of_neg (by linarith : y.value - q < 0)]
    rw [abs_of_nonpos (by linarith : ((2 ^ 52 : Nat) : ℚ) * 2 ^ e - q ≤ 0)] at filled
    calc |(m : ℚ) - q / 2 ^ e| * 2 ^ e ≤ |((2 ^ 52 : Nat) : ℚ) - q / 2 ^ e| * 2 ^ e :=
          mul_le_mul_of_nonneg_right closer unit.le
      _ = -((2 ^ 52 : Nat) * 2 ^ e - q) := filled.symm
      _ < -(y.value - q) := neg_lt_neg (sub_lt_sub_right below q)
  refine ⟨normal, ?_, ?_⟩
  · intro y other
    rcases Int.lt_or_le y.exponent e with small | place
    · exact (fine y other small).le
    · obtain ⟨n, spelled⟩ := coarse y place
      rw [spelled, value_carried, scaled, scaled]
      exact mul_le_mul_of_nonneg_right (near_of_half near n).1 unit.le
  · intro y other differ same
    rcases Int.lt_or_le y.exponent e with small | place
    · exact absurd same (fine y other small).ne'
    · obtain ⟨n, spelled⟩ := coarse y place
      rw [spelled, value_carried, scaled, scaled] at same
      refine even_carried (half ((near_of_half near n).2 ?_ (mul_right_cancel₀ unit.ne' same)))
      rintro rfl
      exact differ (eq_of_value other normal (by rw [spelled, value_carried]))

theorem nearest_zero : Nearest 0 ⟨0, leastExponent⟩ := by
  have none : value ⟨0, leastExponent⟩ = 0 := by rw [value, Nat.cast_zero, zero_mul]
  refine ⟨⟨by decide, .inr rfl, le_rfl, by decide⟩, ?_, fun _ _ _ _ => rfl⟩
  intro y _
  rw [none, sub_zero, abs_zero]
  exact abs_nonneg _

/-- A whole number within half a unit of `q` is not past a whole number that `q` is not past. -/
theorem le_of_half {r : ℚ} {c : Nat} (near : |(m : ℚ) - r| ≤ 1 / 2) (bound : r ≤ c) : m ≤ c := by
  have upper := (abs_le.mp near).2
  have less : (m : ℚ) < (c + 1 : Nat) := by
    push_cast
    linarith
  exact Nat.lt_succ_iff.mp (by exact_mod_cast less)

theorem ge_of_half {r : ℚ} {c : Nat} (near : |(m : ℚ) - r| ≤ 1 / 2) (bound : (c : ℚ) ≤ r) :
    c ≤ m := by
  have lower := (abs_le.mp near).1
  have less : (c : ℚ) < (m + 1 : Nat) := by
    push_cast
    linarith
  exact Nat.lt_succ_iff.mp (by exact_mod_cast less)

/-- The exponent of a rounded quotient is that at which the quotient fills 53 bits, or the least. -/
theorem quotient_bounds (apart : 0 < a) (positive : 0 < b) {e : Int}
    (place : max (quotientLog2 a b - 52) leastExponent = e) :
    (a : ℚ) / b ≤ (2 ^ 53 : Nat) * 2 ^ e ∧
      ((2 ^ 52 : Nat) * 2 ^ e ≤ (a : ℚ) / b ∨ e = leastExponent) := by
  have shifted : ∀ n : Nat, ((2 ^ n : Nat) : ℚ) * 2 ^ e = 2 ^ (n + e) := by
    intro n
    rw [zpow_add₀ (by norm_num), zpow_natCast]
    push_cast
    rfl
  rw [shifted, shifted]
  constructor
  · exact (quotient_lt_zpow positive).le.trans (zpow_le_zpow_right₀ (by norm_num) (by omega))
  · rcases max_choice (quotientLog2 a b - 52) leastExponent with top | bottom
    · have filled : ((52 : Nat) : Int) + e = quotientLog2 a b := by omega
      rw [filled]
      exact .inl (zpow_le_quotient apart positive)
    · exact .inr (place.symm.trans bottom)

/-- Rounding a quotient gives the nearest number. -/
theorem nearest_spec (positive : 0 < b) (rounded : nearest a b = some x) :
    Nearest (a / b) x := by
  unfold nearest at rounded
  split at rounded
  · next none =>
    cases rounded
    rw [none, Nat.cast_zero, zero_div]
    exact nearest_zero
  · next apart =>
    generalize place : max (quotientLog2 a b - 52) leastExponent = e at rounded
    obtain ⟨below, full⟩ := quotient_bounds (Nat.pos_of_ne_zero apart) positive place
    obtain ⟨near, half⟩ := mantissaAt_near (a := a) positive e
    have unit : (0 : ℚ) < 2 ^ e := zpow_pos (by norm_num) _
    have short := le_of_half near ((div_le_iff₀ unit).mpr below)
    have long : 2 ^ 52 ≤ mantissaAt e a b ∨ e = leastExponent :=
      full.imp_left fun above => ge_of_half near ((le_div_iff₀ unit).mpr above)
    change (if (carried (mantissaAt e a b) e).exponent ≤ greatestExponent then
      some (carried (mantissaAt e a b) e) else none) = some x at rounded
    split at rounded
    · next range =>
      cases rounded
      exact nearest_carried near half (normal_carried (by omega) range short long) full
    · cases rounded

theorem value_eq_div (x : Magnitude) : x.value = x.numerator / x.denominator := by
  have scale : ((2 ^ (-x.exponent).toNat : Nat) : ℚ) ≠ 0 := by positivity
  simp only [value, numerator, denominator, Nat.pow_eq]
  rw [eq_div_iff scale]
  push_cast
  rw [zpow_toNat x.exponent, mul_assoc]

theorem ceil_value (x : Magnitude) : (x.ceil : ℤ) = ⌈x.value⌉ := by
  have positive : 0 < x.denominator := Nat.two_pow_pos _
  have unit : (0 : ℚ) < x.denominator := by exact_mod_cast positive
  have low : x.ceil * x.denominator ≤ x.numerator + (x.denominator - 1) := Nat.div_mul_le_self _ _
  have high : x.numerator + (x.denominator - 1) < x.ceil * x.denominator + x.denominator :=
    Nat.lt_div_mul_add positive
  have reached : (x.numerator : ℚ) ≤ x.ceil * x.denominator := by
    exact_mod_cast (by omega : x.numerator ≤ x.ceil * x.denominator)
  have least : (x.ceil : ℚ) * x.denominator < x.numerator + x.denominator := by
    exact_mod_cast (by omega : x.ceil * x.denominator < x.numerator + x.denominator)
  rw [eq_comm, Int.ceil_eq_iff, value_eq_div, lt_div_iff₀ unit, div_le_iff₀ unit, Int.cast_natCast]
  exact ⟨by linarith, reached⟩

theorem isLeast_ceilDiv {n k : Nat} (positive : 0 < k) :
    IsLeast {m : ℤ | (n : ℤ) ≤ m * k} ((n ⌈/⌉ k : Nat) : ℤ) := by
  constructor
  · have reached : n ≤ k * (n ⌈/⌉ k) := (ceilDiv_le_iff_le_mul positive).mp le_rfl
    rw [Nat.mul_comm] at reached
    rw [Set.mem_ofPred_eq]
    exact_mod_cast reached
  · intro m covers
    rw [Set.mem_ofPred_eq] at covers
    have sign : 0 ≤ m := by
      by_contra below
      have product : m * k < 0 := mul_neg_of_neg_of_pos (by omega) (by exact_mod_cast positive)
      omega
    obtain ⟨m, rfl⟩ := Int.eq_ofNat_of_zero_le sign
    have covers : n ≤ m * k := by exact_mod_cast covers
    exact_mod_cast (ceilDiv_le_iff_le_mul positive).mpr (Nat.mul_comm m k ▸ covers)

end SqlBuilder.Magnitude

namespace SqlBuilder.Binary64

/-- The ceiling of a quotient is taken of the nearest number. -/
theorem ceilQuotient_nearest {n k : Nat} {pages : Int} (positive : 0 < k)
    (fits : ceilQuotient n k = some pages) :
    ∃ x : Magnitude, x.Nearest ((n : ℚ) / k) ∧ pages = ⌈x.value⌉ := by
  rw [ceilQuotient, Int.natAbs_natCast] at fits
  obtain ⟨x, rounded, told⟩ := Option.map_eq_some_iff.mp fits
  rw [if_neg (by omega)] at told
  exact ⟨x, Magnitude.nearest_spec positive rounded, by rw [← told, Magnitude.ceil_value]⟩

end SqlBuilder.Binary64
