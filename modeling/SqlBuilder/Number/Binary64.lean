set_option autoImplicit false

namespace SqlBuilder

/-- A non-negative finite number, `mantissa * 2 ^ exponent`. -/
structure Magnitude where
  mantissa : Nat
  exponent : Int
  deriving DecidableEq

inductive Binary64
  | nan
  | infinite (negative : Bool)
  | finite (negative : Bool) (magnitude : Magnitude)
  deriving DecidableEq

namespace Magnitude

/-- The quotient as a natural number, a half going to the even neighbour. -/
def divideToEven (a b : Nat) : Nat :=
  let q := a / b
  let twice := 2 * (a % b)
  if twice < b then q else if b < twice then q + 1 else q + q % 2

/-- The greatest `e` with `2 ^ e ≤ a / b`, for positive `a` and `b`. -/
def quotientLog2 (a b : Nat) : Int :=
  let e : Int := (a.log2 : Int) - b.log2
  if b * Nat.pow 2 e.toNat ≤ a * Nat.pow 2 (-e).toNat then e else e - 1

/-- The mantissa of `a / b` in units of `2 ^ exponent`. -/
def mantissaAt (exponent : Int) (a b : Nat) : Nat :=
  divideToEven (a * Nat.pow 2 (-exponent).toNat) (b * Nat.pow 2 exponent.toNat)

def leastExponent : Int := -1074

def greatestExponent : Int := 971

/-- The number nearest to `a / b`, or `none` when that lies beyond the greatest finite one. -/
def nearest (a b : Nat) : Option Magnitude :=
  if a = 0 then some ⟨0, leastExponent⟩
  else
    let exponent := max (quotientLog2 a b - 52) leastExponent
    let mantissa := mantissaAt exponent a b
    let rounded : Magnitude :=
      if mantissa = Nat.pow 2 53 then ⟨Nat.pow 2 52, exponent + 1⟩ else ⟨mantissa, exponent⟩
    if rounded.exponent ≤ greatestExponent then some rounded else none

/-- The number as a quotient of natural numbers. -/
def numerator (x : Magnitude) : Nat := x.mantissa * Nat.pow 2 x.exponent.toNat

def denominator (x : Magnitude) : Nat := Nat.pow 2 (-x.exponent).toNat

def floor (x : Magnitude) : Nat := x.numerator / x.denominator

def ceil (x : Magnitude) : Nat := (x.numerator + (x.denominator - 1)) / x.denominator

/-- The decimal `digits * 10 ^ exponent`, rounded; far outside the range no power is computed. -/
def ofDecimal (digits : Nat) (exponent : Int) : Option Magnitude :=
  if digits = 0 then some ⟨0, leastExponent⟩
  else
    let place := exponent + (Nat.toDigits 10 digits).length
    if place < -400 then some ⟨0, leastExponent⟩
    else if 400 < place then none
    else nearest (digits * Nat.pow 10 exponent.toNat) (Nat.pow 10 (-exponent).toNat)

end Magnitude

namespace Binary64

def ofDecimal (negative : Bool) (digits : Nat) (exponent : Int) : Binary64 :=
  match Magnitude.ofDecimal digits exponent with
  | some x => .finite negative x
  | none => .infinite negative

def isZero : Binary64 → Bool
  | .finite _ x => x.mantissa == 0
  | _ => false

/-- The integer part, for a finite number. -/
def truncate? : Binary64 → Option Int
  | .finite negative x => some (if negative then -(x.floor : Int) else x.floor)
  | _ => none

/-- The number is exactly this integer. -/
def equalsInt (x : Binary64) (n : Int) : Bool :=
  match x with
  | .finite negative m =>
    (if negative then -(m.numerator : Int) else m.numerator) == n * (m.denominator : Int)
  | _ => false

/-- Equality of numbers: the two zeros are equal, and nothing equals a NaN. -/
def same : Binary64 → Binary64 → Bool
  | .nan, _ => false
  | .finite s x, .finite t y => x == y && (s == t || x.mantissa == 0)
  | x, y => x == y

/-- The least integer not below `a / b` rounded to 64 bits, or `none` when it does not fit. -/
def ceilQuotient (a : Int) (b : Nat) : Option Int :=
  (Magnitude.nearest a.natAbs b).map fun x => if a < 0 then -(x.floor : Int) else x.ceil

end Binary64

end SqlBuilder
