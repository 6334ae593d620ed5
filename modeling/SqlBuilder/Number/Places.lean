import SqlBuilder.Number.Decimal

set_option autoImplicit false

namespace SqlBuilder

/-- How the digits of a number are laid out. -/
inductive RealStyle
  | positional
  | scientific
  | general
  deriving DecidableEq

/-- Digits before and behind the point, and what follows them. -/
structure Significand where
  whole : List Char
  fraction : List Char
  exponent : Option Int

namespace Significand

/-- The digits of `n`, at least `count` of them. -/
def padded (count n : Nat) : List Char :=
  let digits := (Nat.repr n).toList
  List.replicate (count - digits.length) '0' ++ digits

/-- Without the zeros at the end of the fraction. -/
def stripped (s : Significand) : Significand :=
  { s with fraction := (s.fraction.reverse.dropWhile (· = '0')).reverse }

/-- The text; a point that must stand stands also before no digits. -/
def text (point : Bool) (s : Significand) : String :=
  String.ofList s.whole ++
    (if s.fraction.isEmpty && !point then "" else "." ++ String.ofList s.fraction) ++
    ((s.exponent.map Layout.displayed.exponentText).getD "")

end Significand

namespace Magnitude

def roundedTo (places : Nat) (x : Magnitude) : Significand :=
  let n := divideToEven (x.numerator * Nat.pow 10 places) x.denominator
  let digits := Significand.padded (places + 1) n
  let whole := digits.length - places
  ⟨digits.take whole, digits.drop whole, none⟩

/-- The first `count` digits as a number, and the exponent of the first of them. -/
def leading (count : Nat) (x : Magnitude) : Nat × Int :=
  if x.mantissa = 0 then (0, 0)
  else
    let exponent := Decimal.quotientLog10 x.numerator x.denominator
    let (a, b) := Decimal.scaled x (exponent - (count - 1 : Nat))
    let n := divideToEven a b
    if n = Nat.pow 10 count then (Nat.pow 10 (count - 1), exponent + 1) else (n, exponent)

def scientific (places : Nat) (x : Magnitude) : Significand :=
  let (n, exponent) := x.leading (places + 1)
  let digits := Significand.padded (places + 1) n
  ⟨digits.take 1, digits.drop 1, some exponent⟩

/-- `count` digits, positional where the exponent is neither below -4 nor beyond the digits. -/
def general (count : Nat) (x : Magnitude) : Significand :=
  let (n, exponent) := x.leading count
  let digits := Significand.padded count n
  if exponent < -4 ∨ (count : Int) ≤ exponent then ⟨digits.take 1, digits.drop 1, some exponent⟩
  else if exponent < 0 then ⟨['0'], List.replicate (-exponent - 1).toNat '0' ++ digits, none⟩
  else ⟨digits.take (exponent.toNat + 1), digits.drop (exponent.toNat + 1), none⟩

/-- The text in a style; with `full` the point stands and no zero is dropped. -/
def inStyle (style : RealStyle) (precision : Nat) (full : Bool) (x : Magnitude) : String :=
  match style with
  | .positional => (x.roundedTo precision).text full
  | .scientific => (x.scientific precision).text full
  | .general =>
    let s := x.general (max 1 precision)
    (if full then s else s.stripped).text full

end Magnitude

namespace Binary64

def isNegative : Binary64 → Bool
  | .nan => false
  | .infinite negative | .finite negative _ => negative

/-- The text of a number without its sign. -/
def inStyle (style : RealStyle) (precision : Nat) (full : Bool) : Binary64 → String
  | .nan => "nan"
  | .infinite _ => "inf"
  | .finite _ x => x.inStyle style precision full

/-- The number nearest to an integer, if there is one within range. -/
def ofInt? (n : Int) : Option Binary64 :=
  (Magnitude.nearest n.natAbs 1).map fun x => .finite (n < 0) x

end Binary64

end SqlBuilder
