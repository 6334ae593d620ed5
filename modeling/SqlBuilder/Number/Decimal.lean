import SqlBuilder.Number.Binary64

set_option autoImplicit false

namespace SqlBuilder

/-- The number `digits * 10 ^ exponent`. -/
structure Decimal where
  digits : Nat
  exponent : Int
  deriving DecidableEq

namespace Decimal

def digitCount (n : Nat) : Nat := (Nat.toDigits 10 n).length

/-- The greatest `e` with `10 ^ e ≤ a / b`, for positive `a` and `b`. -/
def quotientLog10 (a b : Nat) : Int :=
  let e : Int := (digitCount a : Int) - digitCount b
  if b * Nat.pow 10 e.toNat ≤ a * Nat.pow 10 (-e).toNat then e else e - 1

/-- The number in units of `10 ^ exponent`, as a quotient. -/
def scaled (x : Magnitude) (exponent : Int) : Nat × Nat :=
  (x.numerator * Nat.pow 10 (-exponent).toNat, x.denominator * Nat.pow 10 exponent.toNat)

/-- The neighbours of `x` on the grid of `10 ^ exponent` that read back as `x`, nearest first. -/
def candidate? (x : Magnitude) (exponent : Int) : Option Decimal :=
  let (a, b) := scaled x exponent
  let low := a / b
  let near := Magnitude.divideToEven a b
  let far := if near = low then low + 1 else low
  let readsBack (d : Nat) := Magnitude.ofDecimal d exponent = some x
  if readsBack near then some ⟨near, exponent⟩
  else if readsBack far then some ⟨far, exponent⟩
  else none

/-- The first grid with a candidate, from the coarsest on; seventeen digits always suffice. -/
def search (x : Magnitude) : Nat → Int → Decimal
  | 0, exponent => let (a, b) := scaled x exponent; ⟨Magnitude.divideToEven a b, exponent⟩
  | more + 1, exponent =>
    match candidate? x exponent with
    | some d => d
    | none => search x more (exponent - 1)

/-- Zeros at the end move into the exponent. -/
def strip : Nat → Decimal → Decimal
  | 0, d => d
  | more + 1, d =>
    if d.digits % 10 = 0 then strip more ⟨d.digits / 10, d.exponent + 1⟩ else d

def shortest (x : Magnitude) : Decimal :=
  if x.mantissa = 0 then ⟨0, 0⟩
  else strip 20 (search x 17 (quotientLog10 x.numerator x.denominator))

end Decimal

/-- How a decimal is written. The point of `0.25` is at place 0 and that of `2.5` at place 1. -/
structure Layout where
  leastPlace : Int
  greatestPlace : Int
  plusSign : Bool
  exponentDigits : Nat

namespace Layout

/-- Positional from 0.0001 to below 10^16; an exponent has a sign and two digits at least. -/
def displayed : Layout := ⟨-3, 16, true, 2⟩

/-- Positional from 0.00001 to below 10^16; an exponent has a sign only when negative. -/
def exchanged : Layout := ⟨-4, 16, false, 1⟩

def exponentText (l : Layout) (e : Int) : String :=
  let digits := (Nat.repr e.natAbs).toList
  let padded := List.replicate (l.exponentDigits - digits.length) '0' ++ digits
  (if e < 0 then "e-" else if l.plusSign then "e+" else "e") ++ String.ofList padded

def render (l : Layout) (d : Decimal) : String :=
  let digits := (Nat.repr d.digits).toList
  let place : Int := d.exponent + digits.length
  if d.digits = 0 then "0.0"
  else if l.leastPlace ≤ place ∧ place ≤ l.greatestPlace then
    if place ≤ 0 then
      "0." ++ String.ofList (List.replicate (-place).toNat '0' ++ digits)
    else if digits.length ≤ place.toNat then
      String.ofList (digits ++ List.replicate (place.toNat - digits.length) '0') ++ ".0"
    else
      String.ofList (digits.take place.toNat) ++ "." ++ String.ofList (digits.drop place.toNat)
  else
    match digits with
    | [] => ""
    | [c] => c.toString ++ l.exponentText (place - 1)
    | c :: rest => c.toString ++ "." ++ String.ofList rest ++ l.exponentText (place - 1)

def renderMagnitude (l : Layout) (negative : Bool) (x : Magnitude) : String :=
  (if negative then "-" else "") ++ l.render (Decimal.shortest x)

end Layout

namespace Binary64

/-- The number as messages show it. -/
def display : Binary64 → String
  | .nan => "nan"
  | .infinite negative => if negative then "-inf" else "inf"
  | .finite negative x => Layout.displayed.renderMagnitude negative x

end Binary64

end SqlBuilder
