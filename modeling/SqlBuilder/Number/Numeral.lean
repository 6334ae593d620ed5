import SqlBuilder.Number.Binary64

set_option autoImplicit false

namespace SqlBuilder

structure Numeral where
  negative : Bool
  whole : List Char
  fraction : Option (List Char)
  exponent : Option Int

namespace Numeral

def isDigit (c : Char) : Bool := '0' ≤ c && c ≤ '9'

def valueOf (digits : List Char) : Nat := Nat.ofDigitChars 10 digits 0

/-- A run of digits, at least one, and the rest. -/
def scanDigits (cs : List Char) : Option (List Char × List Char) :=
  match cs.takeWhile isDigit with
  | [] => none
  | digits => some (digits, cs.dropWhile isDigit)

def scanWhole : List Char → Option (List Char × List Char)
  | '0' :: rest => if (rest.head?.map isDigit).getD false then none else some (['0'], rest)
  | cs => scanDigits cs

def scanFraction : List Char → Option (Option (List Char) × List Char)
  | '.' :: rest => (scanDigits rest).map fun (digits, rest) => (some digits, rest)
  | cs => some (none, cs)

def scanExponent : List Char → Option (Option Int × List Char)
  | c :: rest =>
    if c = 'e' || c = 'E' then
      match rest with
      | '-' :: rest => (scanDigits rest).map fun (ds, rest) => (some (-(valueOf ds : Int)), rest)
      | '+' :: rest => (scanDigits rest).map fun (ds, rest) => (some (valueOf ds : Int), rest)
      | rest => (scanDigits rest).map fun (ds, rest) => (some (valueOf ds : Int), rest)
    else some (none, c :: rest)
  | [] => some (none, [])

def scan (cs : List Char) : Option (Numeral × List Char) := do
  let (negative, cs) := match cs with
    | '-' :: rest => (true, rest)
    | cs => (false, cs)
  let (whole, cs) ← scanWhole cs
  let (fraction, cs) ← scanFraction cs
  let (exponent, cs) ← scanExponent cs
  return (⟨negative, whole, fraction, exponent⟩, cs)

/-- The numeral has neither fraction nor exponent. -/
def isWhole (n : Numeral) : Bool := n.fraction.isNone && n.exponent.isNone

/-- The number of characters before any fraction or exponent, the sign included. -/
def wholeLength (n : Numeral) : Nat := n.whole.length + if n.negative then 1 else 0

def toInt (n : Numeral) : Int :=
  if n.negative then -(valueOf n.whole : Int) else valueOf n.whole

def toBinary64 (n : Numeral) : Binary64 :=
  let fraction := n.fraction.getD []
  .ofDecimal n.negative (valueOf (n.whole ++ fraction)) (n.exponent.getD 0 - fraction.length)

end Numeral

/-- A number from its displayed text. -/
def Binary64.ofText? (s : String) : Option Binary64 :=
  match s with
  | "nan" => some .nan
  | "inf" => some (.infinite false)
  | "-inf" => some (.infinite true)
  | s =>
    match Numeral.scan s.toList with
    | some (n, []) => some n.toBinary64
    | _ => none

end SqlBuilder
