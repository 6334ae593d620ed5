import SqlBuilder.Number.Places
import SqlBuilder.Template.Arguments
import SqlBuilder.Value.Integer

set_option autoImplicit false

namespace SqlBuilder

/-- A converted argument: its sign and the mark of its base stand before any zeros that fill it. -/
structure Converted where
  numeric : Bool
  sign : String
  mark : String
  body : String

namespace Converted

def ofText (s : String) : Converted := ⟨false, "", "", s⟩

/-- The whole text in a field of the given width. -/
def inField (left zeroed : Bool) (width : Nat) (c : Converted) : String :=
  let size := c.sign.length + c.mark.length + c.body.length
  let fill (pad : Char) := String.ofList (List.replicate (width - size) pad)
  if left then c.sign ++ c.mark ++ c.body ++ fill ' '
  else if zeroed && c.numeric then c.sign ++ c.mark ++ fill '0' ++ c.body
  else fill ' ' ++ c.sign ++ c.mark ++ c.body

end Converted

namespace Directive

/-- The sign of a number under the flags of a directive. -/
def signText (d : Directive) (negative : Bool) : String :=
  if negative then "-" else if d.isSigned then "+" else if d.isSpaced then " " else ""

def truncated (precision : Option Nat) (s : String) : Converted :=
  .ofText (match precision with
    | some n => String.ofList (s.toList.take n)
    | none => s)

/-- The quoted form with an escape for every character beyond ASCII. -/
def asciiText (s : String) : String :=
  String.ofList (s.toList.flatMap fun c =>
    if c.toNat < 0x80 then [c] else Chars.escapeCodePoint c.toNat)

def zeroFilled (precision : Option Nat) (digits : String) : String :=
  String.ofList (List.replicate (precision.getD 0 - digits.length) '0') ++ digits

/-- An integer in decimal; a real number loses its fraction. -/
def decimal (d : Directive) (letter : Char) (precision : Option Nat) (v : Value) :
    Except Error Converted :=
  match v with
  | .int _ | .bool _ | .float _ => do
    let n ← v.toInteger
    let digits ← Value.integerText n.natAbs
    return ⟨true, d.signText (n < 0), "", zeroFilled precision digits⟩
  | v => .error (.template (.notNumber letter v))

/-- An integer in another base, whose mark is a zero and the letter. -/
def based (d : Directive) (base : Nat) (letter : Char) (precision : Option Nat) (v : Value) :
    Except Error Converted :=
  match v.intLike? with
  | some n =>
    let digits := String.ofList (Nat.toDigits base n.natAbs)
    let shown := zeroFilled precision (if letter = 'X' then digits.toUpper else digits)
    .ok ⟨true, d.signText (n < 0), if d.isFull then "0" ++ letter.toString else "", shown⟩
  | none => .error (.template (.notInteger letter v))

def toReal : Value → Except Error Binary64
  | .float x => .ok x
  | v =>
    match v.intLike? with
    | none => .error (.template (.notReal v))
    | some n => ((Binary64.ofInt? n).map .ok).getD (.error (.template .tooLargeForReal))

/-- A real number has six digits behind the point, or in all, when nothing else is asked for. -/
def real (d : Directive) (style : RealStyle) (capital : Bool) (precision : Option Nat) (v : Value) :
    Except Error Converted :=
  (toReal v).map fun x =>
    let shown := x.inStyle style (precision.getD 6) d.isFull
    ⟨true, d.signText x.isNegative, "", if capital then shown.toUpper else shown⟩

/-- A character is given by itself or by its number. -/
def character (v : Value) : Except Error Converted :=
  match v with
  | .text t =>
    if t.chars.length = 1 then .ok (.ofText t.chars) else .error (.template .notCharacter)
  | v =>
    match v.intLike? with
    | none => .error (.template .notCharacter)
    | some n =>
      if 0 ≤ n ∧ n < 0x110000 then .ok (.ofText (Char.ofNat n.toNat).toString)
      else .error (.template .characterRange)

/-- What the letter at place `index` of the template makes of a value. -/
def convert (d : Directive) (letter : Char) (index : Nat) (precision : Option Nat) (v : Value) :
    Except Error Converted :=
  match letter with
  | 's' => v.shown.map (truncated precision)
  | 'r' => .ok (truncated precision v.repr)
  | 'a' => .ok (truncated precision (asciiText v.repr))
  | 'c' => character v
  | 'd' | 'i' | 'u' => d.decimal letter precision v
  | 'o' => d.based 8 letter precision v
  | 'x' | 'X' => d.based 16 letter precision v
  | 'f' => d.real .positional false precision v
  | 'F' => d.real .positional true precision v
  | 'e' => d.real .scientific false precision v
  | 'E' => d.real .scientific true precision v
  | 'g' => d.real .general false precision v
  | 'G' => d.real .general true precision v
  | letter => .error (.template (.unknown letter index))

end Directive

end SqlBuilder
