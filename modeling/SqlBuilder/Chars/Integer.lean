import SqlBuilder.Chars.Blank

set_option autoImplicit false

namespace SqlBuilder.Chars

/-- Where the decimal digits of each script begin; the ten digits of a script are consecutive. -/
def digitZeros : List Nat :=
  [0x30, 0x660, 0x6f0, 0x7c0, 0x966, 0x9e6, 0xa66, 0xae6, 0xb66, 0xbe6, 0xc66, 0xce6, 0xd66, 0xde6,
    0xe50, 0xed0, 0xf20, 0x1040, 0x1090, 0x17e0, 0x1810, 0x1946, 0x19d0, 0x1a80, 0x1a90, 0x1b50,
    0x1bb0, 0x1c40, 0x1c50, 0xa620, 0xa8d0, 0xa900, 0xa9d0, 0xa9f0, 0xaa50, 0xabf0, 0xff10, 0x104a0,
    0x10d30, 0x11066, 0x110f0, 0x11136, 0x111d0, 0x112f0, 0x11450, 0x114d0, 0x11650, 0x116c0,
    0x11730, 0x118e0, 0x11950, 0x11c50, 0x11d50, 0x11da0, 0x16a60, 0x16ac0, 0x16b50, 0x1d7ce,
    0x1d7d8, 0x1d7e2, 0x1d7ec, 0x1d7f6, 0x1e140, 0x1e2f0, 0x1e950, 0x1fbf0]

def decimalDigit? (c : Char) : Option Nat :=
  (digitZeros.find? fun first => first ≤ c.toNat && c.toNat < first + 10).map (c.toNat - ·)

def asciiDigit? (c : Char) : Option Nat :=
  if '0' ≤ c && c ≤ '9' then some (c.toNat - '0'.toNat) else none

/-- White space, of which the information separators U+001C to U+001F are no part. -/
def isOuterBlank (c : Char) : Bool := isBlank c && !(28 ≤ c.toNat && c.toNat ≤ 31)

/-- The greatest number of digits that is converted. -/
def digitLimit : Nat := 4300

/-- A run of digits and underscores starts and ends with a digit and has no two underscores meet. -/
def wellSpaced : List Char → Bool
  | [] => false
  | '_' :: _ => false
  | [_] => true
  | _ :: '_' :: rest => wellSpaced rest
  | _ :: rest => wellSpaced rest

/-- What became of a text that should be an integer. -/
inductive IntegerReading
  | value (n : Int)
  | malformed
  | tooLong (digits : Nat)

/-- The sign, if there is one, and what follows it. -/
def takeSign : List Char → Bool × List Char
  | '-' :: rest => (true, rest)
  | '+' :: rest => (false, rest)
  | cs => (false, cs)

/-- Too many digits are noticed before what follows the number is looked at. -/
def readIntegerBy (blank : Char → Bool) (digit? : Char → Option Nat) (cs : List Char) :
    IntegerReading :=
  let (negative, cs) := takeSign (cs.dropWhile blank)
  let inNumber (c : Char) := (digit? c).isSome || c = '_'
  let run := cs.takeWhile inNumber
  let digits := run.filterMap digit?
  if !wellSpaced run then .malformed
  else if digitLimit < digits.length then .tooLong digits.length
  else if (cs.dropWhile inNumber).all blank then
    let n : Nat := digits.foldl (fun n d => 10 * n + d) 0
    .value (if negative then -(n : Int) else n)
  else .malformed

def readInteger : List Char → IntegerReading := readIntegerBy isOuterBlank decimalDigit?

/-- Byte strings know ASCII digits and ASCII white space only. -/
def readAsciiInteger : List Char → IntegerReading := readIntegerBy isAsciiBlank asciiDigit?

end SqlBuilder.Chars
