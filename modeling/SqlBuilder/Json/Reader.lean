import SqlBuilder.Json.Codec
import SqlBuilder.Json.Escape
import SqlBuilder.Json.Writer
import SqlBuilder.Number.Numeral
import SqlBuilder.Value.Mapping

set_option autoImplicit false

namespace SqlBuilder.Json

/-- What was read, or the fault of a malformed text. -/
def orMalformed {α : Type} : Option α → Except ReadFault α
  | some a => .ok a
  | none => .error .malformed

def isSpace (c : Char) : Bool := c = ' ' || c = '\t' || c = '\n' || c = '\r'

def skip (cs : List Char) : List Char := cs.dropWhile isSpace

def readUnit : List Char → Option (Nat × List Char)
  | a :: b :: c :: d :: rest => (unit? [a, b, c, d]).map fun n => (n, rest)
  | _ => none

/-- The character that one unit stands for, or that two surrogate units stand for together. -/
def readEscapedUnit (cs : List Char) : Option (Char × List Char) := do
  let (high, rest) ← readUnit cs
  if 0xd800 ≤ high ∧ high < 0xdc00 then
    match rest with
    | '\\' :: 'u' :: rest =>
      let (low, rest) ← readUnit rest
      if 0xdc00 ≤ low ∧ low < 0xe000 then
        return (Char.ofNat (0x10000 + (high - 0xd800) * 0x400 + (low - 0xdc00)), rest)
      else none
    | _ => none
  else if 0xdc00 ≤ high ∧ high < 0xe000 then none
  else return (Char.ofNat high, rest)

/-- The characters up to the closing quotation mark. The first argument bounds their number. -/
def readChars : Nat → List Char → Option (List Char × List Char)
  | 0, _ => none
  | _ + 1, [] => none
  | _ + 1, '"' :: rest => some ([], rest)
  | fuel + 1, '\\' :: 'u' :: rest => do
    let (c, rest) ← readEscapedUnit rest
    let (cs, rest) ← readChars fuel rest
    return (c :: cs, rest)
  | fuel + 1, '\\' :: e :: rest => do
    let c ← shortEscape? e
    let (cs, rest) ← readChars fuel rest
    return (c :: cs, rest)
  | fuel + 1, c :: rest =>
    if c.toNat < 0x20 || c = '\\' then none
    else do
      let (cs, rest) ← readChars fuel rest
      return (c :: cs, rest)

/-- A quoted text, its opening quotation mark included. -/
def readText : List Char → Option (String × List Char)
  | '"' :: rest => (readChars (rest.length + 1) rest).map fun (cs, rest) => (String.ofList cs, rest)
  | _ => none

/-- The greatest length of an integer. -/
def integerLimit : Nat := 4300

def readNumber (cs : List Char) : Except ReadFault (Value × List Char) := do
  let (n, rest) ← orMalformed (Numeral.scan cs)
  if n.isWhole then
    if integerLimit < n.wholeLength then throw .outOfRange else return (.int n.toInt, rest)
  match n.toBinary64 with
  | .finite negative x => return (.float (.finite negative x), rest)
  | _ => throw .outOfRange

def readWord (word : String) (v : Value) (cs : List Char) : Except ReadFault (Value × List Char) :=
  if word.toList.isPrefixOf cs then .ok (v, cs.drop word.length) else .error .malformed

/-- The greatest number of lists and maps that stand inside each other. -/
def depthLimit : Nat := 994

mutual

/-- A value at the front of the text, in which `depth` more lists and maps may stand inside each
other. The first argument bounds the reading. -/
def readValue : Nat → Nat → List Char → Except ReadFault (Value × List Char)
  | 0, _, _ => .error .malformed
  | fuel + 1, depth, cs =>
    match cs with
    | '[' :: rest =>
      match depth with
      | 0 => .error .tooDeep
      | depth + 1 =>
        match skip rest with
        | ']' :: rest => .ok (.list [], rest)
        | rest => (readItems fuel depth rest).map fun (items, rest) => (.list items, rest)
    | '\x7b' :: rest =>
      match depth with
      | 0 => .error .tooDeep
      | depth + 1 =>
        match skip rest with
        | '\x7d' :: rest => .ok (.map [], rest)
        | rest => (readMembers fuel depth rest).map fun (pairs, rest) => (.ofPairs pairs, rest)
    | '"' :: _ => (orMalformed (readText cs)).map fun (s, rest) => (.str s, rest)
    | 'n' :: _ => readWord "null" .null cs
    | 't' :: _ => readWord "true" (.bool true) cs
    | 'f' :: _ => readWord "false" (.bool false) cs
    | _ => readNumber cs

/-- The items of a list that has at least one, up to the closing bracket. -/
def readItems : Nat → Nat → List Char → Except ReadFault (List Value × List Char)
  | 0, _, _ => .error .malformed
  | fuel + 1, depth, cs => do
    let (v, rest) ← readValue fuel depth (skip cs)
    match skip rest with
    | ',' :: rest =>
      let (vs, rest) ← readItems fuel depth rest
      return (v :: vs, rest)
    | ']' :: rest => return ([v], rest)
    | _ => throw .malformed

/-- The members of a map that has at least one, up to the closing brace. -/
def readMembers : Nat → Nat → List Char → Except ReadFault (List (Value × Value) × List Char)
  | 0, _, _ => .error .malformed
  | fuel + 1, depth, cs => do
    let (key, rest) ← orMalformed (readText (skip cs))
    match skip rest with
    | ':' :: rest =>
      let (v, rest) ← readValue fuel depth (skip rest)
      match skip rest with
      | ',' :: rest =>
        let (pairs, rest) ← readMembers fuel depth rest
        return ((.str key, v) :: pairs, rest)
      | '\x7d' :: rest => return ([(.str key, v)], rest)
      | _ => throw .malformed
    | _ => throw .malformed

end

/-- The value of a whole text, in which `depth` lists and maps may stand inside each other. -/
def readWithin (depth : Nat) (cs : List Char) : Except ReadFault Value := do
  let (v, rest) ← readValue (2 * cs.length + 2) depth (skip cs)
  if (skip rest).isEmpty then return v else throw .malformed

/-- The codec with the limits of a reader that calls itself for lists and maps. -/
def limitedCodec : Codec := ⟨encode, fun s => readWithin depthLimit s.toList⟩

/-- The codec whose reader has room for whatever a text holds. -/
def roomyCodec : Codec := ⟨encode, fun s => readWithin s.length s.toList⟩

end SqlBuilder.Json
