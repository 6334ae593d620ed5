import SqlBuilder.Chars.Base64
import SqlBuilder.Error

set_option autoImplicit false

namespace SqlBuilder.Json

def escapeChar (c : Char) : List Char :=
  if c = '"' then ['\\', '"']
  else if c = '\\' then ['\\', '\\']
  else if c = '\x08' then ['\\', 'b']
  else if c = '\x0c' then ['\\', 'f']
  else if c = '\n' then ['\\', 'n']
  else if c = '\r' then ['\\', 'r']
  else if c = '\t' then ['\\', 't']
  else if c.toNat < 0x20 then '\\' :: 'u' :: Chars.hex 4 c.toNat
  else [c]

def writeChars (cs : List Char) : List Char := '"' :: cs.flatMap escapeChar ++ ['"']

def writeText (s : String) : List Char := writeChars s.toList

def writeInt (n : Int) : List Char := (toString n).toList

/-- The text of a finite number. -/
def finiteText? : Binary64 → Option String
  | .finite negative x => some (Layout.exchanged.renderMagnitude negative x)
  | _ => none

def writeFloat (x : Binary64) : List Char := ((finiteText? x).getD "null").toList

/-- Keys are texts; a number becomes the text of itself. -/
def writeKey : Value → List Char
  | .int n => '"' :: writeInt n ++ ['"']
  | .float x => writeText ((finiteText? x).getD x.display)
  | .bytes bs => '"' :: Chars.base64 bs ++ ['"']
  | v => writeText v.display

mutual

def write : Value → List Char
  | .null => "null".toList
  | .bool true => "true".toList
  | .bool false => "false".toList
  | .int n => writeInt n
  | .float x => writeFloat x
  | .text t => writeText t.chars
  | .bytes bs => '"' :: Chars.base64 bs ++ ['"']
  | .list items | .tuple items => '[' :: writeItems items ++ [']']
  | .map entries => '\x7b' :: writeMembers entries ++ ['\x7d']
  | v => writeText v.display

def writeItems : List Value → List Char
  | [] => []
  | v :: rest => write v ++ writeFurther rest

/-- Items after the first, each with a comma before it. -/
def writeFurther : List Value → List Char
  | [] => []
  | v :: rest => ',' :: (write v ++ writeFurther rest)

def writeMembers : List (Value × Value) → List Char
  | [] => []
  | (key, v) :: rest => writeKey key ++ ':' :: (write v ++ writeFurtherMembers rest)

def writeFurtherMembers : List (Value × Value) → List Char
  | [] => []
  | (key, v) :: rest => ',' :: (writeKey key ++ ':' :: (write v ++ writeFurtherMembers rest))

end

mutual

/-- Somewhere in the value stands a query, which would have to be shown as its SQL. -/
def holdsQuery : Value → Bool
  | .select => true
  | .list items | .tuple items => anyHoldsQuery items
  | .map entries => anyEntryHoldsQuery entries
  | _ => false

def anyHoldsQuery : List Value → Bool
  | [] => false
  | v :: rest => holdsQuery v || anyHoldsQuery rest

def anyEntryHoldsQuery : List (Value × Value) → Bool
  | [] => false
  | (key, v) :: rest => holdsQuery key || holdsQuery v || anyEntryHoldsQuery rest

end

def encode (v : Value) : Except Error String :=
  if holdsQuery v then .error .unrendered else .ok (String.ofList (write v))

end SqlBuilder.Json
