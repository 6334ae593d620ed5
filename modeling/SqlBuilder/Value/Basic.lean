import SqlBuilder.Enumeration
import SqlBuilder.Number.Binary64

set_option autoImplicit false

namespace SqlBuilder

/-- A text as it was given: as such, or as a member of an enumeration. -/
inductive Text
  | plain (s : String)
  | operator (o : Operator)
  | order (o : SortOrder)
  | kind (k : DriverKind)

/-- The characters of a text, however it was given. -/
def Text.chars : Text → String
  | .plain s => s
  | .operator o => o.spelling
  | .order o => o.spelling
  | .kind k => k.spelling

/-- What stands where a connection's query routine should be. -/
inductive QueryRoutine
  | callable
  | number
  | null
  | absent
  deriving DecidableEq

/-- A value of any type; operations refuse those that they have no use for. -/
inductive Value
  | null
  | bool (b : Bool)
  | int (n : Int)
  | float (x : Binary64)
  | text (t : Text)
  | bytes (bs : List UInt8)
  | list (items : List Value)
  | tuple (items : List Value)
  | map (entries : List (Value × Value))
  /-- A column that is compared by its name and not bound. -/
  | ref (column : Text)
  | connection (name : String) (driver : Option Value) (routine : QueryRoutine)
  /-- An object that has a name and nothing else. -/
  | named (name : Value)
  /-- An object of no particular type. -/
  | object (label : String)
  /-- A builder of queries, which can stand in for a subquery. -/
  | select
  | callback

instance : Inhabited Value := ⟨.null⟩

/-- The entries of a map, in the order in which their keys were first written. -/
abbrev Entries := List (Value × Value)

namespace Value

def str (s : String) : Value := .text (.plain s)

def ofOption {α : Type} (f : α → Value) : Option α → Value
  | some a => f a
  | none => .null

/-- The text of a non-empty text. -/
def fullText? : Value → Option Text
  | .text t => if t.chars = "" then none else some t
  | _ => none

/-- The characters of a non-empty text. -/
def fullString? (v : Value) : Option String := v.fullText?.map Text.chars

def isFullText (v : Value) : Bool := v.fullText?.isSome

/-- An integer; a truth value is none. -/
def int? : Value → Option Int
  | .int n => some n
  | _ => none

def isInt (v : Value) : Bool := v.int?.isSome

def isNumber : Value → Bool
  | .int _ | .float _ => true
  | _ => false

/-- What a condition can bind: a non-empty text or a number. -/
def isScalar (v : Value) : Bool := v.isFullText || v.isNumber

def isNull : Value → Bool
  | .null => true
  | _ => false

def isText : Value → Bool
  | .text _ => true
  | _ => false

/-- What a row can hold: a text, a number or nothing. -/
def isBindable (v : Value) : Bool := v.isNull || v.isText || v.isNumber

def entries? : Value → Option Entries
  | .map entries => some entries
  | _ => none

def isMap (v : Value) : Bool := v.entries?.isSome

/-- A sequence that is not a text or a byte string. -/
def items? : Value → Option (List Value)
  | .list items | .tuple items => some items
  | _ => none

def isRef : Value → Bool
  | .ref _ => true
  | _ => false

/-- A connection tells its driver, whatever that is, and has a query routine. -/
def isConnection : Value → Bool
  | .connection _ driver routine =>
    driver.isSome && (routine == .callable || routine == .number)
  | _ => false

def isSubqueryProvider : Value → Bool
  | .select => true
  | _ => false

/-- Everything counts as true but nothing, zero, and what is empty. -/
def truthy : Value → Bool
  | .null => false
  | .bool b => b
  | .int n => n != 0
  | .float x => !x.isZero
  | .text t => t.chars != ""
  | .bytes bs => !bs.isEmpty
  | .list items | .tuple items => !items.isEmpty
  | .map entries => !entries.isEmpty
  | _ => true

/-- The word for the type of a value in messages. -/
def typeName : Value → String
  | .null => "NoneType"
  | .bool _ => "bool"
  | .int _ => "int"
  | .float _ => "float"
  | .text (.plain _) => "str"
  | .text (.operator _) => Enumeration.title Operator
  | .text (.order _) => Enumeration.title SortOrder
  | .text (.kind _) => Enumeration.title DriverKind
  | .bytes _ => "bytes"
  | .list _ => "list"
  | .tuple _ => "tuple"
  | .map _ => "dict"
  | .ref _ => "Ref"
  | .connection .. => "Connection"
  | .named _ => "Named"
  | .object _ => "Opaque"
  | .select => "Select"
  | .callback => "function"

end Value

end SqlBuilder
