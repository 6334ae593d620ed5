import SqlBuilder.Chars.Integer
import SqlBuilder.Error
import SqlBuilder.Value.Iteration

set_option autoImplicit false

namespace SqlBuilder.Value

/-- The item at a position of a sequence or under a key of a map. -/
def item (container key : Value) : Except Error Value :=
  match container with
  | .map entries =>
    match Entries.get? key entries with
    | some v => .ok v
    | none => .error (.item (.noKey key))
  | container =>
    match container.iterate? with
    | some items => at_ items
    | none => .error (.item (.noItems container))
where
  at_ (items : List Value) : Except Error Value :=
    match key with
    | .int n =>
      match if n < 0 then none else items[n.toNat]? with
      | some v => .ok v
      | none => .error (.item (.outOfRange container))
    | key => .error (.item (.keyType container key))

/-- The integer that was read from a value's text. -/
def ofReading (source : Value) : Chars.IntegerReading → Except Error Int
  | .value n => .ok n
  | .malformed => .error (.integer (.literal source))
  | .tooLong digits => .error (.integer (.tooLong digits))

/-- Numbers lose their fraction; texts and byte strings are read as decimal integers. -/
def toInteger : Value → Except Error Int
  | .bool b => .ok (if b then 1 else 0)
  | .int n => .ok n
  | .float .nan => .error (.integer .nan)
  | .float x => (x.truncate?.map .ok).getD (.error (.integer .infinite))
  | .text t => ofReading (.text t) (Chars.readInteger t.chars.toList)
  | .bytes bs =>
    ofReading (.bytes bs) (Chars.readAsciiInteger (bs.map fun b => Char.ofNat b.toNat))
  | v => .error (.integer (.type v))

/-- The decimal text of an integer, up to a number of digits. -/
def integerText (n : Int) : Except Error String :=
  if Chars.digitLimit < (Nat.toDigits 10 n.natAbs).length then .error (.integer .unwritable)
  else .ok (toString n)

end SqlBuilder.Value
