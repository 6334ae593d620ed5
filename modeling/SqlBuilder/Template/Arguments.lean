import SqlBuilder.Error
import SqlBuilder.Template.Directive
import SqlBuilder.Value.Mapping

set_option autoImplicit false

namespace SqlBuilder

inductive Arguments
  | inTurn (rest : List Value)
  | named (entries : Entries) (next : Option Value)

namespace Arguments

def ofMap (entries : Entries) : Arguments := .named entries (some (.map entries))

/-- A map that is not empty and stands alone names its values. -/
def ofList : List Value → Arguments
  | [.map (entry :: rest)] => ofMap (entry :: rest)
  | args => .inTurn args

def next : Arguments → Except Error (Value × Arguments)
  | .inTurn (v :: rest) => .ok (v, .inTurn rest)
  | .named entries (some v) => .ok (v, .named entries none)
  | _ => .error (.template .exhausted)

/-- Makes the argument of a directive the next one. -/
def select (selector : Selector) (args : Arguments) : Except Error Arguments :=
  match selector, args with
  | .next, args => .ok args
  | _, .inTurn _ => .error (.template .needsMap)
  | .unclosed, .named .. => .error (.template .incompleteKey)
  | .named key, .named entries _ =>
    match entries.get? (.str key) with
    | some v => .ok (.named entries (some v))
    | none => .error (.item (.noKey (.str key)))

/-- Arguments in turn must all be taken. -/
def isSpent : Arguments → Bool
  | .inTurn rest => rest.isEmpty
  | .named .. => true

/-- Widths and positions fit in a signed word of 64 bits. -/
def wordLimit : Nat := Nat.pow 2 63

/-- Precisions fit in a signed word of 32 bits. -/
def halfWordLimit : Nat := Nat.pow 2 31

/-- The argument that tells a width or a precision. -/
def nextCount (limit : Nat) (beyond : TemplateFault) (args : Arguments) :
    Except Error (Int × Arguments) := do
  let (v, args) ← args.next
  match v.intLike? with
  | none => throw (.template .notCount)
  | some n =>
    if -(limit : Int) ≤ n ∧ n < limit then return (n, args) else throw (.template beyond)

/-- A width; a negative one asks for the left side, which is the first part of the answer. -/
def takeWidth (width : Extent) (args : Arguments) : Except Error ((Bool × Nat) × Arguments) :=
  match width with
  | .unset => .ok ((false, 0), args)
  | .written n =>
    if n < wordLimit then .ok ((false, n), args) else .error (.template .widthTooLarge)
  | .argument =>
    (args.nextCount wordLimit .widthBeyondWord).map fun (n, args) => ((n < 0, n.natAbs), args)

/-- A precision; a negative one is zero. -/
def takePrecision (precision : Extent) (args : Arguments) :
    Except Error (Option Nat × Arguments) :=
  match precision with
  | .unset => .ok (none, args)
  | .written n =>
    if n < halfWordLimit then .ok (some n, args) else .error (.template .precisionTooLarge)
  | .argument =>
    (args.nextCount halfWordLimit .precisionBeyondWord).map fun (n, args) => (some n.toNat, args)

end Arguments

end SqlBuilder
