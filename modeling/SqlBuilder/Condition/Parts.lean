import SqlBuilder.Condition.Grammar
import SqlBuilder.Outcome

set_option autoImplicit false

namespace SqlBuilder.Condition

/-- A condition as its operations change it, part by part. -/
structure Parts where
  stack : List String
  values : List Value
  negating : Bool
  opened : Int
  /-- The null value until a column is selected. -/
  column : Value

/-- A condition at work, with the notices that have been given. -/
structure Work where
  parts : Parts
  notices : List Notice

/-- Steps on the parts of a condition; what is written before a failure stays written. -/
abbrev WorkM := EStateM Error Work

namespace Parts

def blank : Parts := ⟨[], [], false, 0, .null⟩

/-- The joined fragments without white space at their ends. -/
def text (p : Parts) : String := Chars.trimText (String.join p.stack)

def repr (p : Parts) : String := "Condition(" ++ Chars.quoted p.text ++ ")"

def build (p : Parts) : Except Error String :=
  match faultIn p.opened p.text.toList with
  | some fault => .error (.grammar fault)
  | none => .ok p.text

end Parts

namespace Work

def update (f : Parts → Parts) : WorkM Unit := modify fun w => { w with parts := f w.parts }

def notify (notices : List Notice) : WorkM Unit :=
  modify fun w => { w with notices := w.notices ++ notices }

def require (accepted : Bool) (e : Error) : WorkM Unit := if accepted then pure () else throw e

def requireColumn : WorkM String := do
  let column := (← get).parts.column
  match column.fullString? with
  | some name => return name
  | none => throw (.invalid .column column)

/-- What an operand is written as; any but a reference is bound. -/
def bindOperand : Value → WorkM String
  | .ref column => return column.chars
  | v => do
    update fun p => { p with values := p.values ++ [v] }
    return "?"

def append (fragment : String) : WorkM Unit :=
  update fun p => { p with stack := p.stack ++ [fragment] }

/-- Appends a fragment, which takes up a pending negation. -/
def push (fragment : String) : WorkM Unit := do
  let negation := if (← get).parts.negating then "NOT " else ""
  append (negation ++ fragment)
  update fun p => { p with negating := false }

def openGroup : WorkM Unit := do
  append "("
  update fun p => { p with opened := p.opened + 1 }

def closeGroup : WorkM Unit := do
  append ")"
  update fun p => { p with opened := p.opened - 1 }

def toggleGroup : WorkM Unit := do
  if (← get).parts.opened = 0 then openGroup else closeGroup

def select (name : Value) : WorkM Unit :=
  match name.fullString? with
  | some _ => update fun p => { p with column := name }
  | none => throw (.invalid .columnName name)

def addRaw (fragment : Value) (values : List Value) : WorkM Unit :=
  match fragment.fullString? with
  | none => throw (.invalid .fragment fragment)
  | some text => do
    values.forM fun v => require v.isScalar (.invalid .fragmentValue v)
    update fun p => { p with values := p.values ++ values }
    append text

/-- Compares the column with one operand of the given form. -/
def compareWith (sign : String) (part : Part) (accepts : Value → Bool) (v : Value) :
    WorkM Unit := do
  let column ← requireColumn
  require (accepts v) (.invalid part v)
  let operand ← bindOperand v
  push (column ++ " " ++ sign ++ " " ++ operand)

def between (low high : Value) : WorkM Unit := do
  let column ← requireColumn
  require (isOperand low) (.invalid .lowerBound low)
  require (isOperand high) (.invalid .upperBound high)
  let first ← bindOperand low
  let last ← bindOperand high
  push (column ++ " BETWEEN " ++ first ++ " AND " ++ last)

def oneOf (values : List Value) : WorkM Unit := do
  let column ← requireColumn
  require (!values.isEmpty) (.query .noChoices)
  values.forM fun v => require (isOperand v) (.invalid .operand v)
  let operands ← values.mapM bindOperand
  push (column ++ " IN (" ++ ", ".intercalate operands ++ ")")

def isNull : WorkM Unit := do
  let column ← requireColumn
  push (column ++ " IS NULL")

/-- The grammar of a condition is checked, and its text put aside. -/
def check : WorkM Unit := do
  let _ ← MonadExcept.ofExcept (← get).parts.build

end Work

end SqlBuilder.Condition
