import SqlBuilder.Condition.Token

set_option autoImplicit false

namespace SqlBuilder

/-- A condition as the tokens that its operations appended, with the negation that is pending and
the column in use. -/
structure Condition where
  tokens : List Token
  negating : Bool
  column : Option String

namespace Condition

def blank : Condition := ⟨[], false, none⟩

def sql (c : Condition) : Sql := c.tokens.flatMap Token.sql

def values (c : Condition) : List Value := c.sql.values

def depth (c : Condition) : Int := Token.depth c.tokens

/-- The joined text without white space at its ends. -/
def text (c : Condition) : String := Chars.trimText c.sql.text

def push (t : Token) (c : Condition) : Condition := { c with tokens := c.tokens ++ [t] }

@[simp] theorem sql_push (t : Token) (c : Condition) : (c.push t).sql = c.sql ++ t.sql := by
  simp [push, sql]

@[simp] theorem values_push (t : Token) (c : Condition) :
    (c.push t).values = c.values ++ t.sql.values := by
  simp [values]

@[simp] theorem depth_push (t : Token) (c : Condition) : (c.push t).depth = c.depth + t.rise := by
  simp [push, depth, Token.depth_append, Token.depth]

/-- Pushes a comparison, which takes up a pending negation. -/
def compare (sql : Sql) (c : Condition) : Condition :=
  { c.push (.comparison c.negating sql) with negating := false }

def openGroup (c : Condition) : Condition := c.push .opening

def closeGroup (c : Condition) : Condition := c.push .closing

/-- Opens a parenthesis when none is open, and closes one otherwise. -/
def toggleGroup (c : Condition) : Condition := if c.depth = 0 then c.openGroup else c.closeGroup

/-- The condition as messages show it. -/
def repr (c : Condition) : String := "Condition(" ++ Chars.quoted c.text ++ ")"

/-- Runs `next` with the selected column, and refuses when there is none. -/
def withColumn (c : Condition) (next : String → Except Error Condition) :
    Except Error Condition :=
  match c.column with
  | some column => next column
  | none => .error (.invalid .column .null)

/-- An operand: a reference stands for its column, any other value takes a placeholder. -/
def operand : Value → Piece
  | .ref column => .literal column.chars
  | v => .slot v

def isOperand (v : Value) : Bool := v.isRef || v.isScalar

def isTextOperand (v : Value) : Bool := v.isRef || v.isFullText

def select (name : Value) (c : Condition) : Except Error Condition :=
  match name.fullString? with
  | some column => .ok { c with column := some column }
  | none => .error (.invalid .columnName name)

def addRaw (fragment : Value) (values : List Value) (c : Condition) : Except Error Condition :=
  match fragment.fullString? with
  | none => .error (.invalid .fragment fragment)
  | some text =>
    match values.find? fun v => !v.isScalar with
    | some v => .error (.invalid .fragmentValue v)
    | none => .ok (c.push (.raw text values))

/-- Compares the column with one operand of the given form. -/
def compareWith (sign : String) (part : Part) (accepts : Value → Bool) (v : Value)
    (c : Condition) : Except Error Condition :=
  c.withColumn fun column =>
    if accepts v then .ok (c.compare [.literal (column ++ " " ++ sign ++ " "), operand v])
    else .error (.invalid part v)

def between (low high : Value) (c : Condition) : Except Error Condition :=
  c.withColumn fun column =>
    if !isOperand low then .error (.invalid .lowerBound low)
    else if !isOperand high then .error (.invalid .upperBound high)
    else
      .ok (c.compare
        [.literal (column ++ " BETWEEN "), operand low, .literal " AND ", operand high])

def oneOf (values : List Value) (c : Condition) : Except Error Condition :=
  c.withColumn fun column =>
    if values.isEmpty then .error (.query .noChoices)
    else
      match values.find? fun v => !isOperand v with
      | some v => .error (.invalid .operand v)
      | none =>
        .ok (c.compare (.literal (column ++ " IN (") ::
          Sql.joinWith ", " (values.map fun v => [operand v]) ++ [.literal ")"]))

def isNull (c : Condition) : Except Error Condition :=
  c.withColumn fun column => .ok (c.compare [.literal (column ++ " IS NULL")])

/-- A whole date or time is compared with a text, a part of it with a number in its range. -/
def acceptsPart (part : DatePart) (v : Value) : Bool :=
  match part with
  | .date | .time => isTextOperand v
  | part => v.isRef || (v.int?.map part.admits).getD false

def comparePart (kind : DriverKind) (part : DatePart) (column : String) (v : Value)
    (c : Condition) : Condition :=
  c.compare [.extract kind part column, .literal " = ", operand v]

end Condition

end SqlBuilder
