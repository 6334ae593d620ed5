import SqlBuilder.Sql

set_option autoImplicit false

namespace SqlBuilder

inductive Connective
  | and
  | or
  deriving DecidableEq

def Connective.word : Connective → String
  | .and => "AND"
  | .or => "OR"

/-- What one operation appends to a condition. -/
inductive Token
  | comparison (negated : Bool) (sql : Sql)
  | raw (text : String) (values : List Value)
  | connective (c : Connective)
  | opening
  | closing

namespace Token

def sql : Token → Sql
  | .comparison negated sql => if negated then .literal "NOT " :: sql else sql
  | .raw text values => [.fragment text values]
  | .connective c => [.literal (" " ++ c.word ++ " ")]
  | .opening => [.literal "("]
  | .closing => [.literal ")"]

/-- How the token changes the depth of open parentheses. -/
def rise : Token → Int
  | .opening => 1
  | .closing => -1
  | _ => 0

/-- The depth that tokens leave, one after the other. -/
def depth : List Token → Int
  | [] => 0
  | t :: rest => t.rise + depth rest

theorem depth_append (front back : List Token) :
    depth (front ++ back) = depth front + depth back := by
  induction front with
  | nil => simp [depth]
  | cons t rest ih =>
    rw [List.cons_append, depth, depth, ih]
    omega

end Token

end SqlBuilder
