import SqlBuilder.Condition.Token
import SqlBuilder.Select.Basic

set_option autoImplicit false

namespace SqlBuilder

/-- A parameter of a callback. -/
inductive Parameter
  | positional
  | rest
  | keyword
  | keywordRest
  deriving DecidableEq

/-- A callback receives the condition when it can take two positional arguments. -/
def acceptsCondition : Option (List Parameter) → Bool
  | none => false
  | some parameters => parameters.contains .rest || 2 ≤ parameters.count .positional

inductive Comparison
  | equal
  | lessThan
  | lessThanOrEqual
  | greaterThan
  | greaterThanOrEqual
  deriving DecidableEq

def Comparison.sign : Comparison → String
  | .equal => "="
  | .lessThan => "<"
  | .lessThanOrEqual => "<="
  | .greaterThan => ">"
  | .greaterThanOrEqual => ">="

inductive Quantifier
  | any
  | all
  deriving DecidableEq

def Quantifier.keyword : Quantifier → String
  | .any => "ANY"
  | .all => "ALL"

/-- What a query holds that is no operation, so that it cannot be called. -/
inductive QueryProperty
  | connection
  | config
  | dialect
  deriving DecidableEq

mutual

/-- A call on a condition. -/
inductive ConditionCall
  | col (name : Value)
  | raw (fragment : Value) (values : List Value)
  | negate
  | openGroup
  | closeGroup
  | toggleGroup
  | connect (c : Connective)
  | compare (comparison : Comparison) (operand : Value)
  | like (pattern : Value)
  | between (low high : Value)
  | oneOf (values : List Value)
  | isNull
  | inPart (part : DatePart) (value : Value)
  | inSubquery (query : Subquery)
  | existsIn (query : Subquery)
  | quantified (quantifier : Quantifier) (operator : Value) (query : Subquery)
  | apply (predicate : Predicate)
  /-- Makes the call and goes on behind its failure. -/
  | attempt (call : ConditionCall)
  | check
  /-- Calls the bound values, which are no operation. -/
  | values
  | unknown (name : String)
  /-- The callback fails here by itself, before selecting a column or before a call. -/
  | abort (selecting : Bool) (reason : Error)

/-- What is given where the callback of a condition belongs. -/
inductive Predicate
  | callback (parameters : Option (List Parameter)) (calls : List ConditionCall)
  | other (v : Value)

/-- What is given where the callback of a subquery belongs. -/
inductive Subquery
  | callback (calls : List SelectCall)
  | other (v : Value)

/-- A call on the `WHERE` clause of a statement. -/
inductive FilterCall
  | extend (predicate : Predicate)
  | connect (c : Connective)
  | openGroup
  | closeGroup
  | toggleGroup

/-- A call that builds a query. -/
inductive SelectCall
  | table (name : Value)
  | columns (names : List Value)
  | distinct
  | limit (count : Value)
  | offset (count : Value)
  | join (kind : JoinKind) (table : Value) (on : Predicate)
  | filter (call : FilterCall)
  | groupBy (columns : List Value)
  | having (predicate : Predicate)
  | orderBy (column order : Value)
  | union (all : Bool) (query : Subquery)
  /-- Makes the call and goes on behind its failure. -/
  | attempt (call : SelectCall)
  | reset
  | logSql
  | logValues
  | check
  | parse
  /-- Reads the query, or asks for it to be sent later. -/
  | idle
  | property (p : QueryProperty)
  | unknown (name : String)
  | abort (reason : Error)

end

end SqlBuilder
