import SqlBuilder.Call.Run
import SqlBuilder.Condition.Parts

set_option autoImplicit false

namespace SqlBuilder

open Condition (WorkM)
open Condition.Work

/-- Selects the dialect of the driver for a date part, and gives notice of it. -/
def Condition.Work.comparePart (o : Owner) (part : DatePart) (v : Value) : WorkM Unit := do
  let column ← requireColumn
  require (Condition.acceptsPart part v) (.invalid (.datePart part) v)
  let kind ← MonadExcept.ofExcept o.driver.kind
  notify [.dialect kind]
  let operand ← bindOperand v
  push (kind.extract part column ++ " = " ++ operand)

/-- The text of a finished subquery, whose values are bound. -/
def Subquery.text (o : Owner) : Subquery → WorkM String
  | .other v => throw (.invalid .subquery v)
  | .callback calls =>
    match o.provider with
    | some v => throw (.query (.unusable .provider v))
    | none => do
      let built := SelectCall.runAll o.driver calls .empty
      notify built.notices
      let query ← MonadExcept.ofExcept built.result
      let sql ← MonadExcept.ofExcept query.render
      update fun p => { p with values := p.values ++ query.values }
      return sql.text

mutual

/-- A call on a condition, as a sequence of steps on its parts. -/
def ConditionCall.perform (o : Owner) : ConditionCall → WorkM Unit
  | .col name => select name
  | .raw fragment values => addRaw fragment values
  | .negate => update fun p => { p with negating := true }
  | .openGroup => openGroup
  | .closeGroup => closeGroup
  | .toggleGroup => toggleGroup
  | .connect w => append (" " ++ w.word ++ " ")
  | .compare s v => compareWith s.sign .operand Condition.isOperand v
  | .like v => compareWith "LIKE" .operand Condition.isTextOperand v
  | .between low high => between low high
  | .oneOf values => oneOf values
  | .isNull => isNull
  | .inPart part v => comparePart o part v
  | .inSubquery query => do
    let column ← requireColumn
    let sql ← query.text o
    push (column ++ " IN (" ++ sql ++ ")")
  | .existsIn query => do
    let sql ← query.text o
    push ("EXISTS (" ++ sql ++ ")")
  | .quantified quantifier operator query => do
    let column ← requireColumn
    match operator with
    | .text (.operator sign) => do
      let sql ← query.text o
      push (column ++ " " ++ sign.spelling ++ " " ++ quantifier.keyword ++ " (" ++ sql ++ ")")
    | operator => throw (.invalid .operator operator)
  | .apply predicate => predicate.perform o
  | .attempt call => tryCatch (call.perform o) fun _ => pure ()
  | .check => check
  | .values => do throw (.notCallable (Value.list (← get).parts.values).typeName)
  | .unknown name => throw (.noAttribute "Condition" name)
  | .abort _ reason => throw reason

/-- Performs the calls of a callback; `held` tells whether it already has a condition to call. -/
def ConditionCall.performAll (o : Owner) : Bool → List ConditionCall → WorkM Unit
  | _, [] => pure ()
  | held, call :: rest =>
    if held || call.standsAlone then do
      call.perform o
      ConditionCall.performAll o true rest
    else throw .noCondition

def Predicate.perform (o : Owner) : Predicate → WorkM Unit
  | .callback parameters calls => ConditionCall.performAll o (acceptsCondition parameters) calls
  | .other v => throw (.notCallable v.typeName)

end

end SqlBuilder
