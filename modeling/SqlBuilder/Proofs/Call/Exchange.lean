import Mathlib.Data.List.Forall2
import SqlBuilder.Builder

set_option autoImplicit false

namespace SqlBuilder

section

variable (R : Value → Value → Prop)

/-- A value that is admitted is exchanged for a related one that is; any other value stays. -/
def Value.Exchanged (admits : Value → Bool) (v w : Value) : Prop :=
  if admits v then admits w = true ∧ R v w else w = v

/-- What a date part binds: a text for a whole date or time, a number in range for a part. -/
def DatePart.binds (part : DatePart) (v : Value) : Bool :=
  match part with
  | .date | .time => v.isFullText
  | part => (v.int?.map part.admits).getD false

/-- What a row binds: a text or a number. -/
def Value.isCell (v : Value) : Bool := v.isText || v.isNumber

/-- The same columns in the same order, with exchanged values. -/
def Entries.Exchanged : Entries → Entries → Prop :=
  List.Forall₂ fun entry other => other.1 = entry.1 ∧ entry.2.Exchanged R Value.isCell other.2

def Value.RowExchanged : Value → Value → Prop
  | .map entries, w => ∃ others, w = .map others ∧ Entries.Exchanged R entries others
  | v, w => w = v

def Value.RowsExchanged : Value → Value → Prop
  | .list rows, w => ∃ others, w = .list others ∧ List.Forall₂ (Value.RowExchanged R) rows others
  | .tuple rows, w => ∃ others, w = .tuple others ∧ List.Forall₂ (Value.RowExchanged R) rows others
  | v, w => w = v

mutual

def ConditionCall.Exchanged : ConditionCall → ConditionCall → Prop
  | .raw fragment values, other =>
    ∃ others, other = .raw fragment others ∧
      List.Forall₂ (Value.Exchanged R Value.isScalar) values others
  | .compare s v, other => ∃ w, other = .compare s w ∧ v.Exchanged R Value.isScalar w
  | .like v, other => ∃ w, other = .like w ∧ v.Exchanged R Value.isFullText w
  | .between low high, other =>
    ∃ low' high', other = .between low' high' ∧ low.Exchanged R Value.isScalar low' ∧
      high.Exchanged R Value.isScalar high'
  | .oneOf values, other =>
    ∃ others, other = .oneOf others ∧
      List.Forall₂ (Value.Exchanged R Value.isScalar) values others
  | .inPart part v, other => ∃ w, other = .inPart part w ∧ v.Exchanged R part.binds w
  | .inSubquery query, other => ∃ query', other = .inSubquery query' ∧ query.Exchanged query'
  | .existsIn query, other => ∃ query', other = .existsIn query' ∧ query.Exchanged query'
  | .quantified quantifier operator query, other =>
    ∃ query', other = .quantified quantifier operator query' ∧ query.Exchanged query'
  | .apply predicate, other =>
    ∃ predicate', other = .apply predicate' ∧ predicate.Exchanged predicate'
  | .attempt call, other => ∃ call', other = .attempt call' ∧ call.Exchanged call'
  | call, other => other = call
termination_by structural call => call

def ConditionCall.AllExchanged : List ConditionCall → List ConditionCall → Prop
  | [], others => others = []
  | call :: rest, others =>
    ∃ other rest', others = other :: rest' ∧ call.Exchanged other ∧
      ConditionCall.AllExchanged rest rest'
termination_by structural calls => calls

def Predicate.Exchanged : Predicate → Predicate → Prop
  | .callback parameters calls, other =>
    ∃ calls', other = .callback parameters calls' ∧ ConditionCall.AllExchanged calls calls'
  | predicate, other => other = predicate
termination_by structural predicate => predicate

def Subquery.Exchanged : Subquery → Subquery → Prop
  | .callback calls, other =>
    ∃ calls', other = .callback calls' ∧ SelectCall.AllExchanged calls calls'
  | query, other => other = query
termination_by structural query => query

def FilterCall.Exchanged : FilterCall → FilterCall → Prop
  | .extend predicate, other =>
    ∃ predicate', other = .extend predicate' ∧ predicate.Exchanged predicate'
  | call, other => other = call
termination_by structural call => call

def SelectCall.Exchanged : SelectCall → SelectCall → Prop
  | .join kind table on, other => ∃ on', other = .join kind table on' ∧ on.Exchanged on'
  | .filter call, other => ∃ call', other = .filter call' ∧ call.Exchanged call'
  | .having predicate, other =>
    ∃ predicate', other = .having predicate' ∧ predicate.Exchanged predicate'
  | .union all query, other => ∃ query', other = .union all query' ∧ query.Exchanged query'
  | .attempt call, other => ∃ call', other = .attempt call' ∧ call.Exchanged call'
  | call, other => other = call
termination_by structural call => call

def SelectCall.AllExchanged : List SelectCall → List SelectCall → Prop
  | [], others => others = []
  | call :: rest, others =>
    ∃ other rest', others = other :: rest' ∧ call.Exchanged other ∧
      SelectCall.AllExchanged rest rest'
termination_by structural calls => calls

end

def InsertCall.Exchanged : InsertCall → InsertCall → Prop
  | .row entries, other => ∃ entries', other = .row entries' ∧ entries.RowExchanged R entries'
  | .rows items, other => ∃ items', other = .rows items' ∧ items.RowsExchanged R items'
  | call, other => other = call

def UpdateCall.Exchanged : UpdateCall → UpdateCall → Prop
  | .assign row, other => ∃ row', other = .assign row' ∧ row.RowExchanged R row'
  | .filter call, other => ∃ call', other = .filter call' ∧ call.Exchanged R call'
  | call, other => other = call

def DeleteCall.Exchanged : DeleteCall → DeleteCall → Prop
  | .filter call, other => ∃ call', other = .filter call' ∧ call.Exchanged R call'
  | call, other => other = call

def Call.Exchanged : Call → Call → Prop
  | .select call, other => ∃ call', other = .select call' ∧ call.Exchanged R call'
  | .insert call, other => ∃ call', other = .insert call' ∧ call.Exchanged R call'
  | .update call, other => ∃ call', other = .update call' ∧ call.Exchanged R call'
  | .delete call, other => ∃ call', other = .delete call' ∧ call.Exchanged R call'

/-- The same value, or lists of related values. -/
def Value.ListExchanged (v w : Value) : Prop :=
  w = v ∨ ∃ values others, v = .list values ∧ w = .list others ∧ List.Forall₂ R values others

/-- Operations that are no calls bind nothing, unless they send SQL with a list of values. -/
def Operation.Exchanged : Operation → Operation → Prop
  | .call c, other => ∃ c', other = .call c' ∧ c.Exchanged R c'
  | .raw sql given, other => ∃ given', other = .raw sql given' ∧ given.ListExchanged R given'
  | operation, other => other = operation

end

end SqlBuilder
