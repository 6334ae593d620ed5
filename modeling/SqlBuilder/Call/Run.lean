import SqlBuilder.Call.Basic
import SqlBuilder.Driver
import SqlBuilder.Outcome
import SqlBuilder.Select.Rendering

set_option autoImplicit false

namespace SqlBuilder

/-- What a condition needs from the statement that owns it. -/
structure Owner where
  driver : Driver
  /-- What the owner offers for subqueries when that is not a query. -/
  provider : Option Value

namespace Condition

/-- Selects the dialect of the driver for a date part, and gives notice of it. -/
def runPart (o : Owner) (part : DatePart) (v : Value) (c : Condition) : Outcome Condition :=
  match c.column with
  | none => .fail (.invalid .column .null) c
  | some column =>
    if !acceptsPart part v then .fail (.invalid (.datePart part) v) c
    else
      match o.driver.kind with
      | .error e => .fail e c
      | .ok kind => ⟨c.comparePart kind part column v, [.dialect kind], none⟩

/-- Pushes the comparison that `wrap` makes of a finished subquery. -/
def embed (c : Condition) (wrap : Sql → Sql) (query : Outcome Select) : Outcome Condition :=
  match query.failure with
  | some e => ⟨c, query.notices, some e⟩
  | none =>
    match query.state.render with
    | .error e => ⟨c, query.notices, some e⟩
    | .ok sql => ⟨c.compare (wrap sql), query.notices, none⟩

end Condition

/-- The SQL between an opening text and a closing parenthesis. -/
def Sql.enclosed (opening : String) (sql : Sql) : Sql := .literal opening :: sql ++ [.literal ")"]

/-- The selection of a column needs no current condition. -/
def ConditionCall.standsAlone : ConditionCall → Bool
  | .col _ => true
  | .abort selecting _ => selecting
  | _ => false

/-- The condition of a clause after a callback: a new one counts only when the callback succeeds. -/
def settle (before : Option Condition) (o : Outcome Condition) : Outcome (Option Condition) :=
  match before with
  | some _ => o.map some
  | none => o.commit none some

namespace Select

def addUnion (all : Bool) (s : Select) (query : Outcome Select) : Outcome Select :=
  match query.failure with
  | some e => ⟨s, query.notices, some e⟩
  | none =>
    match query.state.render with
    | .error e => ⟨s, query.notices, some e⟩
    | .ok sql => ⟨{ s with unions := s.unions ++ [⟨all, sql⟩] }, query.notices, none⟩

def addJoin (kind : JoinKind) (table : String) (s : Select) (on : Outcome (Option Condition)) :
    Outcome Select :=
  on.commit s fun c => { s with joins := s.joins ++ [⟨kind, table, c.getD .blank⟩] }

/-- The dialect is selected before it turns out not to be callable. -/
def callProperty (driver : Driver) (s : Select) : QueryProperty → Outcome Select
  | .connection => .fail (.notCallable "Connection") s
  | .config => .fail (.notCallable "BuilderConfig") s
  | .dialect =>
    match driver.kind with
    | .error e => .fail e s
    | .ok kind => ⟨s, [.dialect kind], some (.notCallable kind.dialectName)⟩

/-- Has the query's text read; the text comes first, then the dialect. -/
def parsed (driver : Driver) (s : Select) : Outcome Select :=
  match s.toSql, driver.kind with
  | .error e, _ => .fail e s
  | .ok _, .error e => .fail e s
  | .ok sql, .ok kind =>
    match driver.parser.parse kind sql with
    | .ok _ => ⟨s, [.dialect kind], none⟩
    | .error e => ⟨s, [.dialect kind], some e⟩

end Select

mutual

def ConditionCall.run (o : Owner) : ConditionCall → Condition → Outcome Condition
  | .col name, c => .ofExcept c (c.select name)
  | .raw fragment values, c => .ofExcept c (c.addRaw fragment values)
  | .negate, c => .done { c with negating := true }
  | .openGroup, c => .done c.openGroup
  | .closeGroup, c => .done c.closeGroup
  | .toggleGroup, c => .done c.toggleGroup
  | .connect w, c => .done (c.push (.connective w))
  | .compare s v, c => .ofExcept c (c.compareWith s.sign .operand Condition.isOperand v)
  | .like v, c => .ofExcept c (c.compareWith "LIKE" .operand Condition.isTextOperand v)
  | .between low high, c => .ofExcept c (c.between low high)
  | .oneOf values, c => .ofExcept c (c.oneOf values)
  | .isNull, c => .ofExcept c c.isNull
  | .inPart part v, c => c.runPart o part v
  | .inSubquery query, c =>
    match c.column with
    | none => .fail (.invalid .column .null) c
    | some column => query.compareIn o c (Sql.enclosed (column ++ " IN ("))
  | .existsIn query, c => query.compareIn o c (Sql.enclosed "EXISTS (")
  | .quantified quantifier operator query, c =>
    match c.column with
    | none => .fail (.invalid .column .null) c
    | some column =>
      match operator with
      | .text (.operator sign) =>
        query.compareIn o c
          (Sql.enclosed (column ++ " " ++ sign.spelling ++ " " ++ quantifier.keyword ++ " ("))
      | operator => .fail (.invalid .operator operator) c
  | .apply predicate, c => predicate.apply o c
  | .attempt call, c => (call.run o c).caught
  | .check, c => .ofExcept c (c.build.map fun _ => c)
  | .values, c => .fail (.notCallable (Value.list c.values).typeName) c
  | .unknown name, c => .fail (.noAttribute "Condition" name) c
  | .abort _ reason, c => .fail reason c

/-- Runs the calls of a callback; `held` tells whether it already has a condition to call. -/
def ConditionCall.runAll (o : Owner) : Bool → List ConditionCall → Condition → Outcome Condition
  | _, [], c => .done c
  | held, call :: rest, c =>
    if held || call.standsAlone then
      (call.run o c).andThen fun c => ConditionCall.runAll o true rest c
    else .fail .noCondition c

/-- Lets a callback work on a condition. -/
def Predicate.apply (o : Owner) : Predicate → Condition → Outcome Condition
  | .callback parameters calls, c => ConditionCall.runAll o (acceptsCondition parameters) calls c
  | .other v, c => .fail (.notCallable v.typeName) c

/-- Extends the condition of a clause, which is new when there was none. -/
def Predicate.extend (driver : Driver) (clause : Clause) :
    Predicate → Option Condition → Outcome (Option Condition)
  | .callback parameters calls, before =>
    settle before (ConditionCall.runAll ⟨driver, none⟩ (acceptsCondition parameters) calls
      (before.getD .blank))
  | .other v, before => .fail (.invalid (.condition clause) v) before

def Subquery.compareIn (o : Owner) : Subquery → Condition → (Sql → Sql) → Outcome Condition
  | .other v, c, _ => .fail (.invalid .subquery v) c
  | .callback calls, c, wrap =>
    match o.provider with
    | some v => .fail (.query (.unusable .provider v)) c
    | none => c.embed wrap (SelectCall.runAll o.driver calls .empty)

def FilterCall.run (driver : Driver) (kind : StatementKind) :
    FilterCall → Option Condition → Outcome (Option Condition)
  | .extend predicate, f => predicate.extend driver (.filter kind) f
  | .connect w, some c => .done (some (c.push (.connective w)))
  | .connect _, none => .fail (.query (.lacking kind .condition)) none
  | .openGroup, f => .done (some (f.getD .blank).openGroup)
  | .closeGroup, some c => .done (some c.closeGroup)
  | .closeGroup, none => .fail (.query (.lacking kind .condition)) none
  | .toggleGroup, f => .done (some (f.getD .blank).toggleGroup)

def SelectCall.run (driver : Driver) : SelectCall → Select → Outcome Select
  | .table name, s => .ofExcept s (s.setTable name)
  | .columns names, s => .ofExcept s (s.setColumns names)
  | .distinct, s => .done { s with distinct := true }
  | .limit count, s => .ofExcept s (s.setLimit count)
  | .offset count, s => .ofExcept s (s.setOffset count)
  | .join kind table on, s =>
    match table.fullString? with
    | none => .fail (.invalid .joinTable table) s
    | some table => s.addJoin kind table (on.extend driver .join none)
  | .filter call, s => (call.run driver .select s.filter).map fun f => { s with filter := f }
  | .groupBy columns, s => .ofExcept s (s.addGroups columns)
  | .having predicate, s =>
    (predicate.extend driver .having s.having).map fun f => { s with having := f }
  | .orderBy column order, s => .ofExcept s (s.addOrder column order)
  | .union all query, s => query.addTo driver all s
  | .attempt call, s => (call.run driver s).caught
  | .reset, _ => .done .empty
  | .logSql, s =>
    match s.toSql with
    | .ok sql => ⟨s, [.rendered sql], none⟩
    | .error e => .fail e s
  | .logValues, s => ⟨s, [.bound s.values], none⟩
  | .check, s => .ofExcept s (s.toSql.map fun _ => s)
  | .parse, s => s.parsed driver
  | .idle, s => .done s
  | .property p, s => s.callProperty driver p
  | .unknown name, s => .fail (.noAttribute StatementKind.select.title name) s
  | .abort reason, s => .fail reason s

def Subquery.addTo (driver : Driver) (all : Bool) : Subquery → Select → Outcome Select
  | .other v, s => .fail (.invalid (.union all) v) s
  | .callback calls, s => s.addUnion all (SelectCall.runAll driver calls .empty)

def SelectCall.runAll (driver : Driver) : List SelectCall → Select → Outcome Select
  | [], s => .done s
  | call :: rest, s => (call.run driver s).andThen fun s => SelectCall.runAll driver rest s

end

end SqlBuilder
