import SqlBuilder.Condition.Grammar
import SqlBuilder.Select.Basic
import SqlBuilder.Value.Integer

set_option autoImplicit false

namespace SqlBuilder.Select

def columnList (columns : List String) : String :=
  if columns.isEmpty then "*" else ", ".intercalate columns

def head (s : Select) (table : String) : Sql :=
  .ofText ("SELECT " ++ (if s.distinct then "DISTINCT " else "") ++ columnList s.columns ++
    " FROM " ++ table)

def renderJoin (j : Join) : Except Error Sql :=
  j.condition.build.map fun sql =>
    .literal (j.kind.keyword ++ " JOIN " ++ j.table ++ " ON ") :: sql

/-- A clause made of a keyword and a condition, when there is one. -/
def renderCondition (keyword : String) : Option Condition → Except Error (List Sql)
  | none => .ok []
  | some c => c.build.map fun sql => [.literal (keyword ++ " ") :: sql]

def groupClause (s : Select) : List Sql :=
  if s.groups.isEmpty then [] else [.ofText ("GROUP BY " ++ ", ".intercalate s.groups)]

def orderClause (s : Select) : List Sql :=
  if s.orders.isEmpty then []
  else
    let terms := s.orders.map fun (column, order) => column ++ " " ++ order.spelling
    [.ofText ("ORDER BY " ++ ", ".intercalate terms)]

def countClause (keyword : String) : Option Nat → Except Error (List Sql)
  | none => .ok []
  | some n => (Value.integerText n).map fun text => [.ofText (keyword ++ " " ++ text)]

def renderUnion (u : Union) : Sql :=
  .literal (if u.all then "UNION ALL " else "UNION ") :: u.query

/-- The statement without its terminator, so that it can stand inside another one. -/
def render (s : Select) : Except Error Sql :=
  match s.table with
  | none => .error (.invalid (.table .select) .null)
  | some table => do
    let joins ← s.joins.mapM renderJoin
    let filter ← renderCondition "WHERE" s.filter
    let having ← renderCondition "HAVING" s.having
    let limit ← countClause "LIMIT" s.limit
    let offset ← countClause "OFFSET" s.offset
    return Sql.joinWith " " (s.head table :: joins ++ filter ++ s.groupClause ++ having ++
      s.orderClause ++ limit ++ offset ++ s.unions.map renderUnion)

def conditionValues (c : Option Condition) : List Value := (c.map Condition.values).getD []

/-- The bound values: joins, `WHERE`, `HAVING`, unions. -/
def values (s : Select) : List Value :=
  s.joins.flatMap (·.condition.values) ++ conditionValues s.filter ++ conditionValues s.having ++
    s.unions.flatMap (·.query.values)

/-- The text of the finished statement. -/
def toSql (s : Select) : Except Error String := s.render.map fun sql => sql.text ++ ";"

end SqlBuilder.Select
