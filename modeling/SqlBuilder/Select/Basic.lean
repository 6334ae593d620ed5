import SqlBuilder.Condition.Basic

set_option autoImplicit false

namespace SqlBuilder

inductive JoinKind
  | inner
  | left
  | right
  deriving DecidableEq

def JoinKind.keyword : JoinKind → String
  | .inner => "INNER"
  | .left => "LEFT"
  | .right => "RIGHT"

structure Join where
  kind : JoinKind
  table : String
  condition : Condition

structure Union where
  all : Bool
  query : Sql

/-- A query as its clauses stand. -/
structure Select where
  table : Option String
  /-- No columns at all stand for every column. -/
  columns : List String
  distinct : Bool
  joins : List Join
  filter : Option Condition
  having : Option Condition
  groups : List String
  orders : List (String × SortOrder)
  limit : Option Nat
  offset : Option Nat
  unions : List Union

namespace Select

def empty : Select := ⟨none, [], false, [], none, none, [], [], none, none, []⟩

def setTable (name : Value) (s : Select) : Except Error Select :=
  match name.fullString? with
  | some table => .ok { s with table := some table }
  | none => .error (.invalid (.table .select) name)

/-- The texts of all values, or the refusal of the first that is no full text. -/
def fullTexts (part : Part) (values : List Value) : Except Error (List String) :=
  values.mapM fun v =>
    match v.fullString? with
    | some text => .ok text
    | none => .error (.invalid part v)

def setColumns (columns : List Value) (s : Select) : Except Error Select :=
  (fullTexts .selectColumn columns).map fun columns => { s with columns }

def addGroups (columns : List Value) (s : Select) : Except Error Select :=
  (fullTexts .groupColumn columns).map fun columns => { s with groups := s.groups ++ columns }

def addOrder (column order : Value) (s : Select) : Except Error Select :=
  match column.fullString? with
  | none => .error (.invalid .orderColumn column)
  | some column =>
    match order with
    | .text (.order o) => .ok { s with orders := s.orders ++ [(column, o)] }
    | order => .error (.invalid .orderDirection order)

/-- An integer that is not negative. -/
def natural (part : Part) (v : Value) : Except Error Nat :=
  match v with
  | .int n => if 0 ≤ n then .ok n.toNat else .error (.invalid part v)
  | v => .error (.invalid part v)

def setLimit (v : Value) (s : Select) : Except Error Select :=
  (natural .limit v).map fun n => { s with limit := some n }

def setOffset (v : Value) (s : Select) : Except Error Select :=
  (natural .offset v).map fun n => { s with offset := some n }

/-- The same query for the number of its rows. -/
def counting (label : Text) (s : Select) : Select :=
  { s with columns := ["COUNT(*) AS " ++ label.chars] }

end Select

end SqlBuilder
