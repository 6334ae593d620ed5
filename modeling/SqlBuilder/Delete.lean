import SqlBuilder.Call.Run

set_option autoImplicit false

namespace SqlBuilder

structure Delete where
  table : Option String
  filter : Option Condition

namespace Delete

def empty : Delete := ⟨none, none⟩

def render (s : Delete) : Except Error Sql :=
  match s.table with
  | none => .error (.invalid (.table .delete) .null)
  | some table =>
    match s.filter with
    | none => .error (.query (.unconditional .delete))
    | some c => c.build.map fun sql => .literal ("DELETE FROM " ++ table ++ " WHERE ") :: sql

def values (s : Delete) : List Value := Select.conditionValues s.filter

def setTable (name : Value) (s : Delete) : Except Error Delete :=
  match name.fullString? with
  | some table => .ok { s with table := some table }
  | none => .error (.invalid (.table .delete) name)

end Delete

/-- A call that builds a deletion. -/
inductive DeleteCall
  | table (name : Value)
  | filter (call : FilterCall)
  | reset

def DeleteCall.run (driver : Driver) : DeleteCall → Delete → Outcome Delete
  | .table name, s => .ofExcept s (s.setTable name)
  | .filter call, s => (call.run driver .delete s.filter).map fun f => { s with filter := f }
  | .reset, _ => .done .empty

end SqlBuilder
