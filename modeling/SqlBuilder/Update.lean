import SqlBuilder.Call.Run
import SqlBuilder.Value.Mapping

set_option autoImplicit false

namespace SqlBuilder

structure Update where
  table : Option String
  assignments : Entries
  filter : Option Condition

namespace Update

def empty : Update := ⟨none, [], none⟩

def assignment (entry : Value × Value) : Except Error Sql :=
  entry.1.shown.map fun column =>
    if entry.2.isNull then .ofText (column ++ " = NULL")
    else [.literal (column ++ " = "), .slot entry.2]

def render (s : Update) : Except Error Sql :=
  match s.table with
  | none => .error (.query (.lacking .update .table))
  | some table =>
    if s.assignments.isEmpty then .error (.query (.lacking .update .columns))
    else
      match s.filter with
      | none => .error (.query (.unconditional .update))
      | some c => do
        let assignments ← s.assignments.mapM assignment
        let condition ← c.build
        return .literal ("UPDATE " ++ table ++ " SET ") ::
          Sql.joinWith ", " assignments ++ .literal " WHERE " :: condition

/-- The assigned values without nulls, then those of the condition. -/
def values (s : Update) : List Value :=
  s.assignments.values.filter (fun v => !v.isNull) ++ Select.conditionValues s.filter

def setTable (name : Value) (s : Update) : Except Error Update :=
  match name.fullString? with
  | some table => .ok { s with table := some table }
  | none => .error (.invalid (.table .update) name)

/-- Replaces the assignments. -/
def assign (row : Value) (s : Update) : Except Error Update :=
  match row.entries? with
  | none => .error (.query (.lacking .update .row))
  | some entries =>
    match entries.values.find? fun v => !v.isBindable with
    | some v => .error (.invalid (.rowValue .update) v)
    | none => .ok { s with assignments := entries }

end Update

/-- A call that builds an update. -/
inductive UpdateCall
  | table (name : Value)
  | assign (row : Value)
  | filter (call : FilterCall)
  | reset

def UpdateCall.run (driver : Driver) : UpdateCall → Update → Outcome Update
  | .table name, s => .ofExcept s (s.setTable name)
  | .assign row, s => .ofExcept s (s.assign row)
  | .filter call, s => (call.run driver .update s.filter).map fun f => { s with filter := f }
  | .reset, _ => .done .empty

end SqlBuilder
