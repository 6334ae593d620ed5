import SqlBuilder.Outcome
import SqlBuilder.Value.Mapping

set_option autoImplicit false

namespace SqlBuilder

/-- An insertion: rows of values in the order of the columns, which the first row establishes. -/
structure Insert where
  table : Option String
  columns : Option (List Value)
  rows : List (List Value)
  returning : List String

namespace Insert

def empty : Insert := ⟨none, none, [], []⟩

def columnName : Value × Nat → Except Error String
  | (.text name, _) => .ok name.chars
  | (column, index) => .error (.columnNotText index column)

/-- The names of the columns, or the refusal of the first that is no text. -/
def columnNames (columns : List Value) : Except Error (List String) :=
  columns.zipIdx.mapM columnName

def cell (v : Value) : Sql := if v.isNull then .ofText "NULL" else [.slot v]

def renderRow (row : List Value) : Sql :=
  .literal "(" :: Sql.joinWith ", " (row.map cell) ++ [.literal ")"]

def returningClause (s : Insert) : Sql :=
  if s.returning.isEmpty then [] else .ofText (" RETURNING " ++ ", ".intercalate s.returning)

def render (s : Insert) : Except Error Sql :=
  match s.table with
  | none => .error (.invalid (.table .insert) .null)
  | some table =>
    match s.columns.getD [] with
    | [] => .error (.query (.lacking .insert .columns))
    | columns =>
      if s.rows.isEmpty then .error (.query (.lacking .insert .values))
      else
        (columnNames columns).map fun names =>
          .literal ("INSERT INTO " ++ table ++ " (" ++ ", ".intercalate names ++ ") VALUES ") ::
            Sql.joinWith ", " (s.rows.map renderRow) ++ s.returningClause

/-- The values that are bound: row by row, in column order, without nulls. -/
def values (s : Insert) : List Value := s.rows.flatMap fun row => row.filter fun v => !v.isNull

/-- The values of a row in the order of established columns, which it must name exactly. -/
def reorder (row : Value) (entries : Entries) (columns : List Value) : Except Error (List Value) :=
  if entries.length ≠ columns.length ∨ columns.any fun key => !entries.hasKey key then
    .error (.invalid .insertRow row)
  else .ok (columns.map fun key => (entries.get? key).getD .null)

/-- The columns and the values of a row; the first row establishes the columns. -/
def rowVector (row : Value) (columns : Option (List Value)) :
    Except Error (List Value × List Value) :=
  match row.entries? with
  | none => .error (.invalid .insertRow row)
  | some entries => do
    let (columns, vector) ← match columns with
      | none =>
        if entries.isEmpty then .error (.query (.emptyRow row))
        else .ok (entries.keys, entries.values)
      | some columns => (reorder row entries columns).map fun vector => (columns, vector)
    match entries.values.find? fun v => !v.isBindable with
    | some v => .error (.invalid (.rowValue .insert) v)
    | none => .ok (columns, vector)

def setTable (name : Value) (s : Insert) : Except Error Insert :=
  match name.fullString? with
  | some table => .ok { s with table := some table }
  | none => .error (.invalid (.table .insert) name)

def addRow (row : Value) (s : Insert) : Except Error Insert :=
  (rowVector row s.columns).map fun (columns, vector) =>
    { s with columns := some columns, rows := s.rows ++ [vector] }

/-- The vectors of several rows, the first of which may establish the columns. -/
def rowVectors : List Value → Option (List Value) →
    Except Error (Option (List Value) × List (List Value))
  | [], columns => .ok (columns, [])
  | row :: rest, columns =>
    (rowVector row columns).bind fun (columns, vector) =>
      (rowVectors rest (some columns)).map fun (columns, vectors) => (columns, vector :: vectors)

/-- Adds all rows or none. -/
def addRows (rows : Value) (s : Insert) : Except Error Insert :=
  match rows.items? with
  | none => .error (.invalid .insertRows rows)
  | some items =>
    if items.any fun row => !row.isMap then .error (.invalid .insertRows rows)
    else if items.length < 2 then .error (.query .tooFewRows)
    else
      (rowVectors items s.columns).map fun (columns, vectors) =>
        { s with columns, rows := s.rows ++ vectors }

def setReturning (columns : List Value) (s : Insert) : Except Error Insert :=
  if columns.isEmpty || columns.any fun v => !v.isFullText then
    .error (.invalid .returning (.tuple columns))
  else .ok { s with returning := columns.filterMap Value.fullString? }

end Insert

/-- A call that builds an insertion. -/
inductive InsertCall
  | into (name : Value)
  | row (entries : Value)
  | rows (items : Value)
  | returning (names : List Value)
  | reset

def InsertCall.run : InsertCall → Insert → Outcome Insert
  | .into name, s => .ofExcept s (s.setTable name)
  | .row entries, s => .ofExcept s (s.addRow entries)
  | .rows items, s => .ofExcept s (s.addRows items)
  | .returning names, s => .ofExcept s (s.setReturning names)
  | .reset, _ => .done .empty

end SqlBuilder
