import SqlBuilder.Proofs.Builder.Step
import SqlBuilder.Proofs.Call.Draft

set_option autoImplicit false

namespace SqlBuilder

open Script (ofText)

/-- A value of a row: `NULL` for nothing, any other value as itself. -/
def Script.cell (v : Value) : Script := if v.isNull then ofText "NULL" else [.value v]

/-- The values of rows under the columns of the first row. -/
def Draft.grid : List Entries → List (List Value)
  | [] => []
  | first :: rest =>
    first.values :: rest.map fun row => first.keys.map fun key => (row.get? key).getD .null

/-- The first row, or an empty one. -/
def Draft.firstRow (draft : Draft) : Entries := draft.rows.head?.getD []

/-- An insertion takes up the rows of a call when it accepts all of them. -/
def InsertCall.draft (call : InsertCall) (s : Insert) (draft : Draft) : Draft :=
  match call with
  | .row entries =>
    if (call.run s).succeeded then
      { draft with rows := draft.rows ++ entries.entries?.toList }
    else draft
  | .rows items =>
    if (call.run s).succeeded then
      { draft with rows := draft.rows ++ (items.items?.getD []).filterMap Value.entries? }
    else draft
  | .reset => .empty
  | _ => draft

def UpdateCall.draft (driver : Driver) (call : UpdateCall) (s : Update) (draft : Draft) : Draft :=
  match call with
  | .assign row =>
    if (call.run driver s).succeeded then { draft with rows := row.entries?.toList } else draft
  | .filter call => { draft with filter := call.draft driver .update s.filter draft.filter }
  | .reset => .empty
  | .table _ => draft

def DeleteCall.draft (driver : Driver) (call : DeleteCall) (s : Delete) (draft : Draft) : Draft :=
  match call with
  | .filter call => { draft with filter := call.draft driver .delete s.filter draft.filter }
  | .reset => .empty
  | .table _ => draft

def Call.draft (driver : Driver) : Call → Statement → Draft → Draft
  | .select call, .select s, draft => call.draft driver s draft
  | .insert call, .insert s, draft => call.draft s draft
  | .update call, .update s, draft => call.draft driver s draft
  | .delete call, .delete s, draft => call.draft driver s draft
  | _, _, draft => draft

def Insert.script (s : Insert) (draft : Draft) : Script :=
  ofText ("INSERT INTO " ++ s.table.getD "" ++ " (" ++
    ", ".intercalate (draft.firstRow.keys.map Value.display) ++ ") VALUES ") ++
  Script.joinWith ", " ((Draft.grid draft.rows).map fun row =>
    ofText "(" ++ Script.joinWith ", " (row.map Script.cell) ++ ofText ")") ++
  ofText (if s.returning.isEmpty then "" else " RETURNING " ++ ", ".intercalate s.returning)

def Update.script (s : Update) (draft : Draft) : Script :=
  ofText ("UPDATE " ++ s.table.getD "" ++ " SET ") ++
  Script.joinWith ", " (draft.firstRow.map fun (column, v) =>
    ofText (column.display ++ " = ") ++ Script.cell v) ++
  ofText " WHERE " ++ (draft.filter.getD []).trim

def Delete.script (s : Delete) (draft : Draft) : Script :=
  ofText ("DELETE FROM " ++ s.table.getD "" ++ " WHERE ") ++ (draft.filter.getD []).trim

def Statement.script (s : Statement) (draft : Draft) : Script :=
  match s with
  | .select s => s.script draft
  | .insert s => s.script draft
  | .update s => s.script draft
  | .delete s => s.script draft

/-- Operations that are no calls write nothing. -/
def Operation.draft (b : Builder) (draft : Draft) : Operation → Draft
  | .call c => c.draft b.session.driver b.statement draft
  | _ => draft

/-- The draft of a run of operations, each of which may fail. -/
def Builder.draftAll : List Operation → Builder → Draft → Draft
  | [], _, draft => draft
  | operation :: rest, b, draft =>
    Builder.draftAll rest (b.next operation) (operation.draft b draft)

end SqlBuilder
