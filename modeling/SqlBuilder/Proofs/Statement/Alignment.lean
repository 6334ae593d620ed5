import SqlBuilder.Proofs.Call.Alignment
import SqlBuilder.Proofs.Statement.Diction
import SqlBuilder.Proofs.Statement.Draft
import SqlBuilder.Proofs.Statement.Rendering

set_option autoImplicit false

namespace SqlBuilder

open Script (ofText)

namespace Insert

theorem script_cell (v : Value) : (cell v).script = Script.cell v := by
  unfold cell Script.cell
  split
  · exact Sql.script_ofText "NULL"
  · simp

theorem balanced_cell (v : Value) : (cell v).Balanced := by
  unfold cell
  split
  · exact .cons (p := .literal "NULL") rfl .nil
  · exact .cons (Piece.balanced_slot v) .nil

theorem script_renderRow (row : List Value) :
    (renderRow row).script =
      ofText "(" ++ Script.joinWith ", " (row.map Script.cell) ++ ofText ")" := by
  have cells : (row.map cell).map Sql.script = row.map Script.cell := by
    rw [List.map_map]
    exact List.map_congr_left fun v _ => script_cell v
  rw [renderRow, List.cons_append, Sql.script_cons, Sql.script_append, Sql.script_joinWith, cells]
  simp

theorem balanced_renderRow (row : List Value) : (renderRow row).Balanced := by
  have cells : (Sql.joinWith ", " (row.map cell)).Balanced := by
    refine .joinWith rfl fun part member => ?_
    obtain ⟨v, _, rfl⟩ := List.mem_map.mp member
    exact balanced_cell v
  exact .cons (p := .literal "(") rfl (cells.append (.cons (p := .literal ")") rfl .nil))

theorem returningClause_eq (s : Insert) :
    s.returningClause.script = ofText (if s.returning.isEmpty then ""
      else " RETURNING " ++ ", ".intercalate s.returning) := by
  unfold returningClause
  split
  · rfl
  · exact Sql.script_ofText _

theorem balanced_of_render {s : Insert} {sql : Sql} (spoken : s.Spoken unmarked)
    (rendered : s.render = .ok sql) : sql.Balanced := by
  obtain ⟨table, columns, named, established, shown, rfl⟩ := render_of_ok rendered
  have names : marks (", ".intercalate (columns.map Value.display)) = 0 := by
    apply marks_intercalate rfl
    intro name member
    obtain ⟨column, given, rfl⟩ := List.mem_map.mp member
    exact spoken.columns columns established column given column.display (shown column given)
  have source : marks table = 0 := spoken.table table named
  have rows : (Sql.joinWith ", " (s.rows.map renderRow)).Balanced := by
    refine .joinWith rfl fun part member => ?_
    obtain ⟨row, _, rfl⟩ := List.mem_map.mp member
    exact balanced_renderRow row
  have returning : s.returningClause.Balanced := by
    unfold returningClause
    split
    · exact .nil
    · refine .cons (p := .literal _) ?_ .nil
      rw [Piece.balanced_literal, marks_append, marks_intercalate rfl spoken.returning]
      rfl
  refine .cons ?_ (rows.append returning)
  rw [Piece.balanced_literal]
  simp only [marks_append, names, source]
  rfl

/-- The columns are those of the first row, and the values form the grid of the rows. -/
structure Drafted (s : Insert) (draft : Draft) : Prop where
  columns : s.columns = draft.rows.head?.map Entries.keys
  rows : s.rows = Draft.grid draft.rows

theorem script_of_render {s : Insert} {draft : Draft} {sql : Sql} (drafted : s.Drafted draft)
    (rendered : s.render = .ok sql) : sql.script = s.script draft := by
  obtain ⟨table, columns, named, established, _, rfl⟩ := render_of_ok rendered
  have first : draft.firstRow.keys = columns := by
    have known := drafted.columns
    rw [established] at known
    obtain ⟨row, found, rfl⟩ := Option.map_eq_some_iff.mp known.symm
    rw [Draft.firstRow, found, Option.getD_some]
  have rows : (s.rows.map renderRow).map Sql.script = (Draft.grid draft.rows).map fun row =>
      ofText "(" ++ Script.joinWith ", " (row.map Script.cell) ++ ofText ")" := by
    rw [drafted.rows, List.map_map]
    exact List.map_congr_left fun row _ => script_renderRow row
  rw [List.cons_append, Sql.script_cons, Sql.script_append, Sql.script_joinWith, rows,
    returningClause_eq, Insert.script, first, named, Option.getD_some, Sql.script_literal,
    List.append_assoc]

theorem reorder_eq {row : Value} {entries : Entries} {columns vector : List Value}
    (ordered : reorder row entries columns = .ok vector) :
    vector = columns.map fun key => (entries.get? key).getD .null := by
  unfold reorder at ordered
  split at ordered
  · cases ordered
  · cases ordered
    rfl

/-- An accepted row adds its own line to the grid. -/
theorem grid_of_rowVector {rows : List Entries} {row : Value} {columns vector : List Value}
    (accepted : rowVector row (rows.head?.map Entries.keys) = .ok (columns, vector)) :
    ∃ entries, row.entries? = some entries ∧
      some columns = (rows ++ [entries]).head?.map Entries.keys ∧
      Draft.grid rows ++ [vector] = Draft.grid (rows ++ [entries]) := by
  obtain ⟨entries, read, _, shape⟩ := rowVector_eq_ok.mp accepted
  refine ⟨entries, read, ?_⟩
  cases rows with
  | nil =>
    obtain ⟨_, rfl, rfl⟩ := shape
    exact ⟨rfl, rfl⟩
  | cons first rest =>
    obtain ⟨rfl, ordered⟩ := shape
    rw [reorder_eq ordered]
    exact ⟨rfl, by simp [Draft.grid]⟩

theorem grid_of_rowVectors {given : List Value} {rows : List Entries}
    {columns : Option (List Value)} {vectors : List (List Value)}
    (accepted : rowVectors given (rows.head?.map Entries.keys) = .ok (columns, vectors)) :
    columns = (rows ++ given.filterMap Value.entries?).head?.map Entries.keys ∧
      Draft.grid rows ++ vectors = Draft.grid (rows ++ given.filterMap Value.entries?) := by
  induction given generalizing rows vectors with
  | nil =>
    cases accepted
    simp
  | cons row rest ih =>
    obtain ⟨⟨established, vector⟩, read, later⟩ := Except.bind_eq_ok.mp accepted
    obtain ⟨⟨last, others⟩, rowsRead, same⟩ := Except.map_eq_ok.mp later
    cases same
    obtain ⟨entries, found, keys, line⟩ := grid_of_rowVector read
    rw [keys] at rowsRead
    obtain ⟨columnsRead, lines⟩ := ih rowsRead
    rw [List.filterMap_cons_some found]
    rw [← line] at lines
    exact ⟨by simpa using columnsRead, by simpa using lines⟩

end Insert

theorem InsertCall.run_drafted (call : InsertCall) {s : Insert} {draft : Draft}
    (drafted : s.Drafted draft) : (call.run s).state.Drafted (call.draft s draft) := by
  cases call with
  | into name =>
    apply Outcome.ofExcept_state (P := (Insert.Drafted · draft)) drafted
    intro t ok
    unfold Insert.setTable at ok
    split at ok
    · cases ok
      exact ⟨drafted.columns, drafted.rows⟩
    · cases ok
  | row entries =>
    apply Outcome.ofExcept_either (R := Insert.Drafted) drafted
    intro t ok
    obtain ⟨columns, vector, read, rfl⟩ := Insert.addRow_eq_ok.mp ok
    rw [drafted.columns] at read
    obtain ⟨row, found, keys, lines⟩ := Insert.grid_of_rowVector read
    rw [← drafted.rows] at lines
    rw [found, Option.toList_some]
    exact ⟨keys, lines⟩
  | rows items =>
    apply Outcome.ofExcept_either (R := Insert.Drafted) drafted
    intro t ok
    obtain ⟨given, columns, vectors, found, _, _, read, rfl⟩ := Insert.addRows_eq_ok.mp ok
    rw [drafted.columns] at read
    obtain ⟨keys, lines⟩ := Insert.grid_of_rowVectors read
    rw [← drafted.rows] at lines
    rw [found, Option.getD_some]
    exact ⟨keys, lines⟩
  | returning names =>
    apply Outcome.ofExcept_state (P := (Insert.Drafted · draft)) drafted
    intro t ok
    obtain ⟨_, _, rfl⟩ := Insert.setReturning_eq_ok.mp ok
    exact ⟨drafted.columns, drafted.rows⟩
  | reset => exact ⟨rfl, rfl⟩

theorem Draft.script_filter {f : Option Condition} {c : Condition} {draft : Draft}
    (drafted : f.map (·.sql.script) = draft.filter) (present : f = some c)
    (spoken : c.Spoken balanced) : c.sql.trim.script = (draft.filter.getD []).trim := by
  rw [← drafted, present, Option.map_some, Option.getD_some, Sql.script_trim spoken.balanced]

namespace Update

theorem script_assignmentPart (entry : Value × Value) :
    (assignmentPart entry).script = ofText (entry.1.display ++ " = ") ++ Script.cell entry.2 := by
  unfold assignmentPart Script.cell
  split
  · rw [Sql.script_ofText, ← Script.ofText_append, String.append_assoc]
    rfl
  · simp

theorem balanced_of_render {s : Update} {sql : Sql} (spoken : s.Spoken balanced)
    (rendered : s.render = .ok sql) : sql.Balanced := by
  obtain ⟨table, c, named, _, present, _, shown, rfl⟩ := render_of_ok rendered
  have source : marks table = 0 := spoken.table table named
  have assigned : (Sql.joinWith ", " (s.assignments.map assignmentPart)).Balanced := by
    refine .joinWith rfl fun part member => ?_
    obtain ⟨entry, given, rfl⟩ := List.mem_map.mp member
    have column : marks entry.1.display = 0 :=
      spoken.assignments entry.1 (List.mem_map_of_mem given) _ (shown entry given)
    unfold assignmentPart
    split
    · refine .cons (p := .literal _) ?_ .nil
      rw [Piece.balanced_literal, marks_append, column]
      rfl
    · refine .cons (p := .literal _) ?_ (.cons (Piece.balanced_slot _) .nil)
      rw [Piece.balanced_literal, marks_append, column]
      rfl
  refine .cons ?_ (assigned.append (.cons rfl (spoken.filter c present).balanced.trim))
  rw [Piece.balanced_literal]
  simp only [marks_append, source]
  rfl

/-- The assignments are those of the last row, and the condition is the one of the draft. -/
structure Drafted (s : Update) (draft : Draft) : Prop where
  assignments : s.assignments = draft.firstRow
  filter : s.filter.map (·.sql.script) = draft.filter

theorem script_of_render {s : Update} {draft : Draft} {sql : Sql} (spoken : s.Spoken balanced)
    (drafted : s.Drafted draft) (rendered : s.render = .ok sql) :
    sql.script = s.script draft := by
  obtain ⟨table, c, named, _, present, _, _, rfl⟩ := render_of_ok rendered
  have assigned : (s.assignments.map assignmentPart).map Sql.script =
      draft.firstRow.map fun entry =>
        ofText (entry.1.display ++ " = ") ++ Script.cell entry.2 := by
    rw [← drafted.assignments, List.map_map]
    exact List.map_congr_left fun entry _ => script_assignmentPart entry
  have condition := Draft.script_filter drafted.filter present (spoken.filter c present)
  rw [List.cons_append, Sql.script_cons, Sql.script_append, Sql.script_joinWith, assigned,
    Sql.script_cons, condition, Update.script, named, Option.getD_some, Sql.script_literal,
    Sql.script_literal]
  simp only [List.append_assoc]

end Update

theorem UpdateCall.run_drafted (driver : Driver) (call : UpdateCall) {s : Update} {draft : Draft}
    (uses : call.Uses unmarked) (spoken : s.Spoken balanced) (drafted : s.Drafted draft) :
    (call.run driver s).state.Drafted (call.draft driver s draft) := by
  cases call with
  | table name =>
    simp only [UpdateCall.run, UpdateCall.draft, Update.setTable]
    split <;> exact ⟨drafted.assignments, drafted.filter⟩
  | assign row =>
    apply Outcome.ofExcept_either (R := Update.Drafted) drafted
    intro t ok
    obtain ⟨entries, read, _, rfl⟩ := Update.assign_eq_ok.mp ok
    rw [read, Option.toList_some]
    exact ⟨rfl, drafted.filter⟩
  | filter call =>
    refine ⟨drafted.assignments, ?_⟩
    have script := call.run_draft driver .update uses spoken.filter
    rw [drafted.filter] at script
    exact script
  | reset => exact ⟨rfl, rfl⟩

namespace Delete

theorem balanced_of_render {s : Delete} {sql : Sql} (spoken : s.Spoken balanced)
    (rendered : s.render = .ok sql) : sql.Balanced := by
  obtain ⟨table, c, named, present, _, rfl⟩ := render_of_ok rendered
  have source : marks table = 0 := spoken.table table named
  refine .cons ?_ (spoken.filter c present).balanced.trim
  rw [Piece.balanced_literal]
  simp only [marks_append, source]
  rfl

theorem script_of_render {s : Delete} {draft : Draft} {sql : Sql} (spoken : s.Spoken balanced)
    (drafted : s.filter.map (·.sql.script) = draft.filter) (rendered : s.render = .ok sql) :
    sql.script = s.script draft := by
  obtain ⟨table, c, named, present, _, rfl⟩ := render_of_ok rendered
  have condition := Draft.script_filter drafted present (spoken.filter c present)
  rw [Sql.script_cons, condition, Delete.script, named, Option.getD_some, Sql.script_literal]

end Delete

theorem DeleteCall.run_drafted (driver : Driver) (call : DeleteCall) {s : Delete} {draft : Draft}
    (uses : call.Uses unmarked) (spoken : s.Spoken balanced)
    (drafted : s.filter.map (·.sql.script) = draft.filter) :
    (call.run driver s).state.filter.map (·.sql.script) = (call.draft driver s draft).filter := by
  cases call with
  | table name =>
    simp only [DeleteCall.run, DeleteCall.draft, Delete.setTable]
    split <;> exact drafted
  | filter call =>
    have script := call.run_draft driver .delete uses spoken.filter
    rw [drafted] at script
    exact script
  | reset => rfl

namespace Statement

/-- The statement holds what the draft holds. -/
def Drafted (s : Statement) (draft : Draft) : Prop :=
  match s with
  | .select s => s.draft = draft
  | .insert s => s.Drafted draft
  | .update s => s.Drafted draft
  | .delete s => s.filter.map (·.sql.script) = draft.filter

theorem balanced_of_render {s : Statement} {sql : Sql} (spoken : s.Spoken balanced)
    (rendered : s.render = .ok sql) : sql.Balanced := by
  cases s with
  | select s => exact Select.balanced_of_render spoken rendered
  | insert s => exact Insert.balanced_of_render spoken rendered
  | update s => exact Update.balanced_of_render spoken rendered
  | delete s => exact Delete.balanced_of_render spoken rendered

theorem script_of_render {s : Statement} {draft : Draft} {sql : Sql} (spoken : s.Spoken balanced)
    (drafted : s.Drafted draft) (rendered : s.render = .ok sql) :
    sql.script = s.script draft := by
  cases s with
  | select s =>
    rw [Select.script_of_render spoken rendered, drafted]
    rfl
  | insert s => exact Insert.script_of_render drafted rendered
  | update s => exact Update.script_of_render spoken drafted rendered
  | delete s => exact Delete.script_of_render spoken drafted rendered

theorem empty_drafted (kind : StatementKind) : (empty kind).Drafted .empty := by
  cases kind
  case select => rfl
  case insert => exact ⟨rfl, rfl⟩
  case update => exact ⟨rfl, rfl⟩
  case delete => rfl

theorem apply_drafted (driver : Driver) (call : Call) {s : Statement} {draft : Draft}
    (uses : call.Uses unmarked) (spoken : s.Spoken balanced) (drafted : s.Drafted draft) :
    (s.apply driver call).state.Drafted (call.draft driver s draft) := by
  cases call with
  | select call =>
    cases s with
    | select s =>
      have written := call.run_draft driver uses spoken
      rw [drafted] at written
      exact written
    | _ => exact drafted
  | insert call =>
    cases s with
    | insert s => exact call.run_drafted drafted
    | _ => exact drafted
  | update call =>
    cases s with
    | update s => exact call.run_drafted driver uses spoken drafted
    | _ => exact drafted
  | delete call =>
    cases s with
    | delete s => exact call.run_drafted driver uses spoken drafted
    | _ => exact drafted

end Statement

namespace Builder

theorem SameClauses.drafted {s t : Statement} {draft : Draft} (same : SameClauses s t)
    (drafted : t.Drafted draft) : s.Drafted draft := by
  rcases same with rfl | ⟨query, limit, offset, rfl, rfl⟩
  · exact drafted
  · exact drafted

theorem next_drafted {b : Builder} {operation : Operation} {draft : Draft}
    (uses : operation.Uses unmarked) (spoken : b.statement.Spoken balanced)
    (drafted : b.statement.Drafted draft) :
    (b.next operation).statement.Drafted (operation.draft b draft) := by
  by_cases call : ∃ c, operation = .call c
  · obtain ⟨c, rfl⟩ := call
    rw [next_call b c]
    exact Statement.apply_drafted _ c uses spoken drafted
  · have written : operation.draft b draft = draft := by
      cases operation with
      | call c => exact absurd ⟨c, rfl⟩ call
      | _ => rfl
    rw [written]
    exact (next_unchanged b fun c same => call ⟨c, same⟩).2.drafted drafted

/-- After any operations the statement is balanced and holds its draft. -/
theorem after_drafted {operations : List Operation} {b : Builder} {draft : Draft}
    (uses : ∀ operation ∈ operations, operation.Uses unmarked)
    (spoken : b.statement.Spoken balanced) (drafted : b.statement.Drafted draft) :
    (b.after operations).statement.Spoken balanced ∧
      (b.after operations).statement.Drafted (draftAll operations b draft) := by
  induction operations generalizing b draft with
  | nil => exact ⟨spoken, drafted⟩
  | cons operation rest ih =>
    obtain ⟨first, others⟩ := List.forall_mem_cons.mp uses
    exact ih others (next_spoken balanced_closed first spoken) (next_drafted first spoken drafted)

/-- A query that is given `HAVING` before a `WHERE` with a subquery in it. -/
def havingFirst : List Operation :=
  [.call (.select (.table (.str "t"))),
    .call (.select (.having
      (.callback none [.col (.str "n"), .compare .greaterThan (.int 2)]))),
    .call (.select (.filter (.extend (.callback none
      [.col (.str "a"), .inSubquery (.callback [.table (.str "u"), .filter (.extend
        (.callback none [.col (.str "b"), .compare .equal (.int 1)]))])]))))]

end Builder

end SqlBuilder
