import Mathlib.Data.List.Basic
import SqlBuilder.Proofs.Select.Rendering
import SqlBuilder.Statement

set_option autoImplicit false

namespace SqlBuilder

/-- The text that a value is shown as, if it can be shown, is its display. -/
theorem Value.display_of_shown {v : Value} {s : String} (shown : v.shown = .ok s) :
    v.display = s := by
  unfold Value.shown at shown
  split at shown
  · cases shown
  · cases shown
    rfl

/-- The values of a list that are not nothing, one after the other. -/
theorem flatMap_values_of_cells {f : Value → Sql}
    (cell : ∀ v, (f v).values = if v.isNull then [] else [v]) (row : List Value) :
    (row.map f).flatMap Sql.values = row.filter fun v => !v.isNull := by
  induction row with
  | nil => rfl
  | cons v rest ih =>
    rw [List.map_cons, List.flatMap_cons, ih, cell, List.filter_cons]
    cases v.isNull <;> rfl

namespace Insert

variable {s : Insert} {sql : Sql}

/-- Columns that have names are texts, and their names are their texts. -/
theorem columnNames_of_ok {columns : List Value} {names : List String}
    (read : columnNames columns = .ok names) :
    columns.map Value.display = names ∧ ∀ column ∈ columns, column.shown = .ok column.display := by
  have named : ∀ (n : Nat) (columns : List Value) (names : List String),
      (columns.zipIdx n).mapM columnName = .ok names →
      columns.map Value.display = names ∧
        ∀ column ∈ columns, column.shown = .ok column.display := by
    intro n columns
    induction columns generalizing n with
    | nil =>
      intro names read
      cases read
      exact ⟨rfl, nofun⟩
    | cons column rest ih =>
      intro names read
      rw [List.zipIdx_cons, Except.mapM_eq_ok] at read
      obtain ⟨name, later, first, others, rfl⟩ := List.forall₂_cons_left_iff.mp read
      obtain ⟨same, shown⟩ := ih (n + 1) later (Except.mapM_eq_ok.mpr others)
      cases column with
      | text t =>
        cases first
        rw [List.map_cons, same]
        exact ⟨rfl, List.forall_mem_cons.mpr ⟨rfl, shown⟩⟩
      | _ => cases first
  exact named 0 columns names read

theorem render_of_ok (rendered : s.render = .ok sql) :
    ∃ table columns, s.table = some table ∧ s.columns = some columns ∧
      (∀ column ∈ columns, column.shown = .ok column.display) ∧
      .literal ("INSERT INTO " ++ table ++ " (" ++ ", ".intercalate (columns.map Value.display) ++
        ") VALUES ") :: Sql.joinWith ", " (s.rows.map renderRow) ++ s.returningClause = sql := by
  unfold render at rendered
  split at rendered
  · cases rendered
  · next table named =>
    split at rendered
    · cases rendered
    · next nonempty =>
      split at rendered
      · cases rendered
      · obtain ⟨names, read, rfl⟩ := Except.map_eq_ok.mp rendered
        obtain ⟨rfl, shown⟩ := columnNames_of_ok read
        cases established : s.columns with
        | none =>
          rw [established] at nonempty
          exact absurd rfl nonempty
        | some columns =>
          rw [established] at shown
          exact ⟨table, columns, named, rfl, shown, rfl⟩

theorem values_cell (v : Value) : (cell v).values = if v.isNull then [] else [v] := by
  unfold cell
  split <;> rfl

theorem values_renderRow (row : List Value) :
    (renderRow row).values = row.filter fun v => !v.isNull := by
  rw [renderRow, List.cons_append, Sql.values_cons, Sql.values_append, Sql.values_joinWith,
    flatMap_values_of_cells values_cell]
  simp [Piece.values]

theorem values_of_render (rendered : s.render = .ok sql) : sql.values = s.values := by
  obtain ⟨table, columns, _, _, _, rfl⟩ := render_of_ok rendered
  have returning : s.returningClause.values = [] := by
    unfold returningClause
    split <;> rfl
  rw [List.cons_append, Sql.values_cons, Sql.values_append, Sql.values_joinWith, returning,
    List.flatMap_map, Insert.values]
  simp only [values_renderRow, Piece.values, List.nil_append, List.append_nil]

end Insert

namespace Update

variable {s : Update} {sql : Sql}

/-- The assignment of a value to a column. -/
def assignmentPart (entry : Value × Value) : Sql :=
  if entry.2.isNull then .ofText (entry.1.display ++ " = NULL")
  else [.literal (entry.1.display ++ " = "), .slot entry.2]

theorem assignments_of_ok {entries : Entries} {parts : List Sql}
    (ok : entries.mapM assignment = .ok parts) :
    entries.map assignmentPart = parts ∧
      ∀ entry ∈ entries, entry.1.shown = .ok entry.1.display := by
  have pairs := Except.mapM_eq_ok.mp ok
  clear ok
  induction pairs with
  | nil => exact ⟨rfl, nofun⟩
  | @cons entry part entries parts first _ ih =>
    obtain ⟨column, shown, rfl⟩ := Except.map_eq_ok.mp first
    obtain ⟨same, others⟩ := ih
    have display := Value.display_of_shown shown
    subst display
    exact ⟨by rw [List.map_cons, same]; rfl, List.forall_mem_cons.mpr ⟨shown, others⟩⟩

/-- An update that renders has a table, assignments and a condition without a fault. -/
theorem render_of_ok (rendered : s.render = .ok sql) :
    ∃ table c, s.table = some table ∧ s.assignments ≠ [] ∧ s.filter = some c ∧ c.fault? = none ∧
      (∀ entry ∈ s.assignments, entry.1.shown = .ok entry.1.display) ∧
      .literal ("UPDATE " ++ table ++ " SET ") ::
        Sql.joinWith ", " (s.assignments.map assignmentPart) ++
          .literal " WHERE " :: c.sql.trim = sql := by
  unfold render at rendered
  split at rendered
  · cases rendered
  · next table named =>
    split at rendered
    · cases rendered
    · next given =>
      split at rendered
      · cases rendered
      · next c present =>
        simp only [Except.bind_eq_ok, pure, Except.pure, Except.ok.injEq] at rendered
        obtain ⟨parts, assigned, condition, built, rfl⟩ := rendered
        obtain ⟨rfl, shown⟩ := assignments_of_ok assigned
        obtain ⟨faultless, rfl⟩ := Condition.build_eq_ok.mp built
        exact ⟨table, c, named, by simpa using given, present, faultless, shown, rfl⟩

theorem values_of_render (rendered : s.render = .ok sql) : sql.values = s.values := by
  obtain ⟨table, c, _, _, present, _, _, rfl⟩ := render_of_ok rendered
  have assigned : ∀ entries : Entries,
      (entries.map assignmentPart).flatMap Sql.values =
        entries.values.filter fun v => !v.isNull := by
    intro entries
    have cells := flatMap_values_of_cells (f := fun v => if v.isNull then [] else [.slot v])
      (fun v => by cases v.isNull <;> rfl) entries.values
    rw [← cells, Entries.values, List.map_map, List.flatMap_map, List.flatMap_map]
    refine congrArg (fun f => entries.flatMap f) (funext fun entry => ?_)
    simp only [assignmentPart, Function.comp_apply]
    cases entry.2.isNull <;> rfl
  rw [List.cons_append, Sql.values_cons, Sql.values_append, Sql.values_joinWith, assigned,
    Sql.values_cons, Sql.values_trim, Update.values, present]
  rfl

end Update

namespace Delete

variable {s : Delete} {sql : Sql}

/-- A deletion that renders has a table and a condition without a fault. -/
theorem render_of_ok (rendered : s.render = .ok sql) :
    ∃ table c, s.table = some table ∧ s.filter = some c ∧ c.fault? = none ∧
      .literal ("DELETE FROM " ++ table ++ " WHERE ") :: c.sql.trim = sql := by
  unfold render at rendered
  split at rendered
  · cases rendered
  · next table named =>
    split at rendered
    · cases rendered
    · next c present =>
      obtain ⟨_, built, rfl⟩ := Except.map_eq_ok.mp rendered
      obtain ⟨faultless, rfl⟩ := Condition.build_eq_ok.mp built
      exact ⟨table, c, named, present, faultless, rfl⟩

theorem values_of_render (rendered : s.render = .ok sql) : sql.values = s.values := by
  obtain ⟨table, c, _, present, _, rfl⟩ := render_of_ok rendered
  rw [Sql.values_cons, Sql.values_trim, Delete.values, present]
  rfl

end Delete

theorem Statement.values_of_render {s : Statement} {sql : Sql} (rendered : s.render = .ok sql) :
    sql.values = s.values := by
  cases s with
  | select s => exact Select.values_of_render rendered
  | insert s => exact Insert.values_of_render rendered
  | update s => exact Update.values_of_render rendered
  | delete s => exact Delete.values_of_render rendered

end SqlBuilder
