import SqlBuilder.Proofs.Call.Respelling
import SqlBuilder.Proofs.Statement.Diction
import SqlBuilder.Proofs.Statement.Rendering

set_option autoImplicit false

namespace SqlBuilder

variable {k l : DriverKind}

namespace Insert

variable {s : Insert} {sql : Sql}

theorem common_cell (v : Value) : (cell v).Common := by
  unfold cell
  split
  · exact .literal "NULL"
  · exact fun _ => rfl

theorem common_renderRow (row : List Value) : (renderRow row).Common := by
  have cells : (Sql.joinWith ", " (row.map cell)).Common :=
    .joinWith (List.forall_mem_map.mpr fun v _ => common_cell v)
  exact (Sql.Common.literal "(").append (cells.append (.literal ")"))

theorem common_of_render (rendered : s.render = .ok sql) : sql.Common := by
  obtain ⟨table, columns, _, _, _, rfl⟩ := render_of_ok rendered
  have rows : (Sql.joinWith ", " (s.rows.map renderRow)).Common :=
    .joinWith (List.forall_mem_map.mpr fun row _ => common_renderRow row)
  have returning : s.returningClause.Common := by
    unfold returningClause
    split
    · exact fun _ => rfl
    · exact .literal _
  exact ((Sql.Common.literal _).append rows).append returning

end Insert

namespace Update

variable {s : Update} {sql : Sql}

theorem common_assignmentPart (entry : Value × Value) : (assignmentPart entry).Common := by
  unfold assignmentPart
  split
  · exact .literal _
  · exact fun _ => rfl

theorem assignments_respell (entries : Entries) : entries.mapM assignment =
    (entries.mapM assignment).map (List.map (Sql.respell l)) := by
  cases assigned : entries.mapM assignment with
  | error e => rfl
  | ok parts =>
    obtain ⟨rfl, _⟩ := assignments_of_ok assigned
    have common := List.forall_mem_map.mpr fun entry (_ : entry ∈ entries) =>
      common_assignmentPart entry
    exact congrArg Except.ok (Sql.map_respell_of_common common l).symm

theorem render_respell (spoken : s.Spoken portable) :
    (s.respell l).render = s.render.map (Sql.respell l) := by
  obtain ⟨table, assignments, filter⟩ := s
  change render ⟨table, assignments, filter.map (Condition.respell l)⟩ = _
  unfold render
  cases table with
  | none => rfl
  | some table =>
    dsimp only
    split
    · rfl
    · cases filter with
      | none => rfl
      | some c =>
        refine Except.bind_comm (assignments_respell (l := l) assignments) fun parts => ?_
        refine Except.bind_comm (Condition.build_respell ((spoken.filter c rfl).respellable l))
          fun condition => ?_
        refine congrArg Except.ok ?_
        simp only [Sql.respell_cons, Sql.respell_append, List.cons_append, Sql.respell_joinWith]
        rfl

end Update

namespace Delete

variable {s : Delete} {sql : Sql}

theorem render_respell (spoken : s.Spoken portable) :
    (s.respell l).render = s.render.map (Sql.respell l) := by
  simp only [render, Delete.respell]
  cases s.table with
  | none => rfl
  | some table =>
    cases present : s.filter with
    | none => rfl
    | some c =>
      have built := Condition.build_respell ((spoken.filter c present).respellable l)
      simp only [Option.map_some, built]
      cases c.build <;> rfl

end Delete

namespace Statement

variable {s : Statement} {sql : Sql}

/-- A respelt statement renders to the respelt SQL, or fails for the same reason. -/
theorem render_respell (spoken : s.Spoken portable) :
    (s.respell l).render = s.render.map (Sql.respell l) := by
  cases s with
  | select s => exact Select.render_respell spoken
  | insert s =>
    change s.render = s.render.map (Sql.respell l)
    cases rendered : s.render with
    | error e => rfl
    | ok sql => exact congrArg Except.ok (Insert.common_of_render rendered l).symm
  | update s => exact Update.render_respell spoken
  | delete s => exact Delete.render_respell spoken

/-- What a statement in its own spelling renders to is in that spelling too. -/
theorem native_of_render (spoken : s.Spoken portable) (native : s.respell k = s)
    (rendered : s.render = .ok sql) : sql.respell k = sql := by
  have again := render_respell (l := k) spoken
  rw [native, rendered] at again
  exact (Except.ok.inj again).symm

theorem kind_respell (l : DriverKind) (s : Statement) : (s.respell l).kind = s.kind := by
  cases s <;> rfl

theorem apply_respell {driver other : Driver} (first : driver.kind = .ok k)
    (second : other.kind = .ok l) (call : Call) (uses : call.Uses unread)
    (spoken : s.Spoken portable) (native : s.respell k = s) :
    Outcome.Respelled k l (respell l) (s.apply driver call) ((s.respell l).apply other call) := by
  cases call <;> cases s
  case select.select call s =>
    exact (call.run_respell first second uses spoken (Statement.select.inj native)).map rfl
  case insert.insert call s =>
    exact (Outcome.Respelled.refl (call.run s)).map rfl
  case update.update call s =>
    refine Outcome.Respelled.map (f := Update.respell l) ?_ rfl
    have update : s.respell k = s := Statement.update.inj native
    cases call with
    | table name =>
      simp only [UpdateCall.run, Update.setTable]
      split
      · exact .done { s with table := some _ }
      · exact .fail _ s
    | assign row =>
      simp only [UpdateCall.run, Update.assign]
      split
      · exact .fail _ s
      · split
        · exact .fail _ s
        · exact .done { s with assignments := _ }
    | filter call =>
      simp only [UpdateCall.run]
      exact (call.run_respell first .update second uses spoken.filter
        (congrArg Update.filter update)).map rfl
    | reset => exact .done Update.empty
  case delete.delete call s =>
    refine Outcome.Respelled.map (f := Delete.respell l) ?_ rfl
    have delete : s.respell k = s := Statement.delete.inj native
    cases call with
    | table name =>
      simp only [DeleteCall.run, Delete.setTable]
      split
      · exact .done { s with table := some _ }
      · exact .fail _ s
    | filter call =>
      simp only [DeleteCall.run]
      exact (call.run_respell first .delete second uses spoken.filter
        (congrArg Delete.filter delete)).map rfl
    | reset => exact .done Delete.empty
  all_goals exact .fail _ _

end Statement

end SqlBuilder
