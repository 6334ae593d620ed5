import SqlBuilder.Proofs.Builder.Sending
import SqlBuilder.Proofs.Condition.Substance
import SqlBuilder.Proofs.Statement.Rendering

set_option autoImplicit false

namespace SqlBuilder

namespace Session

variable {s : Session} {statement : Statement}

/-- A statement that renders is sent, if the connection can be asked. -/
theorem exec_queries {sql : String} (rendered : statement.toSql = .ok sql) :
    ∃ id, (stateAfter (exec statement) s).queries =
      s.queries ++ if s.connection.routine = .callable then
        [⟨s.connection.name, .str sql, .list statement.values, id⟩] else [] := by
  obtain ⟨u, inside, closed⟩ := scoped_exec (s := s) rendered
  have same : (u.leave s.opening.token).queries = u.queries := rfl
  refine ⟨some s.inner, ?_⟩
  rw [← closed, same, inside.queries, sendable]
  split <;> rfl

end Session

/-- The faults of a condition are those of a query. -/
theorem Condition.query_of_build {c : Condition} {e : Error} (failed : c.build = .error e) :
    ∃ fault, e = .query fault := by
  unfold build at failed
  split at failed
  · cases failed
    exact ⟨_, rfl⟩
  · cases failed

theorem Value.query_of_shown {v : Value} {e : Error} (failed : v.shown = .error e) :
    ∃ fault, e = .query fault := by
  unfold shown at failed
  split at failed
  · cases failed
    exact ⟨_, rfl⟩
  · cases failed

/-- The text of an update up to its condition. -/
def Update.head (s : Update) (table : String) : String :=
  "UPDATE " ++ table ++ " SET " ++ ", ".intercalate (s.assignments.map fun (column, v) =>
    column.display ++ if v.isNull then " = NULL" else " = ?")

theorem Update.text_assignments (s : Update) (table : String) :
    "UPDATE " ++ table ++ " SET " ++
      Sql.text (Sql.joinWith ", " (s.assignments.map assignmentPart)) = s.head table := by
  have each : ∀ entry : Value × Value, (assignmentPart entry).text =
      entry.1.display ++ if entry.2.isNull then " = NULL" else " = ?" := by
    intro entry
    unfold assignmentPart
    cases entry.2.isNull
    · simp [Sql.text_cons, Piece.text, String.append_assoc]
    · simp [Sql.ofText, Piece.text]
  rw [head, Sql.text_joinWith, List.map_map]
  congr 2
  exact List.map_congr_left fun entry _ => each entry

theorem Update.query_of_render {s : Update} {e : Error} (failed : s.render = .error e) :
    ∃ fault, e = .query fault := by
  unfold render at failed
  split at failed
  · cases failed
    exact ⟨_, rfl⟩
  · split at failed
    · cases failed
      exact ⟨_, rfl⟩
    · split at failed
      · cases failed
        exact ⟨_, rfl⟩
      · rcases Except.bind_eq_error.mp failed with unshown | ⟨parts, _, later⟩
        · obtain ⟨entry, _, first⟩ := Except.mapM_eq_error unshown
          exact Value.query_of_shown (Except.map_eq_error.mp first)
        · rcases Except.bind_eq_error.mp later with unbuilt | ⟨_, _, done⟩
          · exact Condition.query_of_build unbuilt
          · cases done

theorem Delete.query_of_render {s : Delete} {e : Error} (failed : s.render = .error e) :
    ∃ fault, e = .query fault := by
  unfold render at failed
  split at failed
  · cases failed
    exact ⟨_, rfl⟩
  · split at failed
    · cases failed
      exact ⟨_, rfl⟩
    · exact Condition.query_of_build (Except.map_eq_error.mp failed)

namespace Statement

/-- The condition of the `WHERE` clause. -/
def filter? : Statement → Option Condition
  | .select s => s.filter
  | .insert _ => none
  | .update s => s.filter
  | .delete s => s.filter

/-- The text of an update or a deletion up to its condition. -/
def head? : Statement → Option String
  | .update s => s.table.map s.head
  | .delete s => s.table.map fun table => "DELETE FROM " ++ table
  | _ => none

/-- An update or a deletion that renders has a condition without a fault, and ends with it. -/
theorem text_of_render {s : Statement} {sql : Sql} (writes : s.kind = .update ∨ s.kind = .delete)
    (rendered : s.render = .ok sql) :
    ∃ head c, s.head? = some head ∧ s.filter? = some c ∧ c.fault? = none ∧
      sql.text = head ++ " WHERE " ++ c.text := by
  cases s with
  | select s => simp [kind] at writes
  | insert s => simp [kind] at writes
  | update s =>
    obtain ⟨table, c, named, _, present, faultless, _, rfl⟩ := Update.render_of_ok rendered
    have spelled : (Sql.text c.sql.trim) = c.text := Sql.text_trim c.sql
    refine ⟨s.head table, c, ?_, present, faultless, ?_⟩
    · rw [head?, named, Option.map_some]
    · rw [← Update.text_assignments, List.cons_append, Sql.text_cons, Sql.text_append,
        Sql.text_cons, spelled]
      simp only [Piece.text, String.append_assoc]
  | delete s =>
    obtain ⟨table, c, named, present, faultless, rfl⟩ := Delete.render_of_ok rendered
    have spelled : (Sql.text c.sql.trim) = c.text := Sql.text_trim c.sql
    refine ⟨"DELETE FROM " ++ table, c, ?_, present, faultless, ?_⟩
    · rw [head?, named, Option.map_some]
    · rw [Sql.text_cons, spelled]
      rfl

theorem query_of_toSql {s : Statement} {e : Error} (writes : s.kind = .update ∨ s.kind = .delete)
    (failed : s.toSql = .error e) : ∃ fault, e = .query fault := by
  have unrendered := Except.map_eq_error.mp failed
  cases s with
  | select s => simp [kind] at writes
  | insert s => simp [kind] at writes
  | update s => exact Update.query_of_render unrendered
  | delete s => exact Delete.query_of_render unrendered

end Statement

/-- The query of a statement with a condition of substance: the start of the statement, and then
the text of the condition. -/
structure Statement.Guarded (s : Statement) (start : String) (c : Condition) (q : Query) :
    Prop where
  head : s.head? = some start
  filter : s.filter? = some c
  substantial : ∃ t ∈ c.tokens, t.Substantial
  built : c.build.map Sql.text = .ok c.text
  nonempty : c.text ≠ ""
  sql : q.sql = .str (start ++ " WHERE " ++ c.text ++ ";")
  values : q.values = .list s.values

namespace Builder

/-- The operation sends queries. -/
def Sends (b : Builder) (operation : Operation) : Prop :=
  (b.next operation).session.queries ≠ b.session.queries

theorem run_toSql (b : Builder) : run .toSql b =
    ((MonadExcept.ofExcept b.statement.toSql : BuilderM String) >>= fun sql =>
      pure (Reply.value (.str sql))) b := rfl

theorem reply_exec_of_error {b : Builder} {e : Error} (failed : b.statement.toSql = .error e) :
    b.reply .exec = .error e := by
  rw [reply, run_exec, inSession_bind_pure, Session.exec_of_error failed]

theorem reply_toSql_of_error {b : Builder} {e : Error} (failed : b.statement.toSql = .error e) :
    b.reply .toSql = .error e := by
  have refused : (MonadExcept.ofExcept (.error e) : BuilderM String) b = .error e b := rfl
  rw [reply, run_toSql, failed, bind_apply_of_error refused]

/-- An update or a deletion is sent only with a condition that has a token of substance, and the
text that is sent ends with that condition. When nothing is sent, rendering fails, and executing
fails with the same error. -/
theorem exec_guarded (kind : StatementKind) (session : Session) (operations : List Operation)
    (b : Builder) (reached : after ⟨.empty kind, session⟩ operations = b)
    (writes : kind = .update ∨ kind = .delete)
    (nested : ∀ c, b.statement.filter? = some c → c.Nested) :
    (b.Sends .exec → ∃ start c q, b.statement.Guarded start c q ∧
        (b.next .exec).session.queries = b.session.queries ++ [q]) ∧
      (session.connection.routine = .callable → ¬ b.Sends .exec →
        ∃ fault, b.reply .toSql = .error (.query fault) ∧
          b.reply .exec = .error (.query fault)) := by
  have writing : b.statement.kind = .update ∨ b.statement.kind = .delete := by
    rw [← reached, after_kind]
    rcases writes with rfl | rfl
    · exact .inl rfl
    · exact .inr rfl
  have routine : b.session.connection.routine = session.connection.routine := by
    rw [← reached]
    obtain ⟨same, _⟩ := Prod.mk.inj (after_peer ⟨.empty kind, session⟩ operations)
    have bare : ∀ c : Connection, c.bare.routine = c.routine := fun _ => rfl
    rw [← bare, same, bare]
  unfold Sends
  rw [next_exec]
  -- What renders is sent when the connection can be asked; what fails to render never is.
  cases rendered : b.statement.toSql with
  | error e =>
    obtain ⟨fault, rfl⟩ := Statement.query_of_toSql writing rendered
    refine ⟨fun sends => absurd ?_ sends, fun _ _ => ⟨fault, ?_, ?_⟩⟩
    · rw [stateAfter, Session.exec_of_error rendered]
    · exact reply_toSql_of_error rendered
    · exact reply_exec_of_error rendered
  | ok text =>
    obtain ⟨id, queries⟩ := Session.exec_queries (s := b.session) rendered
    rw [queries, routine]
    constructor
    · intro sends
      by_cases callable : session.connection.routine = .callable
      · rw [if_pos callable]
        obtain ⟨sql, ok, rfl⟩ := Except.map_eq_ok.mp rendered
        obtain ⟨start, c, head, filter, faultless, spelled⟩ := Statement.text_of_render writing ok
        have built : c.build = .ok c.sql.trim := Condition.build_eq_ok.mpr ⟨faultless, rfl⟩
        refine ⟨start, c, _, ⟨head, filter, ?_, ?_, ?_, ?_, rfl⟩, rfl⟩
        · exact Condition.substantial_of_faultless (nested c filter) faultless
        · rw [built, Except.map, Sql.text_trim]
          rfl
        · exact (Condition.checked_of_faultless faultless).nonempty
        · rw [spelled]
      · rw [if_neg callable] at sends
        exact absurd (List.append_nil _) sends
    · intro callable silent
      rw [if_pos callable] at silent
      simp at silent

/-- A deletion whose condition is one group, which holds what the calls write. -/
def deleteGroup (calls : List ConditionCall) : Builder :=
  after ⟨.empty .delete, .sample⟩
    [.call (.delete (.table (.str "t"))), .call (.delete (.filter .openGroup)),
      .call (.delete (.filter (.extend (.callback none calls)))),
      .call (.delete (.filter .closeGroup))]

theorem exec_guarded_deleteGroup :
    (∃ start c q,
      (deleteGroup [.col (.str "a"), .compare .equal (.int 1)]).statement.Guarded start c q ∧
        ((deleteGroup [.col (.str "a"), .compare .equal (.int 1)]).next .exec).session.queries =
          [q]) ∧
      ∃ fault, (deleteGroup []).reply .toSql = .error (.query fault) ∧
        (deleteGroup []).reply .exec = .error (.query fault) := by
  have opened : (Condition.blank.push .opening).Nested :=
    Condition.nested_push.mpr ⟨Condition.nested_blank, nofun⟩
  constructor
  · refine (exec_guarded .delete .sample _ (deleteGroup _) rfl (.inr rfl) ?_).1 ?_
    · intro c filter
      cases (filter : some _ = some c)
      have compared : (Condition.blank.push .opening |>.push
          (.comparison false [.literal "a = ", .slot (.int 1)])).Nested :=
        Condition.nested_push.mpr ⟨opened, nofun⟩
      exact Condition.nested_push.mpr ⟨compared, fun _ => by decide⟩
    · intro same
      cases same
  · refine (exec_guarded .delete .sample _ (deleteGroup _) rfl (.inr rfl) ?_).2 rfl ?_
    · intro c filter
      cases (filter : some _ = some c)
      exact Condition.nested_push.mpr ⟨opened, fun _ => by decide⟩
    · intro sends
      exact sends rfl

end Builder

end SqlBuilder
