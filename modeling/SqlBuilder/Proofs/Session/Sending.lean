import SqlBuilder.Proofs.Action
import SqlBuilder.Session

set_option autoImplicit false

namespace SqlBuilder.Session

variable {s t u : Session} {statement : Statement} {id sql values : Value}
  {asked more : List (Value × Value)}

/-- The id in force inside a scope that is opened here without an id of its own. -/
def inner (s : Session) : Value :=
  s.correlation.bound.getD (.str (s.supply s.correlation.issued))

theorem inner_of_bound (bound : s.correlation.bound = some id) : s.inner = id := by
  rw [inner, bound, Option.getD_some]

theorem opening_of_bound (bound : s.correlation.bound = some id) :
    s.opening = ⟨id, s.correlation, none⟩ := by
  simp only [opening, Correlation.enter, bound]

theorem opening_of_unbound (unbound : s.correlation.bound = none) :
    s.opening = ⟨s.inner, ⟨some s.inner, s.correlation.issued + 1⟩, some none⟩ := by
  simp only [opening, inner, Correlation.enter, unbound]
  rfl

theorem entered_of_bound (bound : s.correlation.bound = some id) : s.entered = s := by
  rw [entered, opening_of_bound bound]

theorem entered_of_unbound (unbound : s.correlation.bound = none) :
    s.entered = { s with correlation := ⟨some s.inner, s.correlation.issued + 1⟩ } := by
  rw [entered, opening_of_unbound unbound]

theorem bound_entered (s : Session) : s.entered.correlation.bound = some s.inner := by
  cases bound : s.correlation.bound with
  | none => rw [entered_of_unbound bound]
  | some id => rw [entered_of_bound bound, inner_of_bound bound, bound]

theorem issued_entered (s : Session) : s.entered.correlation.issued =
    s.correlation.issued + if s.correlation.bound = none then 1 else 0 := by
  cases bound : s.correlation.bound with
  | none => rw [entered_of_unbound bound, if_pos rfl]
  | some id => rw [entered_of_bound bound, if_neg nofun, Nat.add_zero]

theorem issued_leave (token : Option (Option Value)) (s : Session) :
    (s.leave token).correlation.issued = s.correlation.issued := by
  cases token <;> rfl

/-- A scope whose body gives its binding back leaves the binding that there was before it. -/
theorem bound_leave (back : t.correlation.bound = s.entered.correlation.bound) :
    (t.leave s.opening.token).correlation.bound = s.correlation.bound := by
  cases bound : s.correlation.bound with
  | none =>
    rw [opening_of_unbound bound]
    rfl
  | some id =>
    rw [entered_of_bound bound, bound] at back
    rw [opening_of_bound bound]
    exact back

theorem stateAfter_withinScope {α : Type} (action : SessionM α) (s : Session) :
    stateAfter (withinScope action) s = (stateAfter action s.entered).leave s.opening.token := by
  unfold stateAfter withinScope
  cases action s.entered <;> rfl

/-- From `s` to `t` the queries of `asked` went out, and all of them, like all that was logged,
under one id. -/
structure Progress (id : Value) (asked : List (Value × Value)) (s t : Session) : Prop where
  connection : t.connection =
    { s.connection with answers := s.connection.answers.drop asked.length }
  config : t.config = s.config
  correlation : t.correlation = s.correlation
  supply : t.supply = s.supply
  parser : t.parser = s.parser
  queries : t.queries =
    s.queries ++ asked.map fun (sql, values) => ⟨s.connection.name, sql, values, some id⟩
  records : ∃ logged, t.records = s.records ++ logged ∧
    ∀ r ∈ logged, r.stamp = LogRecord.stampFor (some id)

namespace Progress

theorem refl (id : Value) (s : Session) : Progress id [] s s where
  connection := rfl
  config := rfl
  correlation := rfl
  supply := rfl
  parser := rfl
  queries := (List.append_nil _).symm
  records := ⟨[], (List.append_nil _).symm, nofun⟩

theorem trans (first : Progress id asked s t) (second : Progress id more t u) :
    Progress id (asked ++ more) s u where
  connection := by
    rw [second.connection, first.connection, List.drop_drop, List.length_append]
  config := second.config.trans first.config
  correlation := second.correlation.trans first.correlation
  supply := second.supply.trans first.supply
  parser := second.parser.trans first.parser
  queries := by
    rw [second.queries, first.queries, first.connection, List.map_append, List.append_assoc]
  records := by
    obtain ⟨before, recorded, stamped⟩ := first.records
    obtain ⟨after, recorded', stamped'⟩ := second.records
    refine ⟨before ++ after, by rw [recorded', recorded, List.append_assoc], fun r member => ?_⟩
    rcases List.mem_append.mp member with early | late
    · exact stamped r early
    · exact stamped' r late

theorem log (bound : s.correlation.bound = some id) (logger : String) (level : Level)
    (message : String) (fields : Option Entries) :
    Progress id [] s (s.log logger level message fields) where
  connection := rfl
  config := rfl
  correlation := rfl
  supply := rfl
  parser := rfl
  queries := (List.append_nil _).symm
  records := by
    refine ⟨_, rfl, fun r member => ?_⟩
    rw [List.mem_singleton.mp member, ← bound]
    rfl

theorem query (bound : s.correlation.bound = some id) (sql values : Value) :
    Progress id [(sql, values)] s (s.sent sql values) where
  connection := by rw [Session.sent, List.length_singleton, List.drop_one]
  config := rfl
  correlation := rfl
  supply := rfl
  parser := rfl
  queries := by rw [Session.sent, bound, List.map_singleton]
  records := ⟨[], (List.append_nil _).symm, nofun⟩

end Progress

/-- A query, if the connection can be asked. -/
def sendable (s : Session) (sql values : Value) : List (Value × Value) :=
  if s.connection.routine = .callable then [(sql, values)] else []

theorem stateAfter_send (sql values : Value) (s : Session) :
    stateAfter (send sql values) s =
      if s.connection.routine = .callable then s.sent sql values else s := by
  cases routine : s.connection.routine with
  | callable =>
    cases answers : s.connection.answers with
    | nil => simp only [stateAfter, send, routine, answers, ↓reduceIte]
    | cons a rest => cases a <;> simp only [stateAfter, send, routine, answers, ↓reduceIte]
  | _ => simp [stateAfter, send, routine]

theorem progress_send (bound : s.correlation.bound = some id) (sql values : Value) :
    Progress id (s.sendable sql values) s (stateAfter (send sql values) s) := by
  rw [stateAfter_send, sendable]
  split
  · exact .query bound sql values
  · exact .refl id s

/-- The queries of `asked` went out inside a scope without an id of its own, which is closed. -/
def Scoped (asked : List (Value × Value)) (s t : Session) : Prop :=
  ∃ u, Progress s.inner asked s.entered u ∧ u.leave s.opening.token = t

theorem Scoped.progress (call : Scoped asked s t) (bound : s.correlation.bound = some id) :
    Progress id asked s t := by
  obtain ⟨u, inside, rfl⟩ := call
  rw [inner_of_bound bound, entered_of_bound bound] at inside
  rw [opening_of_bound bound]
  exact inside

theorem Scoped.connection (call : Scoped asked s t) : t.connection =
    { s.connection with answers := s.connection.answers.drop asked.length } := by
  obtain ⟨u, inside, rfl⟩ := call
  exact inside.connection

theorem Scoped.config (call : Scoped asked s t) : t.config = s.config := by
  obtain ⟨u, inside, rfl⟩ := call
  exact inside.config

theorem Scoped.queries (call : Scoped asked s t) : t.queries =
    s.queries ++ asked.map fun (sql, values) => ⟨s.connection.name, sql, values, some s.inner⟩ := by
  obtain ⟨u, inside, rfl⟩ := call
  exact inside.queries

theorem Scoped.bound (call : Scoped asked s t) : t.correlation.bound = s.correlation.bound := by
  obtain ⟨u, inside, rfl⟩ := call
  exact bound_leave (congrArg Correlation.bound inside.correlation)

theorem Scoped.supply (call : Scoped asked s t) : t.supply = s.supply := by
  obtain ⟨u, inside, rfl⟩ := call
  exact inside.supply

theorem Scoped.parser (call : Scoped asked s t) : t.parser = s.parser := by
  obtain ⟨u, inside, rfl⟩ := call
  exact inside.parser

/-- A scope takes an id from the supply exactly when none is bound around it. -/
theorem Scoped.issued (call : Scoped asked s t) : t.correlation.issued =
    s.correlation.issued + if s.correlation.bound = none then 1 else 0 := by
  obtain ⟨u, inside, rfl⟩ := call
  rw [← issued_entered, ← inside.correlation, issued_leave]

theorem exec_of_error {e : Error} (failed : statement.toSql = .error e) :
    exec statement s = .error e s := by
  rw [exec, failed]
  exact bind_apply_of_error rfl

/-- The session that a statement is sent from: inside a scope, and with a record if asked for. -/
def executing (statement : Statement) (sql : String) (s : Session) : Session :=
  if s.config.logStatements.truthy then
    s.entered.log "builder" Level.debug ("Executing " ++ statement.kind.keyword ++ " statement")
      (some [(.str "sql", .str sql), (.str "value_count", .int statement.values.length)])
  else s.entered

theorem exec_of_ok {sql : String} (rendered : statement.toSql = .ok sql) :
    exec statement s = withinScope (fun _ => send (.str sql) (.list statement.values)
      (s.executing statement sql)) s := by
  have entered : s.entered.config = s.config := rfl
  have opened : (MonadExcept.ofExcept (.ok sql) : SessionM String) s = .ok sql s := rfl
  rw [exec, rendered, bind_apply_of_ok opened]
  unfold withinScope
  rw [get_bind_apply, entered, executing]
  by_cases logs : s.config.logStatements.truthy = true
  · rw [if_pos logs, if_pos logs]
    rfl
  · rw [if_neg logs, if_neg logs]

theorem progress_executing (statement : Statement) (sql : String) (s : Session) :
    Progress s.inner [] s.entered (s.executing statement sql) := by
  unfold executing
  split
  · exact .log s.bound_entered _ _ _ _
  · exact .refl _ _

/-- A statement that renders is sent inside a scope, if the connection can be asked. -/
theorem scoped_exec {sql : String} (rendered : statement.toSql = .ok sql) :
    Scoped (s.sendable (.str sql) (.list statement.values)) s (stateAfter (exec statement) s) := by
  have opened := progress_executing statement sql s
  have bound : (s.executing statement sql).correlation.bound = some s.inner := by
    rw [opened.correlation, bound_entered]
  have routine : (s.executing statement sql).connection.routine = s.connection.routine := by
    rw [opened.connection]
    rfl
  have inside := opened.trans (progress_send bound (.str sql) (.list statement.values))
  rw [sendable, routine] at inside
  have ran : stateAfter (exec statement) s = stateAfter (withinScope fun _ =>
      send (.str sql) (.list statement.values) (s.executing statement sql)) s := by
    rw [stateAfter, exec_of_ok rendered, stateAfter]
  exact ⟨_, inside, (ran.trans (stateAfter_withinScope _ s)).symm⟩

/-- A statement that renders takes the answer, if the connection has one. -/
theorem exec_of_answer {sql : String} {v : Value} {rest : List Answer}
    (rendered : statement.toSql = .ok sql) (routine : s.connection.routine = .callable)
    (answers : s.connection.answers = .returns v :: rest) :
    ∃ t, exec statement s = .ok v t ∧ Scoped [(.str sql, .list statement.values)] s t := by
  have opened := progress_executing statement sql s
  have same : (s.executing statement sql).connection = s.connection := by
    rw [opened.connection]
    rfl
  have answered : send (.str sql) (.list statement.values) (s.executing statement sql) =
      .ok v ((s.executing statement sql).sent (.str sql) (.list statement.values)) := by
    rw [send, same, routine, answers]
  have ran : exec statement s = .ok v (((s.executing statement sql).sent (.str sql)
      (.list statement.values)).leave s.opening.token) := by
    rw [exec_of_ok rendered]
    unfold withinScope
    rw [answered]
  have inside := scoped_exec (s := s) rendered
  rw [sendable, if_pos routine, stateAfter, ran] at inside
  exact ⟨_, ran, inside⟩

variable {query : Select} {start : Session}

theorem count_eq (query : Select) (s : Session) :
    count query s = (exec (.select (query.counting s.config.countAlias)) >>= fun rows => do
      let row ← MonadExcept.ofExcept (rows.item (.int 0))
      let total ← MonadExcept.ofExcept (row.item (.text s.config.countAlias))
      MonadExcept.ofExcept total.toInteger) s := rfl

theorem count_of_error {e : Error}
    (failed : (Statement.select (query.counting s.config.countAlias)).toSql = .error e) :
    count query s = .error e s := by
  rw [count_eq, bind_apply_of_error (exec_of_error failed)]

theorem stateAfter_count (query : Select) (s : Session) :
    stateAfter (count query) s =
      stateAfter (exec (.select (query.counting s.config.countAlias))) s := by
  rw [stateAfter, count_eq, stateAfter]
  cases sent : exec (.select (query.counting s.config.countAlias)) s with
  | error e t => rw [bind_apply_of_error sent]
  | ok rows t =>
    rw [bind_apply_of_ok sent]
    -- Reading the number out of the answer does not touch the session.
    cases rows.item (.int 0) with
    | error e => rfl
    | ok row =>
      cases told : row.item (.text s.config.countAlias) with
      | error e => simp only [MonadExcept.ofExcept, pure_bind, told]; rfl
      | ok total =>
        cases read : total.toInteger <;>
        · simp only [MonadExcept.ofExcept, pure_bind, told, read]
          rfl

/-- What was sent and logged since `start` carries one id. -/
def Since (id : Value) (start s : Session) : Prop := ∃ asked, Progress id asked start s

theorem keeps_since_exec (bound : start.correlation.bound = some id) (statement : Statement) :
    Keeps (Since id start) (exec statement) := by
  rintro s ⟨asked, before⟩
  have same : s.correlation.bound = some id := by rw [before.correlation, bound]
  cases rendered : statement.toSql with
  | error e =>
    rw [stateAfter, exec_of_error rendered]
    exact ⟨asked, before⟩
  | ok sql => exact ⟨_, before.trans ((scoped_exec rendered).progress same)⟩

theorem keeps_since_count (bound : start.correlation.bound = some id) (query : Select) :
    Keeps (Since id start) (count query) := by
  intro s before
  rw [stateAfter_count]
  exact keeps_since_exec bound _ s before

end SqlBuilder.Session
