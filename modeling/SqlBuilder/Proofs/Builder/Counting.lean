import SqlBuilder.Proofs.Builder.Sending

set_option autoImplicit false

namespace SqlBuilder

variable {ε σ α β : Type}

/-- What an action returns, or its failure. -/
def resultOf (action : EStateM ε σ α) (s : σ) : Except ε α :=
  match action s with
  | .ok a _ => .ok a
  | .error e _ => .error e

theorem Except.map_bind {γ : Type} (x : Except ε α) (f : α → Except ε β) (g : β → γ) :
    (x >>= f).map g = x >>= fun a => (f a).map g := by
  cases x <;> rfl

theorem ofExcept_bind (x : Except ε α) (f : α → Except ε β) :
    (MonadExcept.ofExcept (x >>= f) : EStateM ε σ β) =
      MonadExcept.ofExcept x >>= fun a => MonadExcept.ofExcept (f a) := by
  cases x <;> rfl

/-- What is made of a result does not touch the state. -/
theorem result_bind_ofExcept (action : EStateM ε σ α) (f : α → Except ε β) (s : σ) :
    resultOf (action >>= fun a => MonadExcept.ofExcept (f a)) s = (resultOf action s).bind f := by
  unfold resultOf
  cases ran : action s with
  | error e t =>
    rw [bind_apply_of_error ran]
    rfl
  | ok a t =>
    rw [bind_apply_of_ok ran]
    cases read : f a with
    | error e => simp only [MonadExcept.ofExcept, Except.bind, read]; rfl
    | ok b => simp only [MonadExcept.ofExcept, Except.bind, read]; rfl

theorem tryFinally_of_ok {x : EStateM ε σ α} {last : EStateM ε σ β} {s t u : σ} {a : α} {b : β}
    (ran : x s = .ok a t) (closed : last t = .ok b u) : tryFinally x last s = .ok a u := by
  simp only [tryFinally, tryFinally', Functor.map, EStateM.map, ran, closed]

theorem tryFinally_of_error {x : EStateM ε σ α} {last : EStateM ε σ β} {s t u : σ} {e : ε} {b : β}
    (failed : x s = .error e t) (closed : last t = .ok b u) :
    tryFinally x last s = .error e u := by
  simp only [tryFinally, tryFinally', Functor.map, EStateM.map, failed, closed]

namespace Select

/-- What follows the head of a query. -/
def clauses (s : Select) : Except Error (List Sql) := do
  let joins ← s.joins.mapM renderJoin
  let filter ← renderCondition "WHERE" s.filter
  let having ← renderCondition "HAVING" s.having
  let limit ← countClause "LIMIT" s.limit
  let offset ← countClause "OFFSET" s.offset
  return joins ++ filter ++ s.groupClause ++ having ++ s.orderClause ++ limit ++ offset ++
    s.unions.map renderUnion

/-- The text of a query behind its columns. -/
def textFrom (s : Select) : Except Error String :=
  match s.table with
  | none => .error (.invalid (.table .select) .null)
  | some table => s.clauses.map fun parts =>
      " FROM " ++ table ++ String.join (parts.map fun part => " " ++ part.text) ++ ";"

theorem render_eq_clauses {s : Select} {table : String} (named : s.table = some table) :
    s.render = s.clauses.map fun parts => Sql.joinWith " " (s.head table :: parts) := by
  rw [render, named]
  simp only [clauses, Except.map_bind, List.append_assoc, List.cons_append]
  rfl

/-- The columns are a part of the text of a query, and nothing else depends on them. -/
theorem toSql_eq_textFrom (s : Select) : s.toSql = s.textFrom.map fun text =>
    "SELECT " ++ (if s.distinct then "DISTINCT " else "") ++ columnList s.columns ++ text := by
  cases named : s.table with
  | none => rw [toSql, render, textFrom, named]; rfl
  | some table =>
    rw [toSql, render_eq_clauses named, textFrom, named]
    cases s.clauses with
    | error e => rfl
    | ok parts =>
      have spread : (Sql.joinWith " " (s.head table :: parts)).text =
          (s.head table).text ++ String.join (parts.map fun part => " " ++ part.text) :=
        Sql.text_joinWith_append (List.cons_ne_nil (s.head table) []) parts
      simp only [Except.map, spread, text_head, String.append_assoc]

theorem toSql_counting (label : Text) (s : Select) : (s.counting label).toSql =
    s.textFrom.map fun text =>
      "SELECT " ++ (if s.distinct then "DISTINCT " else "") ++ ("COUNT(*) AS " ++ label.chars) ++
        text := by
  have columns : columnList (s.counting label).columns = "COUNT(*) AS " ++ label.chars := by
    rw [counting, columnList, List.isEmpty_cons, if_neg Bool.false_ne_true,
      String.intercalate_singleton]
  rw [toSql_eq_textFrom, columns]
  rfl

end Select

/-- What a connection returns when it is asked, or the failure of asking it. -/
def Connection.answer (c : Connection) : Except Error Value :=
  match c.routine with
  | .callable =>
    match c.answers with
    | [] => .ok (.list [])
    | .returns v :: _ => .ok v
    | .fails e :: _ => .error e
  | .number => .error (.notCallable (Value.int 5).typeName)
  | .null => .error (.notCallable Value.null.typeName)
  | .absent => .error c.noRoutine

/-- The number that an answer to a count tells under the label in its first row. -/
def Value.told (label : Text) (rows : Value) : Except Error Int := do
  let row ← rows.item (.int 0)
  let total ← row.item (.text label)
  total.toInteger

namespace Session

variable {s : Session}

theorem result_send (sql values : Value) (s : Session) :
    resultOf (send sql values) s = s.connection.answer := by
  unfold resultOf send Connection.answer
  cases s.connection.routine with
  | callable =>
    cases s.connection.answers with
    | nil => rfl
    | cons a rest => cases a <;> rfl
  | _ => rfl

theorem result_exec (statement : Statement) (s : Session) :
    resultOf (exec statement) s = statement.toSql.bind fun _ => s.connection.answer := by
  cases rendered : statement.toSql with
  | error e =>
    rw [resultOf, exec_of_error rendered]
    rfl
  | ok sql =>
    have same : (s.executing statement sql).connection = s.connection := by
      rw [(progress_executing statement sql s).connection]
      rfl
    have sent := result_send (.str sql) (.list statement.values) (s.executing statement sql)
    rw [same] at sent
    rw [resultOf, exec_of_ok rendered, Except.bind, ← sent, resultOf]
    unfold withinScope
    cases send (.str sql) (.list statement.values) (s.executing statement sql) <;> rfl

/-- What goes out for a text: the text with its values, if there is one and the connection can be
asked. -/
def requests (s : Session) (text : Except Error String) (values : List Value) :
    List (Value × Value) :=
  match text with
  | .ok sql => s.sendable (.str sql) (.list values)
  | .error _ => []

theorem count_eq_told (query : Select) (s : Session) :
    count query s = (exec (.select (query.counting s.config.countAlias)) >>= fun rows =>
      MonadExcept.ofExcept (rows.told s.config.countAlias)) s := by
  simp only [count_eq, Value.told, ofExcept_bind]

theorem result_count (query : Select) (s : Session) :
    resultOf (count query) s = (query.counting s.config.countAlias).toSql.bind fun _ =>
      s.connection.answer.bind (Value.told s.config.countAlias) := by
  have counted : resultOf (count query) s = resultOf (exec (.select (query.counting
      s.config.countAlias)) >>= fun rows =>
        MonadExcept.ofExcept (rows.told s.config.countAlias)) s := by
    rw [resultOf, count_eq_told, resultOf]
  have executed := result_exec (.select (query.counting s.config.countAlias)) s
  rw [counted, result_bind_ofExcept, executed]
  change ((query.counting s.config.countAlias).toSql.bind _).bind _ = _
  cases (query.counting s.config.countAlias).toSql <;> rfl

end Session

namespace Builder

variable {b : Builder} {query : Select} {operation : Operation}

/-- The second builder is the first but for what was sent and logged. -/
structure Intact (b c : Builder) : Prop where
  statement : c.statement = b.statement
  connection : c.session.connection.bare = b.session.connection.bare
  config : c.session.config = b.session.config
  bound : c.session.correlation.bound = b.session.correlation.bound

/-- The queries that go out for a text from inside a scope of the builder. -/
def outgoing (b : Builder) (text : Except Error String) (values : List Value) : List Query :=
  (b.session.requests text values).map fun (sql, values) =>
    ⟨b.session.connection.name, sql, values, some b.session.inner⟩

/-- The operation sends the text with the values once, if there is a text; otherwise it fails like
the text, and nothing happens. Either way the builder stays as it was. -/
structure SendsOnce (operation : Operation) (text : Except Error String) (values : List Value)
    (b : Builder) : Prop where
  intact : Intact b (b.next operation)
  queries : (b.next operation).session.queries = b.session.queries ++ b.outgoing text values
  refused : ∀ e, text = .error e → b.reply operation = .error e ∧ b.next operation = b

theorem next_of_inSession {α : Type} {action : SessionM α} {reply : α → Reply}
    (ran : run operation b = (inSession action >>= fun a => pure (reply a)) b) :
    b.next operation = ⟨b.statement, stateAfter action b.session⟩ := by
  rw [next, stateAfter, ran, inSession_bind_pure, stateAfter]
  cases action b.session <;> rfl

theorem reply_of_inSession {α : Type} {action : SessionM α} {reply : α → Reply}
    (ran : run operation b = (inSession action >>= fun a => pure (reply a)) b) :
    b.reply operation = (resultOf action b.session).map reply := by
  rw [Builder.reply, ran, inSession_bind_pure, resultOf]
  cases action b.session <;> rfl

/-- An operation that executes a statement and makes something of the answer sends it once. -/
theorem sendsOnce_of_exec {α : Type} {action : SessionM α} {reply : α → Reply}
    (statement : Statement) (read : Value → Except Error α)
    (ran : run operation b = (inSession action >>= fun a => pure (reply a)) b)
    (executes : stateAfter action b.session = stateAfter (Session.exec statement) b.session)
    (result : resultOf action b.session =
      statement.toSql.bind fun _ => b.session.connection.answer.bind read) :
    SendsOnce operation statement.toSql statement.values b := by
  have next : b.next operation = ⟨b.statement, stateAfter (Session.exec statement) b.session⟩ := by
    rw [next_of_inSession ran, executes]
  cases rendered : statement.toSql with
  | error e =>
    have nothing : stateAfter (Session.exec statement) b.session = b.session := by
      rw [stateAfter, Session.exec_of_error rendered]
    rw [nothing] at next
    have failed : b.reply operation = .error e := by
      rw [reply_of_inSession ran, result, rendered]
      rfl
    constructor
    · rw [next]
      exact ⟨rfl, rfl, rfl, rfl⟩
    · rw [next]
      exact (List.append_nil _).symm
    · rintro _ ⟨⟩
      exact ⟨failed, next⟩
  | ok sql =>
    have sent := Session.scoped_exec (s := b.session) rendered
    constructor
    · rw [next]
      refine ⟨rfl, ?_, sent.config, sent.bound⟩
      rw [sent.connection]
      rfl
    · rw [next, sent.queries]
      rfl
    · intro e failed
      cases failed

theorem reply_exec (b : Builder) :
    b.reply .exec = b.statement.toSql.bind fun _ => b.session.connection.answer.map .value := by
  rw [reply_of_inSession (run_exec b), Session.result_exec]
  cases b.statement.toSql <;> rfl

theorem sendsOnce_exec (b : Builder) :
    SendsOnce .exec b.statement.toSql b.statement.values b := by
  refine sendsOnce_of_exec b.statement .ok (run_exec b) rfl ?_
  rw [Session.result_exec]
  cases b.session.connection.answer <;> rfl

/-- Replaces the columns of a query; other statements have none. -/
def setColumns (columns : List String) : BuilderM Unit :=
  modify fun b =>
    match b.statement with
    | .select query => { b with statement := .select { query with columns } }
    | _ => b

/-- Executes the builder's own statement with other columns, and puts those of the query back
however that ends. -/
def execWithColumns (query : Select) (columns : List String) : BuilderM Value := do
  setColumns columns
  try
    let b ← get
    inSession (Session.exec b.statement)
  finally
    setColumns query.columns

/-- The count that is taken in place. -/
def countInPlace (query : Select) : BuilderM Int := do
  let label := (← get).session.config.countAlias
  let rows ← execWithColumns query (query.counting label).columns
  MonadExcept.ofExcept (rows.told label)

theorem execWithColumns_eq (query : Select) (columns : List String) (s : Session) :
    execWithColumns query columns ⟨.select query, s⟩ =
      inSession (Session.exec (.select { query with columns })) ⟨.select query, s⟩ := by
  have set : setColumns columns ⟨.select query, s⟩ =
      .ok () ⟨.select { query with columns }, s⟩ := rfl
  have restored : ∀ t, setColumns query.columns ⟨.select { query with columns }, t⟩ =
      .ok () ⟨.select query, t⟩ := fun _ => rfl
  rw [execWithColumns, bind_apply_of_ok set, inSession]
  cases executed : Session.exec (.select { query with columns }) s with
  | error e t =>
    refine tryFinally_of_error (t := ⟨.select { query with columns }, t⟩) ?_ (restored t)
    rw [get_bind_apply, inSession, executed]
  | ok rows t =>
    refine tryFinally_of_ok (t := ⟨.select { query with columns }, t⟩) ?_ (restored t)
    rw [get_bind_apply, inSession, executed]

/-- Counting in place is counting. -/
theorem countInPlace_eq (queries : b.statement = .select query) :
    countInPlace query b = inSession (Session.count query) b := by
  obtain ⟨statement, s⟩ := b
  obtain rfl : statement = .select query := queries
  have swapped := execWithColumns_eq query (query.counting s.config.countAlias).columns s
  have counting : Statement.select
      { query with columns := (query.counting s.config.countAlias).columns } =
        .select (query.counting s.config.countAlias) := rfl
  rw [counting] at swapped
  rw [countInPlace, get_bind_apply, inSession]
  dsimp only
  rw [Session.count_eq_told]
  cases executed : Session.exec (.select (query.counting s.config.countAlias)) s with
  | error e t =>
    rw [inSession, executed] at swapped
    rw [bind_apply_of_error swapped, bind_apply_of_error executed]
  | ok rows t =>
    rw [inSession, executed] at swapped
    rw [bind_apply_of_ok swapped, bind_apply_of_ok executed]
    cases rows.told s.config.countAlias <;> rfl

/-- What counting the rows of a query does: it sends the text of the query with the count in the
place of its columns, and replies the number that the answer tells. -/
structure Counts (query : Select) (b : Builder) : Prop where
  sends : SendsOnce .count (query.counting b.session.config.countAlias).toSql query.values b
  rows : query.toSql = query.textFrom.map fun text =>
    "SELECT " ++ (if query.distinct then "DISTINCT " else "") ++
      Select.columnList query.columns ++ text
  number : (query.counting b.session.config.countAlias).toSql = query.textFrom.map fun text =>
    "SELECT " ++ (if query.distinct then "DISTINCT " else "") ++
      ("COUNT(*) AS " ++ b.session.config.countAlias.chars) ++ text
  /-- The count fails like the query where the query has no text. -/
  fate : ∀ e, query.toSql = .error e ↔
    (query.counting b.session.config.countAlias).toSql = .error e
  reply : b.reply .count = (query.counting b.session.config.countAlias).toSql.bind fun _ =>
    (b.session.connection.answer.bind (Value.told b.session.config.countAlias)).map
      fun n => .value (.int n)
  inPlace : run .count b = (countInPlace query >>= fun n => pure (.value (.int n))) b

theorem counts_of_select (queries : b.statement = .select query) : Counts query b where
  sends := sendsOnce_of_exec (.select (query.counting b.session.config.countAlias))
    (Value.told b.session.config.countAlias) (run_count queries)
    (Session.stateAfter_count query b.session) (Session.result_count query b.session)
  rows := query.toSql_eq_textFrom
  number := query.toSql_counting _
  fate := by
    intro e
    rw [query.toSql_eq_textFrom, query.toSql_counting]
    cases query.textFrom <;> simp [Except.map]
  reply := by
    rw [reply_of_inSession (run_count queries), Session.result_count]
    cases (query.counting b.session.config.countAlias).toSql <;> rfl
  inPlace := by
    rw [run_count queries]
    have same := countInPlace_eq queries
    cases counted : inSession (Session.count query) b with
    | ok n c => rw [bind_apply_of_ok counted, bind_apply_of_ok (same.trans counted)]
    | error e c => rw [bind_apply_of_error counted, bind_apply_of_error (same.trans counted)]

/-- Executing and counting leave the builder as it was, whatever the connection does. A statement
is sent once when it has a text, with its values; a count sends the query for the number of its
rows. -/
theorem intact_of_asking (b : Builder) :
    SendsOnce .exec b.statement.toSql b.statement.values b ∧
      b.reply .exec = (b.statement.toSql.bind fun _ => b.session.connection.answer.map .value) ∧
      ∀ query, b.statement = .select query → Counts query b :=
  ⟨sendsOnce_exec b, reply_exec b, fun _ queries => counts_of_select queries⟩

theorem intact_of_asking_distinctNames :
    let query : Select :=
      { Select.empty with table := some "users", columns := ["name"], distinct := true }
    let b : Builder := ⟨.select query, .sample⟩
    b.statement = .select query ∧ Intact b (b.next .count) ∧
      (b.next .count).session.queries =
        [⟨"main", .str "SELECT DISTINCT COUNT(*) AS count FROM users;", .list [],
          some b.session.inner⟩] := by
  intro query b
  obtain ⟨_, _, counts⟩ := intact_of_asking b
  have sends := (counts query rfl).sends
  have text : (query.counting b.session.config.countAlias).toSql =
      .ok "SELECT DISTINCT COUNT(*) AS count FROM users;" := rfl
  rw [text] at sends
  exact ⟨rfl, sends.intact, sends.queries⟩

end Builder

end SqlBuilder
