import SqlBuilder.Builder
import SqlBuilder.Proofs.Session.Sending

set_option autoImplicit false

namespace SqlBuilder

/-- A session in which nothing has happened, for a connection that answers every query. -/
def Session.sample : Session :=
  .start ⟨"main", .str "sqlite", .callable, []⟩ .standard (fun n => toString n) .queries

namespace Builder

/-- The builder after an operation, whether that succeeds or fails. -/
def next (b : Builder) (operation : Operation) : Builder := stateAfter (run operation) b

/-- The builder after operations, each of which may fail. -/
def after (b : Builder) (operations : List Operation) : Builder := operations.foldl next b

/-- What an operation replies, or its failure. -/
def reply (b : Builder) (operation : Operation) : Except Error Reply :=
  match run operation b with
  | .ok r _ => .ok r
  | .error e _ => .error e

/-- Operations with what each of them replies. -/
def trace : List Operation → Builder → List (Operation × Except Error Reply)
  | [], _ => []
  | operation :: rest, b => (operation, b.reply operation) :: trace rest (b.next operation)

/-- The first statement is the second up to the window of rows. -/
def SameClauses (s t : Statement) : Prop :=
  s = t ∨ ∃ query limit offset,
    t = .select query ∧ s = .select { query with limit := limit, offset := offset }

end Builder

/-- A connection apart from the answers that it has left. -/
def Connection.bare (c : Connection) : Connection := { c with answers := [] }

/-- The answers do not show in a connection. -/
theorem Connection.toValue_eq_of_bare {c d : Connection} (same : c.bare = d.bare) :
    c.toValue = d.toValue := by
  have shown := congrArg Connection.toValue same
  exact shown

namespace Session

/-- What no operation changes: the connection apart from its answers, and the parser. -/
def peer (s : Session) : Connection × Parser := (s.connection.bare, s.parser)

theorem driver_eq_of_peer {s t : Session} (same : s.peer = t.peer) : s.driver = t.driver := by
  obtain ⟨connection, parser⟩ := Prod.mk.inj same
  have bare : ∀ c : Connection, c.bare.driver = c.driver := fun _ => rfl
  rw [driver, driver, ← bare, connection, bare, parser]

variable {peer : Connection × Parser}

theorem keeps_send (sql values : Value) :
    Keeps (fun s : Session => s.peer = peer) (send sql values) := by
  intro s kept
  rw [stateAfter_send]
  split <;> exact kept

theorem keeps_exec (statement : Statement) :
    Keeps (fun s : Session => s.peer = peer) (exec statement) := by
  intro s kept
  cases rendered : statement.toSql with
  | error e =>
    rw [stateAfter, exec_of_error rendered]
    exact kept
  | ok sql =>
    have sent := scoped_exec (s := s) rendered
    rw [← kept, Session.peer, sent.connection, sent.parser]
    rfl

theorem keeps_count (query : Select) :
    Keeps (fun s : Session => s.peer = peer) (count query) := by
  intro s kept
  rw [stateAfter_count]
  exact keeps_exec _ s kept

/-- Taking notice adds to the dialects in use and to the records; all else stays. -/
theorem observeAll_eq (s : Session) (notices : List Notice) :
    ∃ dialects records, s.observeAll notices = { s with dialects, records } := by
  induction notices generalizing s with
  | nil => exact ⟨s.dialects, s.records, rfl⟩
  | cons notice rest ih =>
    have first : ∃ dialects records, s.observe notice = { s with dialects, records } := by
      unfold observe
      split
      · split
        · exact ⟨s.dialects, s.records, rfl⟩
        · exact ⟨_, _, rfl⟩
      · exact ⟨s.dialects, _, rfl⟩
      · exact ⟨s.dialects, _, rfl⟩
    obtain ⟨dialects, records, observed⟩ := first
    rw [observeAll, List.foldl_cons, observed]
    exact ih _

theorem peer_observeAll (s : Session) (notices : List Notice) :
    (s.observeAll notices).peer = s.peer := by
  obtain ⟨_, _, observed⟩ := s.observeAll_eq notices
  rw [observed]
  rfl

end Session

namespace Builder

/-- What an operation that is no call leaves as it was. -/
def Unchanged (peer : Connection × Parser) (t : Statement) (b : Builder) : Prop :=
  b.session.peer = peer ∧ SameClauses b.statement t

variable {peer : Connection × Parser} {t : Statement}

/-- An action of the session keeps what it keeps beside every statement. -/
theorem keeps_inSession_of {α : Type} {I : Builder → Prop} {action : SessionM α}
    (kept : ∀ statement, Keeps (fun s => I ⟨statement, s⟩) action) :
    Keeps I (inSession action) := by
  intro b before
  have session := kept b.statement b.session before
  unfold stateAfter at session ⊢
  unfold inSession
  cases ran : action b.session with
  | ok a s =>
    rw [ran] at session
    exact session
  | error e s =>
    rw [ran] at session
    exact session

/-- Asking the session for a reply: the statement stays, however the session ends. -/
theorem inSession_bind_pure {α β : Type} (action : SessionM α) (reply : α → β) (b : Builder) :
    (inSession action >>= fun a => pure (reply a)) b =
      match action b.session with
      | .ok a s => .ok (reply a) { b with session := s }
      | .error e s => .error e { b with session := s } := by
  cases acted : action b.session with
  | ok a s =>
    have inside : inSession action b = .ok a { b with session := s } := by rw [inSession, acted]
    rw [bind_apply_of_ok inside]
    rfl
  | error e s =>
    have inside : inSession action b = .error e { b with session := s } := by
      rw [inSession, acted]
    rw [bind_apply_of_error inside]

theorem keeps_inSession {α : Type} {action : SessionM α}
    (kept : Keeps (fun s : Session => s.peer = peer) action) :
    Keeps (Unchanged peer t) (inSession action) :=
  keeps_inSession_of fun _ s before => ⟨kept s before.1, before.2⟩

theorem keeps_setStatement {s : Statement} (same : SameClauses s t) :
    Keeps (Unchanged peer t) (setStatement s) :=
  .modify fun _ before => ⟨before.1, same⟩

theorem stateAfter_withinScope {α : Type} (action : BuilderM α) (b : Builder) :
    stateAfter (withinScope action) b =
      ⟨(stateAfter action { b with session := b.session.entered }).statement,
        (stateAfter action { b with session := b.session.entered }).session.leave
          b.session.opening.token⟩ := by
  unfold stateAfter withinScope
  cases action { b with session := b.session.entered } <;> rfl

theorem keeps_withinScope {α : Type} {action : BuilderM α}
    (kept : Keeps (Unchanged peer t) action) :
    Keeps (Unchanged peer t) (withinScope action) := by
  intro b before
  rw [stateAfter_withinScope]
  exact kept { b with session := b.session.entered } before

/-- Giving notice keeps what taking notice keeps. -/
theorem keeps_announce {α : Type} {I : Builder → Prop}
    (observed : ∀ b notice, I b → I { b with session := b.session.observe notice })
    (result : Except Error α) (notice : α → Notice) : Keeps I (announce result notice) :=
  .bind (.ofExcept _) fun a => .bind (keeps_inSession_of fun statement =>
    .modify fun s before => observed ⟨statement, s⟩ (notice a) before) fun _ => .pure _

/-- The operation only shows the builder, and sends nothing. -/
def showing : Operation → Bool
  | .logSql | .logValues | .toSql | .build _ | .values | .dialect | .parse | .connection | .config
  | .unknown _ => true
  | _ => false

theorem keeps_showing {I : Builder → Prop}
    (observed : ∀ b notice, I b → I { b with session := b.session.observe notice })
    {operation : Operation} (shows : showing operation = true) : Keeps I (run operation) := by
  have replying : ∀ {α : Type} (result : Except Error α) (notice : α → Notice)
      (reply : α → Except Error Reply),
      Keeps I (announce result notice >>= fun a => MonadExcept.ofExcept (reply a)) :=
    fun result notice reply => .bind (keeps_announce observed result notice) fun _ => .ofExcept _
  cases operation with
  | logSql => exact .get_bind fun b => replying b.statement.toSql .rendered (fun _ => .ok .itself) b
  | logValues =>
    exact .get_bind fun b => replying (.ok b.statement.values) .bound (fun _ => .ok .itself) b
  | dialect =>
    exact .get_bind fun b => replying (b.session.driver.kind) .dialect
      (fun kind => .ok (.dialect kind)) b
  | toSql =>
    exact .get_bind fun b => Keeps.bind (.ofExcept b.statement.toSql)
      (fun sql => .pure (Reply.value (.str sql))) b
  | build embedded =>
    exact .get_bind fun b => Keeps.bind (.ofExcept (embeddedText b.statement embedded))
      (fun sql => .pure (Reply.value (.str sql))) b
  | parse =>
    exact .get_bind fun b => Keeps.bind (.ofExcept b.statement.toSql) (fun sql =>
      .bind (keeps_announce observed (b.session.driver.kind) .dialect)
        fun kind => .bind (.ofExcept (b.session.parser.parse kind sql)) fun title =>
          .pure (Reply.root title)) b
  | values => exact .get_bind fun b before => before
  | connection => exact .get_bind fun b before => before
  | config => exact .get_bind fun b before => before
  | unknown name => exact .get_bind fun b before => before
  | _ => cases shows

theorem keeps_paginate (query : Select) (page items : Value) :
    Keeps (Unchanged peer (.select query)) (paginate query page items) := by
  have logged : ∀ (f : Session → Session), (∀ s, (f s).peer = s.peer) →
      Keeps (Unchanged peer (.select query)) (inSession (modify f)) := fun f same =>
    keeps_inSession (.modify fun s before => by rw [same, before])
  refine .bind .get fun _ => .bind (keeps_setStatement (.inr ⟨query, none, none, rfl, rfl⟩))
    fun _ => .bind (keeps_withinScope ?_) fun (total, result) => ?_
  · exact .bind (keeps_inSession (Session.keeps_count _)) fun _ =>
      .bind (keeps_setStatement (.inr ⟨query, _, _, rfl, rfl⟩)) fun _ =>
        .bind (keeps_inSession (Session.keeps_exec _)) fun _ => .pure _
  · dsimp only
    split
    · exact .throw _
    · exact .bind (logged _ fun _ => rfl) fun _ => .pure _

theorem onSelect_of_select {α : Type} {b : Builder} {query : Select}
    (queries : b.statement = .select query) (name : String) (action : Select → BuilderM α) :
    onSelect name action b = action query b := by
  rw [onSelect, get_bind_apply, queries]

theorem onSelect_of_other {α : Type} {b : Builder} (other : ∀ query, b.statement ≠ .select query)
    (name : String) (action : Select → BuilderM α) :
    onSelect name action b = .error (noOperation b.statement name) b := by
  rw [onSelect, get_bind_apply]
  cases at_ : b.statement with
  | select query => exact absurd at_ (other query)
  | _ => rfl

theorem onSelect_unchanged {α : Type} {b : Builder} {name : String} {action : Select → BuilderM α}
    (kept : ∀ query, Keeps (Unchanged peer (.select query)) (action query))
    (before : Unchanged peer b.statement b) :
    Unchanged peer b.statement (stateAfter (onSelect name action) b) := by
  by_cases select : ∃ query, b.statement = .select query
  · obtain ⟨query, queries⟩ := select
    rw [queries] at before
    rw [queries, stateAfter, onSelect_of_select queries]
    exact kept query b before
  · rw [stateAfter, onSelect_of_other fun query queries => select ⟨query, queries⟩]
    exact before

theorem run_parse (b : Builder) :
    run .parse b =
      match b.statement.toSql, b.session.driver.kind with
      | .error e, _ => .error e b
      | .ok _, .error e => .error e b
      | .ok sql, .ok kind =>
        match b.session.parser.parse kind sql with
        | .error e => .error e { b with session := b.session.observeAll [.dialect kind] }
        | .ok title =>
          .ok (.root title) { b with session := b.session.observeAll [.dialect kind] } := by
  rw [run, get_bind_apply]
  dsimp only
  cases b.statement.toSql with
  | error e => rfl
  | ok sql =>
    cases b.session.driver.kind with
    | error e => rfl
    | ok kind =>
      have rendered : (MonadExcept.ofExcept (.ok sql) : BuilderM String) b = .ok sql b := rfl
      have announced : announce (.ok kind) .dialect b =
          .ok kind { b with session := b.session.observeAll [.dialect kind] } := rfl
      rw [bind_apply_of_ok rendered, bind_apply_of_ok announced]
      dsimp only
      cases b.session.parser.parse kind sql <;> rfl

/-- A statement that has a text is read back by the parser of the session. -/
theorem reply_parse (b : Builder) :
    b.reply .parse = (do
      let sql ← b.statement.toSql
      let kind ← b.session.driver.kind
      (b.session.parser.parse kind sql).map .root) := by
  unfold reply
  rw [run_parse]
  cases b.statement.toSql with
  | error e => rfl
  | ok sql =>
    cases b.session.driver.kind with
    | error e => rfl
    | ok kind =>
      simp only [bind, Except.bind]
      cases b.session.parser.parse kind sql <;> rfl

/-- An operation that is no call keeps the connection and the statement up to its window of rows. -/
theorem next_unchanged (b : Builder) {operation : Operation}
    (other : ∀ c, operation ≠ .call c) :
    Unchanged b.session.peer b.statement (b.next operation) := by
  have start : Unchanged b.session.peer b.statement b := ⟨rfl, .inl rfl⟩
  have returning : ∀ {α : Type} (action : BuilderM α) (reply : α → BuilderM Reply),
      Keeps (Unchanged b.session.peer b.statement) action →
      (∀ a, Keeps (Unchanged b.session.peer b.statement) (reply a)) →
      Unchanged b.session.peer b.statement (stateAfter (action >>= reply) b) :=
    fun _ _ kept replies => kept.bind replies b start
  cases operation with
  | call c => exact absurd rfl (other c)
  | exec =>
    exact returning (inSession (Session.exec b.statement)) (fun v => pure (.value v))
      (keeps_inSession (Session.keeps_exec _)) fun _ => .pure _
  | raw sql values =>
    exact returning (inSession (Session.send sql values)) (fun v => pure (.value v))
      (keeps_inSession (Session.keeps_send _ _)) fun _ => .pure _
  | count =>
    exact onSelect_unchanged (fun query => .bind (keeps_inSession (Session.keeps_count query))
      fun n => .pure (Reply.value (.int n))) start
  | paginate page items =>
    exact onSelect_unchanged (fun query => .bind (keeps_paginate query page items)
      fun p => .pure (Reply.page p)) start
  | _ =>
    refine keeps_showing (fun c notice before => ?_) rfl b start
    have observed : (c.session.observe notice).peer = c.session.peer :=
      c.session.peer_observeAll [notice]
    exact ⟨by rw [observed, before.1], before.2⟩

/-- A call leaves what applying it leaves, and its notices are taken. -/
theorem next_call_eq (b : Builder) (c : Call) :
    b.next (.call c) = ⟨(b.statement.apply b.session.driver c).state,
      b.session.observeAll (b.statement.apply b.session.driver c).notices⟩ := by
  have opened : run (.call c) b =
      (settle (b.statement.apply b.session.driver c) >>= fun _ => pure .itself) b := by
    rw [run, get_bind_apply]
  rw [next, stateAfter, opened]
  cases failed : (b.statement.apply b.session.driver c).failure with
  | none => rw [bind_apply_of_ok (by rw [settle, failed])]; rfl
  | some e => rw [bind_apply_of_error (by rw [settle, failed])]

/-- A call leaves the statement that applying it leaves. -/
theorem next_call (b : Builder) (c : Call) :
    (b.next (.call c)).statement = (b.statement.apply b.session.driver c).state := by
  rw [next_call_eq]

theorem SameClauses.kind {s t : Statement} (same : SameClauses s t) : s.kind = t.kind := by
  rcases same with rfl | ⟨query, limit, offset, rfl, rfl⟩ <;> rfl

theorem next_kind (b : Builder) (operation : Operation) :
    (b.next operation).statement.kind = b.statement.kind := by
  by_cases call : ∃ c, operation = .call c
  · obtain ⟨c, rfl⟩ := call
    rw [next_call b c]
    cases c <;> cases b.statement <;> rfl
  · exact (next_unchanged b fun c same => call ⟨c, same⟩).2.kind

theorem next_peer (b : Builder) (operation : Operation) :
    (b.next operation).session.peer = b.session.peer := by
  by_cases call : ∃ c, operation = .call c
  · obtain ⟨c, rfl⟩ := call
    rw [next_call_eq]
    exact Session.peer_observeAll _ _
  · exact (next_unchanged b fun c same => call ⟨c, same⟩).1

theorem next_driver (b : Builder) (operation : Operation) :
    (b.next operation).session.driver = b.session.driver :=
  Session.driver_eq_of_peer (next_peer b operation)

theorem after_kind (b : Builder) (operations : List Operation) :
    (b.after operations).statement.kind = b.statement.kind := by
  induction operations generalizing b with
  | nil => rfl
  | cons operation rest ih => exact (ih (b.next operation)).trans (next_kind b operation)

theorem after_peer (b : Builder) (operations : List Operation) :
    (b.after operations).session.peer = b.session.peer := by
  induction operations generalizing b with
  | nil => rfl
  | cons operation rest ih =>
    exact (ih (b.next operation)).trans (next_peer b operation)

end Builder

end SqlBuilder
