import SqlBuilder.Proofs.Builder.Step
import SqlBuilder.Proofs.Select.Window

set_option autoImplicit false

namespace SqlBuilder

/-- The operation opens a scope in which it sends. -/
def Operation.opensScope : Operation → Bool
  | .exec | .count | .paginate .. => true
  | _ => false

namespace Builder

open Session (Progress Scoped Since)

variable {b : Builder} {query : Select}

/-- Both queries of a page are sent inside one scope. -/
theorem scoped_readPage (query : Select) (page items : Nat) (b : Builder) :
    ∃ asked, Scoped asked b.session (stateAfter (readPage query page items) b).session := by
  have bound := b.session.bound_entered
  have counting : ∀ query, Keeps (fun c : Builder =>
      Since b.session.inner b.session.entered c.session) (inSession (Session.count query)) :=
    fun query => keeps_inSession_of fun _ => Session.keeps_since_count bound query
  have executing : ∀ statement, Keeps (fun c : Builder =>
      Since b.session.inner b.session.entered c.session) (inSession (Session.exec statement)) :=
    fun statement => keeps_inSession_of fun _ => Session.keeps_since_exec bound statement
  have kept : Keeps (fun c : Builder => Since b.session.inner b.session.entered c.session) (do
      let total ← inSession (Session.count (Paging.cleared query))
      setStatement (.select (Paging.window page items query))
      let result ← inSession (Session.exec (.select (Paging.window page items query)))
      return (total, result)) :=
    .bind (counting _) fun _ => .bind (.modify fun _ before => before) fun _ =>
      .bind (executing _) fun _ => .pure _
  obtain ⟨asked, inside⟩ :=
    kept { b with session := b.session.entered } ⟨[], .refl _ _⟩
  exact ⟨asked, _, inside, (congrArg Builder.session (stateAfter_withinScope _ b)).symm⟩

theorem run_exec (b : Builder) :
    run .exec b = (inSession (Session.exec b.statement) >>= fun v => pure (Reply.value v)) b := rfl

theorem next_exec (b : Builder) :
    (b.next .exec).session = stateAfter (Session.exec b.statement) b.session := by
  rw [next, stateAfter, run_exec, inSession_bind_pure, stateAfter]
  cases Session.exec b.statement b.session <;> rfl

theorem run_count (queries : b.statement = .select query) :
    run .count b =
      (inSession (Session.count query) >>= fun n => pure (Reply.value (.int n))) b :=
  onSelect_of_select queries "count" fun query =>
    inSession (Session.count query) >>= fun n => pure (Reply.value (.int n))

theorem next_count (queries : b.statement = .select query) :
    (b.next .count).session = stateAfter (Session.count query) b.session := by
  rw [next, stateAfter, run_count queries, inSession_bind_pure, stateAfter]
  cases Session.count query b.session <;> rfl

/-- The builder that a page is read from: without the window of an earlier page. -/
def unpaged (b : Builder) (query : Select) : Builder :=
  { b with statement := .select (Paging.cleared query) }

/-- What is logged when a page has been read. -/
def pageRead (current : Nat) (total pages : Int) (s : Session) : Session :=
  s.log "builder.select" Level.debug
    ("Paginated page " ++ toString current ++ " of " ++ toString pages)
    (some [(.str "total_items", .int total)])

theorem run_paginate (queries : b.statement = .select query) (page items : Value) :
    run (.paginate page items) b =
      match readPage query (Paging.pageNumber page) (Paging.pageSize b.session.config items)
          (b.unpaged query) with
      | .error e c => .error e c
      | .ok (total, result) c =>
        match Binary64.ceilQuotient total (Paging.pageSize b.session.config items) with
        | none => .error .quotientTooLarge c
        | some pages =>
          .ok (.page (Paging.page result (Paging.pageNumber page)
              (Paging.pageSize b.session.config items) total pages))
            { c with session := pageRead (Paging.pageNumber page) total pages c.session } := by
  have opened : run (.paginate page items) b =
      (paginate query page items >>= fun p => pure (Reply.page p)) b :=
    onSelect_of_select queries "paginate" fun query =>
      paginate query page items >>= fun p => pure (Reply.page p)
  have cleared : setStatement (.select (Paging.cleared query)) b = .ok () (b.unpaged query) := rfl
  have given : (MonadState.get : BuilderM Builder) b = .ok b b := rfl
  rw [opened]
  cases read : readPage query (Paging.pageNumber page) (Paging.pageSize b.session.config items)
      (b.unpaged query) with
  | error e c =>
    apply bind_apply_of_error
    rw [paginate, bind_apply_of_ok given, bind_apply_of_ok cleared, bind_apply_of_error read]
  | ok answer c =>
    dsimp only
    cases quotient : Binary64.ceilQuotient answer.1 (Paging.pageSize b.session.config items) with
    | none =>
      apply bind_apply_of_error
      rw [paginate, bind_apply_of_ok given, bind_apply_of_ok cleared, bind_apply_of_ok read]
      dsimp only
      rw [quotient]
      rfl
    | some pages =>
      have replied : paginate query page items b = .ok (Paging.page answer.2
          (Paging.pageNumber page) (Paging.pageSize b.session.config items) answer.1 pages)
            { c with session := pageRead (Paging.pageNumber page) answer.1 pages c.session } := by
        rw [paginate, bind_apply_of_ok given, bind_apply_of_ok cleared, bind_apply_of_ok read]
        dsimp only
        rw [quotient]
        rfl
      rw [bind_apply_of_ok replied]
      rfl

/-- The operation gets as far as opening its scope. -/
def Starts (b : Builder) : Operation → Prop
  | .exec => ∃ text, b.statement.toSql = .ok text
  | .count => ∃ query text, b.statement = .select query ∧ query.toSql = .ok text
  | .paginate .. => ∃ query, b.statement = .select query
  | _ => False

/-- What is left to do behind the scope: a page that has been read is logged. -/
def concluded (reply : Except Error Reply) (s : Session) : Session :=
  match reply with
  | .ok (.page p) => pageRead p.current p.totalItems p.totalPages s
  | _ => s

theorem run_of_not_select {operation : Operation} (asks : operation = .count ∨
    ∃ page items, operation = .paginate page items)
    (other : ∀ query, b.statement ≠ .select query) :
    ∃ e, run operation b = .error e b := by
  rcases asks with rfl | ⟨page, items, rfl⟩
  · exact ⟨_, onSelect_of_other other "count" _⟩
  · exact ⟨_, onSelect_of_other other "paginate" _⟩

/-- An operation that does not get as far as its scope fails and leaves everything as it was. -/
theorem run_of_not_starts {operation : Operation} (opens : operation.opensScope = true)
    (held : ¬ b.Starts operation) : ∃ e, run operation b = .error e b := by
  have unrendered : ∀ {statement : Statement}, (¬ ∃ text, statement.toSql = .ok text) →
      ∃ e, statement.toSql = .error e := by
    intro statement refused
    cases rendered : statement.toSql with
    | ok text => exact absurd ⟨text, rendered⟩ refused
    | error e => exact ⟨e, rfl⟩
  cases operation with
  | exec =>
    obtain ⟨e, failed⟩ := unrendered held
    exact ⟨e, by rw [run_exec, inSession_bind_pure, Session.exec_of_error failed]⟩
  | count =>
    by_cases select : ∃ query, b.statement = .select query
    · obtain ⟨query, queries⟩ := select
      have refused : ¬ ∃ text, (query.counting b.session.config.countAlias).toSql = .ok text := by
        rw [Select.renders_counting]
        exact fun ⟨text, rendered⟩ => held ⟨query, text, queries, rendered⟩
      obtain ⟨e, failed⟩ :
          ∃ e, (Statement.select (query.counting b.session.config.countAlias)).toSql = .error e :=
        unrendered refused
      exact ⟨e, by rw [run_count queries, inSession_bind_pure, Session.count_of_error failed]⟩
    · exact run_of_not_select (.inl rfl) fun query queries => select ⟨query, queries⟩
  | paginate page items =>
    exact run_of_not_select (.inr ⟨page, items, rfl⟩) fun query queries => held ⟨query, queries⟩
  | _ => cases opens

theorem concluded_asking {α : Type} (action : SessionM α) (reply : α → Value) (b : Builder) :
    concluded (match (inSession action >>= fun a => pure (Reply.value (reply a))) b with
      | .ok r _ => .ok r
      | .error e _ => .error e) = id := by
  rw [inSession_bind_pure]
  cases action b.session <;> rfl

/-- An operation that gets as far as its scope sends inside it, and logs a page behind it. -/
theorem scoped_next {operation : Operation} (starts : b.Starts operation) :
    ∃ asked t, Scoped asked b.session t ∧
      (b.next operation).session = concluded (b.reply operation) t := by
  cases operation with
  | exec =>
    obtain ⟨text, rendered⟩ := starts
    have silent : concluded (b.reply .exec) = id :=
      concluded_asking (Session.exec b.statement) (fun v => v) b
    rw [silent, next_exec]
    exact ⟨_, _, Session.scoped_exec rendered, rfl⟩
  | count =>
    obtain ⟨query, text, queries, rendered⟩ := starts
    obtain ⟨counting, written⟩ :=
      (Select.renders_counting b.session.config.countAlias).mpr ⟨text, rendered⟩
    have silent : concluded (b.reply .count) = id := by
      rw [reply, run_count queries]
      exact concluded_asking (Session.count query) (fun n => .int n) b
    have renders : (Statement.select (query.counting b.session.config.countAlias)).toSql =
        .ok counting := written
    rw [silent, next_count queries, Session.stateAfter_count]
    exact ⟨_, _, Session.scoped_exec renders, rfl⟩
  | paginate page items =>
    obtain ⟨query, queries⟩ := starts
    obtain ⟨asked, call⟩ := scoped_readPage query (Paging.pageNumber page)
      (Paging.pageSize b.session.config items) (b.unpaged query)
    refine ⟨asked, _, call, ?_⟩
    rw [next, stateAfter, reply, run_paginate queries, stateAfter]
    cases readPage query (Paging.pageNumber page) (Paging.pageSize b.session.config items)
      (b.unpaged query) with
    | error e c => rfl
    | ok answer c =>
      dsimp only
      cases Binary64.ceilQuotient answer.1 (Paging.pageSize b.session.config items) <;> rfl
  | _ => cases starts

theorem next_raw (b : Builder) (sql values : Value) :
    (b.next (.raw sql values)).session = stateAfter (Session.send sql values) b.session := by
  have ran : run (.raw sql values) b =
      (inSession (Session.send sql values) >>= fun v => pure (Reply.value v)) b := rfl
  rw [next, stateAfter, ran, inSession_bind_pure, stateAfter]
  cases Session.send sql values b.session <;> rfl

/-- Between the sessions nothing was sent, and no scope was opened or closed. -/
structure Silent (s t : Session) : Prop where
  correlation : t.correlation = s.correlation
  supply : t.supply = s.supply
  queries : t.queries = s.queries

theorem silent_concluded (reply : Except Error Reply) (s : Session) :
    Silent s (concluded reply s) := by
  unfold concluded
  split <;> exact ⟨rfl, rfl, rfl⟩

/-- An operation that opens no scope sends nothing, unless it is to send a text as it stands. -/
theorem silent_next (b : Builder) {operation : Operation} (closed : operation.opensScope = false)
    (other : ∀ sql values, operation ≠ .raw sql values) :
    Silent b.session (b.next operation).session := by
  have observed : ∀ s notices, Silent b.session s → Silent b.session (s.observeAll notices) := by
    intro s notices before
    obtain ⟨_, _, same⟩ := s.observeAll_eq notices
    rw [same]
    exact ⟨before.correlation, before.supply, before.queries⟩
  have start : Silent b.session b.session := ⟨rfl, rfl, rfl⟩
  cases operation with
  | call c =>
    rw [next_call_eq]
    exact observed _ _ start
  | raw sql values => exact absurd rfl (other sql values)
  | exec => cases closed
  | count => cases closed
  | paginate => cases closed
  | _ =>
    exact keeps_showing (I := fun c => Silent b.session c.session)
      (fun c notice before => observed c.session [notice] before) rfl b start

/-- What a call takes from the supply and what its queries carry, when it opens its scope. -/
theorem call_of_starts {operation : Operation} (starts : b.Starts operation) :
    ∃ sent, (b.next operation).session.queries = b.session.queries ++ sent ∧
      (∀ q ∈ sent, q.id = some b.session.inner) ∧
      (b.next operation).session.correlation = ⟨b.session.correlation.bound,
        b.session.correlation.issued + if b.session.correlation.bound = none then 1 else 0⟩ ∧
      (b.next operation).session.supply = b.session.supply := by
  obtain ⟨asked, t, call, closed⟩ := scoped_next starts
  have after : Silent t (b.next operation).session := by
    rw [closed]
    exact silent_concluded _ t
  refine ⟨_, after.queries.trans call.queries, ?_, ?_, after.supply.trans call.supply⟩
  · intro q member
    obtain ⟨_, _, rfl⟩ := List.mem_map.mp member
    rfl
  · rw [after.correlation, ← call.issued, ← call.bound]

/-- A call takes an id from the supply exactly when it opens its scope and none is bound. -/
theorem issued_of_call {operation : Operation} (opens : operation.opensScope = true) :
    (b.next operation).session.correlation.issued = b.session.correlation.issued + 1 ↔
      b.Starts operation ∧ b.session.correlation.bound = none := by
  by_cases starts : b.Starts operation
  · obtain ⟨_, _, _, correlation, _⟩ := call_of_starts starts
    rw [correlation]
    by_cases free : b.session.correlation.bound = none <;> simp [starts, free]
  · obtain ⟨e, failed⟩ := run_of_not_starts opens starts
    rw [next, stateAfter, failed]
    simp [starts]

theorem next_config (b : Builder) (operation : Operation) :
    (b.next operation).session.config = b.session.config := by
  have observed : ∀ (s : Session) notices, (s.observeAll notices).config = s.config := by
    intro s notices
    obtain ⟨_, _, same⟩ := s.observeAll_eq notices
    rw [same]
  by_cases opens : operation.opensScope = true
  · by_cases starts : b.Starts operation
    · obtain ⟨asked, t, call, left⟩ := scoped_next starts
      have behind : (concluded (b.reply operation) t).config = t.config := by
        unfold concluded
        split <;> rfl
      rw [left, behind, call.config]
    · obtain ⟨e, failed⟩ := run_of_not_starts opens starts
      rw [next, stateAfter, failed]
  · cases operation with
    | call c => rw [next_call_eq, observed]
    | raw sql values =>
      rw [next_raw, Session.stateAfter_send]
      split <;> rfl
    | exec => exact absurd rfl opens
    | count => exact absurd rfl opens
    | paginate page items => exact absurd rfl opens
    | _ =>
      exact keeps_showing (I := fun c => c.session.config = b.session.config)
        (fun c notice before => (observed c.session [notice]).trans before) rfl b rfl

theorem after_config (b : Builder) (operations : List Operation) :
    (b.after operations).session.config = b.session.config := by
  induction operations generalizing b with
  | nil => rfl
  | cons operation rest ih => exact (ih (b.next operation)).trans (next_config b operation)

/-- What the properties of a builder show does not change. -/
theorem next_shown (b : Builder) (operation : Operation) :
    (b.next operation).session.connection.toValue = b.session.connection.toValue ∧
      (b.next operation).session.config = b.session.config :=
  ⟨Connection.toValue_eq_of_bare (Prod.mk.inj (next_peer b operation)).1,
    next_config b operation⟩

end Builder

end SqlBuilder
