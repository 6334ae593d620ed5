import SqlBuilder.Proofs.Builder.Attempt
import SqlBuilder.Proofs.Builder.ClauseOrder
import SqlBuilder.Proofs.Builder.Comparison

set_option autoImplicit false

namespace SqlBuilder

/-- What the connection is told of a query. -/
def Query.content (q : Query) : Value × Value := (q.sql, q.values)

/-- What is seen of one step of a run. -/
structure Sight where
  reply : Except Error Reply
  text : Except Error String
  values : List Value
  sent : List (Value × Value)

/-- The call that begins a statement anew. -/
def StatementKind.reset : StatementKind → Call
  | .select => .select .reset
  | .insert => .insert .reset
  | .update => .update .reset
  | .delete => .delete .reset

/-- The operation may select the dialect of the builder's driver. -/
def Operation.selects : Operation → Bool
  | .call _ | .dialect | .parse => true
  | _ => false

namespace Builder

def sight (before : Builder) (reply : Except Error Reply) (after : Builder) : Sight where
  reply := reply
  text := after.statement.toSql
  values := after.statement.values
  sent := (after.session.queries.drop before.session.queries.length).map Query.content

/-- What is seen of operations, of which any may fail. -/
def sights : List Operation → Builder → List Sight
  | [], _ => []
  | operation :: rest, b =>
    b.sight (b.reply operation) (b.next operation) :: sights rest (b.next operation)

def withDriver (descriptor : Value) (b : Builder) : Builder :=
  { b with session :=
    { b.session with connection := { b.session.connection with driver := descriptor } } }

/-- The builder as it runs an operation when it has kept a dialect: the kind of this one takes the
place of the driver wherever a dialect is selected. -/
def recalling (kept : Option DriverKind) (operation : Operation) (b : Builder) : Builder :=
  match kept with
  | some kind => if operation.selects then b.withDriver (.text (.kind kind)) else b
  | none => b

/-- What is seen of operations when before each of them some dialect may have been kept. -/
def sightsRecalling : List (Option DriverKind × Operation) → Builder → List Sight
  | [], _ => []
  | (kept, operation) :: rest, b =>
    let after := ((b.recalling kept operation).next operation).withDriver
      b.session.connection.driver
    b.sight ((b.recalling kept operation).reply operation) after :: sightsRecalling rest after

end Builder

theorem Connection.eq_of_bare {c d : Connection} (same : c.bare = d.bare)
    (answers : c.answers = d.answers) : c = d := by
  cases c
  cases d
  simp only [bare, mk.injEq] at same answers ⊢
  exact ⟨same.1, same.2.1, same.2.2.1, answers⟩

/-- Two sessions that have the same to come, and in which the same was sent since `past` and
`past'`. -/
structure Session.Alike (past past' : List Query) (s t : Session) : Prop where
  connection : t.connection = s.connection
  parser : t.parser = s.parser
  config : t.config = s.config
  queries : ∃ sent sent', s.queries = past ++ sent ∧ t.queries = past' ++ sent' ∧
    sent'.map Query.content = sent.map Query.content

namespace Session

variable {past past' : List Query} {s t : Session}

theorem Alike.of_same (connection : t.connection = s.connection) (parser : t.parser = s.parser)
    (config : t.config = s.config) : s.Alike s.queries t.queries t :=
  ⟨connection, parser, config, [], [], by simp, by simp, rfl⟩

theorem Alike.driver (alike : s.Alike past past' t) : t.driver = s.driver := by
  rw [Session.driver, Session.driver, alike.connection, alike.parser]

theorem Alike.log (alike : s.Alike past past' t) (logger : String) (level : Level)
    (message : String) (fields : Option Entries) :
    (s.log logger level message fields).Alike past past' (t.log logger level message fields) :=
  ⟨alike.connection, alike.parser, alike.config, alike.queries⟩

theorem Alike.observeAll (alike : s.Alike past past' t) (notices : List Notice) :
    (s.observeAll notices).Alike past past' (t.observeAll notices) := by
  obtain ⟨_, _, first⟩ := s.observeAll_eq notices
  obtain ⟨_, _, second⟩ := t.observeAll_eq notices
  rw [first, second]
  exact ⟨alike.connection, alike.parser, alike.config, alike.queries⟩

/-- Taking notice does not ask the connection. -/
theorem observeAll_connection (s : Session) (peer : Connection) (notices : List Notice) :
    Session.observeAll { s with connection := peer } notices =
      { s.observeAll notices with connection := peer } := by
  induction notices generalizing s with
  | nil => rfl
  | cons notice rest ih =>
    have first : Session.observe { s with connection := peer } notice =
        { s.observe notice with connection := peer } := by
      cases notice with
      | dialect kind =>
        simp only [Session.observe]
        split <;> rfl
      | rendered sql => rfl
      | bound values => rfl
    rw [Session.observeAll, List.foldl_cons, first]
    exact ih (s.observe notice)

theorem Alike.sent (alike : s.Alike past past' t) (sql values : Value) :
    (s.sent sql values).Alike past past' (t.sent sql values) := by
  obtain ⟨asked, asked', before, before', same⟩ := alike.queries
  refine ⟨?_, alike.parser, alike.config,
    asked ++ [⟨s.connection.name, sql, values, s.correlation.bound⟩],
    asked' ++ [⟨t.connection.name, sql, values, t.correlation.bound⟩], ?_, ?_, ?_⟩
  · simp only [Session.sent, alike.connection]
  · simp only [Session.sent, before, List.append_assoc]
  · simp only [Session.sent, before', List.append_assoc]
  · simp only [List.map_append, same, List.map_singleton, Query.content]

theorem send_alike (sql values : Value) :
    Agrees (Alike past past') Eq Eq (send sql values) (send sql values) := by
  intro s t alike
  have sent := alike.sent sql values
  unfold send
  rw [alike.connection]
  cases s.connection.routine
  case callable =>
    dsimp only
    split <;> exact ⟨rfl, sent⟩
  all_goals exact ⟨rfl, alike⟩

theorem withinScope_alike {α : Type} {action : SessionM α}
    (inside : Agrees (Alike past past') Eq Eq action action) :
    Agrees (Alike past past') Eq Eq (withinScope action) (withinScope action) :=
  withinScope_related inside
    (fun _ _ alike => ⟨alike.connection, alike.parser, alike.config, alike.queries⟩)
    fun _ _ _ _ _ after => ⟨after.connection, after.parser, after.config, after.queries⟩

theorem exec_alike (statement : Statement) :
    Agrees (Alike past past') Eq Eq (exec statement) (exec statement) := by
  refine .bind (.ofExcept .refl) ?_
  rintro sql _ rfl
  refine withinScope_alike (.get_bind fun s t alike => ?_)
  rw [alike.config]
  split
  · refine Agrees.bind (S := Alike past past') (.set (alike.log _ _ _ _)) ?_ s t alike
    rintro _ _ rfl
    exact send_alike _ _
  · exact send_alike _ _ s t alike

theorem count_alike (query : Select) :
    Agrees (Alike past past') Eq Eq (count query) (count query) := by
  refine .get_bind fun s t alike => ?_
  rw [alike.config]
  refine Agrees.bind (S := Alike past past') (exec_alike _) ?_ s t alike
  rintro rows _ rfl
  refine .bind (.ofExcept .refl) ?_
  rintro row _ rfl
  refine .bind (.ofExcept .refl) ?_
  rintro total _ rfl
  exact .ofExcept .refl

end Session

namespace Builder

/-- Two builders at the same statement, which have the same to come. -/
structure Alike (past past' : List Query) (b c : Builder) : Prop where
  statement : c.statement = b.statement
  session : b.session.Alike past past' c.session

variable {past past' : List Query}

theorem inSession_alike {α : Type} {action : SessionM α}
    (inside : Agrees (Session.Alike past past') Eq Eq action action) :
    Agrees (Alike past past') Eq Eq (inSession action) (inSession action) :=
  inSession_related inside (fun _ _ alike => alike.session)
    fun _ _ alike _ _ session => ⟨alike.statement, session⟩

theorem setStatement_alike (s : Statement) :
    Agrees (Alike past past') Eq Eq (setStatement s) (setStatement s) :=
  .modify fun _ _ alike => ⟨rfl, alike.session⟩

theorem withinScope_alike {α : Type} {action : BuilderM α}
    (inside : Agrees (Alike past past') Eq Eq action action) :
    Agrees (Alike past past') Eq Eq (withinScope action) (withinScope action) :=
  withinScope_related inside
    (fun _ _ ⟨statement, session⟩ => ⟨statement, session.connection, session.parser,
      session.config, session.queries⟩)
    fun _ _ _ _ _ ⟨statement, session⟩ => ⟨statement, session.connection, session.parser,
      session.config, session.queries⟩

theorem announce_alike {α : Type} (result : Except Error α) (notice : α → Notice) :
    Agrees (Alike past past') Eq Eq (announce result notice) (announce result notice) := by
  refine announce_related .refl ?_
  rintro a _ rfl b c alike
  exact ⟨alike.statement, alike.session.observeAll [notice a]⟩

theorem settle_alike (o : Outcome Statement) :
    Agrees (Alike past past') Eq Eq (settle o) (settle o) := by
  intro b c alike
  have session := alike.session.observeAll o.notices
  unfold settle
  cases o.failure with
  | none => exact ⟨rfl, rfl, session⟩
  | some e => exact ⟨rfl, rfl, session⟩

theorem paginate_alike (query : Select) (page items : Value) :
    Agrees (Alike past past') Eq Eq (paginate query page items) (paginate query page items) := by
  apply Agrees.get_bind
  intro b c alike
  dsimp only
  rw [alike.session.config]
  refine Agrees.bind (S := Alike past past') (setStatement_alike _) ?_ b c alike
  intro _ _ _
  refine .bind (A := Eq) (withinScope_alike ?_) ?_
  · refine .bind (inSession_alike (Session.count_alike _)) ?_
    rintro total _ rfl
    refine .bind (setStatement_alike _) ?_
    intro _ _ _
    refine .bind (inSession_alike (Session.exec_alike _)) ?_
    rintro result _ rfl
    exact .pure rfl
  · rintro ⟨total, result⟩ _ rfl
    dsimp only
    split
    · exact .throw rfl
    · refine .bind (inSession_alike (.modify fun s t alike => alike.log _ _ _ _)) ?_
      intro _ _ _
      exact .pure rfl

theorem onSelect_alike {α : Type} {name : String} {action : Select → BuilderM α}
    (each : ∀ query, Agrees (Alike past past') Eq Eq (action query) (action query)) :
    Agrees (Alike past past') Eq Eq (onSelect name action) (onSelect name action) := by
  apply Agrees.get_bind
  intro b c alike
  rw [alike.statement]
  cases b.statement with
  | select query => exact each query b c alike
  | _ => exact ⟨rfl, alike⟩

/-- An operation goes the same way on builders that are alike, and they are alike after it. -/
theorem run_alike (operation : Operation) :
    Agrees (Alike past past') Eq Eq (run operation) (run operation) := by
  refine .get_bind fun b c alike => ?_
  have replying : ∀ {α : Type} {action : BuilderM α} (reply : α → Reply),
      Agrees (Alike past past') Eq Eq action action →
      ResultsAgree (Alike past past') Eq Eq ((action >>= fun a => pure (reply a)) b)
        ((action >>= fun a => pure (reply a)) c) :=
    fun reply same => same.returning (fun _ _ same => congrArg reply same) b c alike
  cases operation with
  | call call =>
    dsimp only
    rw [alike.session.driver, alike.statement]
    exact replying (fun _ => .itself) (settle_alike _)
  | exec =>
    dsimp only
    rw [alike.statement]
    exact replying .value (inSession_alike (Session.exec_alike _))
  | raw sql values => exact replying .value (inSession_alike (Session.send_alike sql values))
  | count =>
    refine onSelect_alike (fun query => ?_) b c alike
    exact (inSession_alike (Session.count_alike query)).returning fun _ _ same =>
      congrArg (fun n => Reply.value (.int n)) same
  | paginate page items =>
    refine onSelect_alike (fun query => ?_) b c alike
    exact (paginate_alike query page items).returning fun _ _ same => congrArg Reply.page same
  | logSql =>
    dsimp only
    rw [alike.statement]
    exact replying (fun _ => .itself) (announce_alike _ _)
  | logValues =>
    dsimp only
    rw [alike.statement]
    exact replying (fun _ => .itself) (announce_alike _ _)
  | toSql =>
    dsimp only
    rw [alike.statement]
    exact replying (fun s => .value (.str s)) (.ofExcept .refl)
  | build embedded =>
    dsimp only
    rw [alike.statement]
    exact replying (fun s => .value (.str s)) (.ofExcept .refl)
  | values => exact ⟨by rw [alike.statement], alike⟩
  | dialect =>
    dsimp only
    rw [alike.session.driver]
    exact replying .dialect (announce_alike _ _)
  | parse =>
    dsimp only
    rw [alike.session.driver, alike.session.parser, alike.statement]
    refine Agrees.bind (A := Eq) (.ofExcept .refl) ?_ b c alike
    rintro sql _ rfl
    refine .bind (announce_alike _ _) ?_
    rintro kind _ rfl
    exact (Agrees.ofExcept .refl).returning fun _ _ same => congrArg Reply.root same
  | connection => exact ⟨by rw [alike.session.connection], alike⟩
  | config => exact ⟨by rw [alike.session.config], alike⟩
  | unknown name => exact ⟨by rw [alike.statement], alike⟩

theorem reply_alike {b c : Builder} (alike : b.Alike past past' c) (operation : Operation) :
    c.reply operation = b.reply operation ∧
      (b.next operation).Alike past past' (c.next operation) := by
  have ran := run_alike operation b c alike
  exact ⟨(reply_of_agree ran).eq.symm, next_of_agree ran⟩

theorem sights_alike (operations : List Operation) {b c : Builder}
    (alike : b.Alike b.session.queries c.session.queries c) :
    sights operations c = sights operations b := by
  induction operations generalizing b c with
  | nil => rfl
  | cons operation rest ih =>
    obtain ⟨replies, after⟩ := reply_alike alike operation
    obtain ⟨sent, sent', queries, queries', same⟩ := after.session.queries
    have seen : c.sight (c.reply operation) (c.next operation) =
        b.sight (b.reply operation) (b.next operation) := by
      unfold sight
      rw [replies, after.statement, queries, queries', List.drop_left, List.drop_left, same]
    rw [sights, sights, seen, ih ⟨after.statement, .of_same after.session.connection
      after.session.parser after.session.config⟩]

section

variable {b : Builder} {descriptor : Value}

theorem withDriver_next (b : Builder) (operation : Operation) :
    (b.next operation).withDriver b.session.connection.driver = b.next operation := by
  have same : (b.next operation).session.connection.driver = b.session.connection.driver :=
    congrArg Driver.descriptor (b.next_driver operation)
  rw [← same]
  rfl

/-- Taking notice neither asks the driver nor changes it. -/
theorem withDriver_observeAll (b : Builder) (statement : Statement) (notices : List Notice) :
    withDriver b.session.connection.driver
        ⟨statement, (b.withDriver descriptor).session.observeAll notices⟩ =
      ⟨statement, b.session.observeAll notices⟩ := by
  have told := b.session.observeAll_connection
    { b.session.connection with driver := descriptor } notices
  obtain ⟨_, _, observed⟩ := b.session.observeAll_eq notices
  unfold withDriver
  rw [told, observed]

theorem run_dialect (b : Builder) :
    run .dialect b =
      match b.session.driver.kind with
      | .error e => .error e b
      | .ok kind =>
        .ok (.dialect kind) { b with session := b.session.observeAll [.dialect kind] } := by
  rw [run, get_bind_apply]
  dsimp only
  cases b.session.driver.kind <;> rfl

/-- To be told the dialect is the same as to ask the driver for it. -/
theorem recalling_next {kept : Option DriverKind} (operation : Operation)
    (same : ∀ kind, kept = some kind →
      b.session.driver.kind = .ok kind) :
    (b.recalling kept operation).reply operation = b.reply operation ∧
      ((b.recalling kept operation).next operation).withDriver b.session.connection.driver =
        b.next operation := by
  have asked : ∀ operation, b.reply operation = b.reply operation ∧
      (b.next operation).withDriver b.session.connection.driver = b.next operation :=
    fun operation => ⟨rfl, b.withDriver_next operation⟩
  cases kept with
  | none => exact asked operation
  | some kind =>
    have resolved : Driver.kind ⟨.text (.kind kind), b.session.parser⟩ =
        b.session.driver.kind := (same kind rfl).symm
    cases operation with
    | call c =>
      have applied := Statement.apply_driver (.of_same ⟨resolved, rfl⟩ (c.attempts _ b.statement))
      have told : (b.recalling (some kind) (.call c)).statement.apply
          (b.recalling (some kind) (.call c)).session.driver c =
            b.statement.apply b.session.driver c := applied
      rw [reply_call, reply_call, told, next_call_eq, told, next_call_eq]
      exact ⟨rfl, b.withDriver_observeAll _ _⟩
    | dialect =>
      unfold reply next stateAfter
      rw [run_dialect, run_dialect]
      have told : (b.recalling (some kind) .dialect).session.driver.kind =
          b.session.driver.kind := resolved
      rw [told]
      cases b.session.driver.kind with
      | error e => exact ⟨rfl, rfl⟩
      | ok kind => exact ⟨rfl, b.withDriver_observeAll b.statement _⟩
    | parse =>
      unfold reply next stateAfter
      rw [run_parse, run_parse]
      have told : (b.recalling (some kind) .parse).session.driver.kind =
          b.session.driver.kind := resolved
      have rendered : (b.recalling (some kind) .parse).statement = b.statement := rfl
      have reader : (b.recalling (some kind) .parse).session.parser = b.session.parser := rfl
      rw [told, rendered, reader]
      cases b.statement.toSql with
      | error e => exact ⟨rfl, rfl⟩
      | ok sql =>
        cases b.session.driver.kind with
        | error e => exact ⟨rfl, rfl⟩
        | ok kind =>
          dsimp only
          cases b.session.parser.parse kind sql with
          | error e => exact ⟨rfl, b.withDriver_observeAll b.statement _⟩
          | ok title => exact ⟨rfl, b.withDriver_observeAll b.statement _⟩
    | _ => exact asked _

/-- No dialect that was kept from the driver shows in a run. -/
theorem sightsRecalling_eq (steps : List (Option DriverKind × Operation)) (b : Builder)
    (same : ∀ step ∈ steps, ∀ kind, step.1 = some kind →
      b.session.driver.kind = .ok kind) :
    sightsRecalling steps b = sights (steps.map Prod.snd) b := by
  induction steps generalizing b with
  | nil => rfl
  | cons step rest ih =>
    obtain ⟨kept, operation⟩ := step
    obtain ⟨replies, after⟩ := b.recalling_next operation (same _ List.mem_cons_self)
    have later := ih (b.next operation) fun step member kind known => by
      rw [b.next_driver operation]
      exact same step (List.mem_cons_of_mem _ member) kind known
    rw [sightsRecalling, List.map_cons, sights, replies, after]
    exact congrArg _ later

end

theorem start_eq_ok {kind : StatementKind} {s : Session} {b : Builder} :
    start kind s = .ok b ↔ Connection.check s.connection.toValue = .ok () ∧
      b = ⟨.empty kind, s⟩ := by
  unfold start
  cases Connection.check s.connection.toValue with
  | error e => simp [Except.map]
  | ok _ => simp [Except.map, eq_comm]

theorem apply_reset (driver : Driver) (s : Statement) :
    s.apply driver s.kind.reset = .done (.empty s.kind) := by
  cases s <;> rfl

/-- Whatever was done on a builder, and whatever of it failed: once the builder is reset, all that
is seen of it is what is seen of a new builder of the same kind, on the same connection with the
answers that are left, and with the same settings. A dialect that the old one has kept may or may
not take the place of the driver in any later step. -/
theorem sights_of_reset {kind : StatementKind} {session renewed : Session} {b : Builder}
    (started : start kind session = .ok b) (past : List Operation)
    (config : renewed.config = session.config)
    (connection : renewed.connection.bare = session.connection.bare)
    (parser : renewed.parser = session.parser)
    (answers : renewed.connection.answers = (b.after past).session.connection.answers)
    (steps : List (Option DriverKind × Operation))
    (kept : ∀ step ∈ steps, ∀ known, step.1 = some known →
      session.driver.kind = .ok known) :
    ∃ fresh, start kind renewed = .ok fresh ∧
      (b.after past).reply (.call kind.reset) = .ok .itself ∧
      sightsRecalling steps ((b.after past).next (.call kind.reset)) =
        sights (steps.map Prod.snd) fresh := by
  have opened : b = ⟨.empty kind, session⟩ := (start_eq_ok.mp started).2
  have reached : (b.after past).statement.kind = kind := by
    rw [after_kind, opened]
    cases kind <;> rfl
  have kept_peer := after_peer b past
  have peer : renewed.connection = (b.after past).session.connection := by
    apply Connection.eq_of_bare _ answers
    rw [connection, (Prod.mk.inj kept_peer).1, opened]
  have reader : renewed.parser = (b.after past).session.parser := by
    rw [parser, (Prod.mk.inj kept_peer).2, opened]
  have settings : renewed.config = (b.after past).session.config := by
    rw [config, after_config, opened]
  have usable : start kind renewed = .ok ⟨.empty kind, renewed⟩ := by
    refine start_eq_ok.mpr ⟨?_, rfl⟩
    have shown := (start_eq_ok.mp started).1
    rw [Connection.toValue_eq_of_bare connection]
    exact shown
  have applied : (b.after past).statement.apply (b.after past).session.driver
      kind.reset = .done (.empty kind) := by
    have reset := apply_reset (b.after past).session.driver (b.after past).statement
    rwa [reached] at reset
  have cleared : (b.after past).next (.call kind.reset) =
      ⟨.empty kind, (b.after past).session⟩ := by
    rw [next_call_eq, applied]
    rfl
  refine ⟨_, usable, by rw [reply_call, applied]; rfl, ?_⟩
  have driver : (b.after past).session.driver = session.driver := by
    rw [Session.driver_eq_of_peer kept_peer, opened]
  have alike : Alike (b.after past).session.queries renewed.queries
      ⟨.empty kind, (b.after past).session⟩ ⟨.empty kind, renewed⟩ :=
    ⟨rfl, .of_same peer reader settings⟩
  rw [cleared, sightsRecalling_eq steps]
  · exact (sights_alike (steps.map Prod.snd) alike).symm
  · intro step member known recalled
    rw [driver]
    exact kept step member known recalled

/-- A session of a connection with answers to come. -/
def answering (answers : List Answer) : Session :=
  .start ⟨"main", .str " SQLite3 ", .callable, answers⟩ .standard (fun n => toString n) .queries

/-- A builder whose connection refuses the first query that it is sent. -/
def refused : Builder :=
  ⟨.empty .select, answering [.fails (.connection "down"), .returns (.int 3)]⟩

/-- A query that is counted in vain, and then is left with a negation that nothing follows. -/
def countedInVain : List Operation :=
  [.call (.select (.table (.str "t"))), .count,
    .call (.select (.having (.callback (some [.rest]) [.col (.str "a"), .negate]))), .exec]

/-- The query of a year, on a builder that may know its dialect. -/
def yearly : List (Option DriverKind × Operation) :=
  [(none, .call (.select (.table (.str "u")))),
    (some .sqlite, .call (.select (.filter (.extend (.callback none
      [.col (.str "b"), .inPart .year (.int 2024)]))))),
    (some .sqlite, .exec), (some .sqlite, .parse)]

theorem sights_of_reset_countedInVain :
    ∃ fresh, start .select (answering [.returns (.int 3)]) = .ok fresh ∧
      (refused.after countedInVain).reply (.call (StatementKind.reset .select)) = .ok .itself ∧
      sightsRecalling yearly
          ((refused.after countedInVain).next (.call (StatementKind.reset .select))) =
        sights (yearly.map Prod.snd) fresh := by
  have started : start .select refused.session = .ok refused := rfl
  have settings : (answering [.returns (.int 3)]).config = refused.session.config := rfl
  have peer : (answering [.returns (.int 3)]).connection.bare = refused.session.connection.bare :=
    rfl
  have left : (answering [.returns (.int 3)]).connection.answers =
      (refused.after countedInVain).session.connection.answers := rfl
  apply sights_of_reset started countedInVain settings peer rfl left yearly
  intro step member known recalled
  have resolved : DriverKind.resolve (.str " SQLite3 ") = .ok .sqlite := rfl
  have same : known = .sqlite := by
    simp only [yearly, List.mem_cons, List.not_mem_nil, or_false] at member
    rcases member with rfl | rfl | rfl | rfl <;> simp_all
  rw [same]
  exact resolved

end Builder

end SqlBuilder
