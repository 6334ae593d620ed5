import SqlBuilder.Proofs.Builder.Attempt
import SqlBuilder.Proofs.Builder.Comparison
import SqlBuilder.Proofs.Statement.Noninterference

set_option autoImplicit false

namespace SqlBuilder

variable {R : Value → Value → Prop}

structure Query.Agree (R : Value → Value → Prop) (q r : Query) : Prop where
  sql : r.sql = q.sql
  values : q.values.ListExchanged R r.values

/-- What a session needs to send like another: the same answers to come and the same settings. -/
structure Session.Answering (s t : Session) : Prop where
  routine : t.connection.routine = s.connection.routine
  answers : t.connection.answers = s.connection.answers
  config : t.config = s.config

/-- Two sessions with the same driver that were sent the same texts since `past` and `past'`, and
that answer alike if anything is to be sent. -/
structure Session.Agree (R : Value → Value → Prop) (sends : Prop) (past past' : List Query)
    (s t : Session) : Prop where
  driver : t.driver = s.driver
  answering : sends → s.Answering t
  queries : ∃ sent sent', s.queries = past ++ sent ∧ t.queries = past' ++ sent' ∧
    List.Forall₂ (Query.Agree R) sent sent'

namespace Session

variable {sends : Prop} {past past' : List Query} {s t s' t' : Session}

/-- What sending depends on, and what it adds to. -/
def line (s : Session) : Connection × Config × Parser × List Query :=
  (s.connection, s.config, s.parser, s.queries)

/-- Nothing else in the sessions tells whether they agree. -/
theorem Agree.congr (agree : s.Agree R sends past past' t) (same : s'.line = s.line)
    (same' : t'.line = t.line) : s'.Agree R sends past past' t' := by
  simp only [line, Prod.mk.injEq] at same same'
  obtain ⟨connection, config, parser, queries⟩ := same
  obtain ⟨connection', config', parser', queries'⟩ := same'
  constructor
  · unfold Session.driver
    rw [connection, connection', parser, parser']
    exact agree.driver
  · intro asks
    have answering := agree.answering asks
    constructor
    · rw [connection, connection', answering.routine]
    · rw [connection, connection', answering.answers]
    · rw [config, config', answering.config]
  · rw [queries, queries']
    exact agree.queries

theorem line_observeAll (s : Session) (notices : List Notice) :
    (s.observeAll notices).line = s.line := by
  obtain ⟨_, _, same⟩ := s.observeAll_eq notices
  rw [same]
  rfl

theorem Agree.log {logger logger' message message' : String} {level level' : Level}
    {fields fields' : Option Entries} (agree : s.Agree R sends past past' t) :
    (s.log logger level message fields).Agree R sends past past'
      (t.log logger' level' message' fields') :=
  agree.congr rfl rfl

theorem Agree.start (driver : t.driver = s.driver) (answering : sends → s.Answering t) :
    s.Agree R sends s.queries t.queries t :=
  ⟨driver, answering, [], [], (List.append_nil _).symm, (List.append_nil _).symm, .nil⟩

theorem Agree.sent {sql v w : Value} (agree : s.Agree R sends past past' t)
    (values : v.ListExchanged R w) :
    (s.sent sql v).Agree R sends past past' (t.sent sql w) := by
  constructor
  · exact agree.driver
  · -- Each connection gives up its next answer, so the answers to come are still the same.
    intro asks
    have answering := agree.answering asks
    constructor
    · exact answering.routine
    · exact congrArg List.tail answering.answers
    · exact answering.config
  · obtain ⟨sent, sent', queries, queries', pairs⟩ := agree.queries
    have last : List.Forall₂ (Query.Agree R)
        [⟨s.connection.name, sql, v, s.correlation.bound⟩]
        [⟨t.connection.name, sql, w, t.correlation.bound⟩] := .cons ⟨rfl, values⟩ .nil
    refine ⟨_, _, ?_, ?_, List.rel_append pairs last⟩
    · simp only [Session.sent, queries, List.append_assoc]
    · simp only [Session.sent, queries', List.append_assoc]

theorem withinScope_agrees {α : Type} {action other : SessionM α}
    (inside : Agrees (Session.Agree R sends past past') Eq Eq action other) :
    Agrees (Session.Agree R sends past past') Eq Eq (withinScope action) (withinScope other) :=
  Session.withinScope_related inside (fun _ _ agree => agree.congr rfl rfl)
    fun _ _ _ _ _ after => after.congr rfl rfl

variable (asks : sends)

include asks

theorem send_agrees {sql v w : Value} (values : v.ListExchanged R w) :
    Agrees (Session.Agree R sends past past') Eq Eq (send sql v) (send sql w) := by
  intro s t agree
  have answering := agree.answering asks
  have sent : (s.sent sql v).Agree R sends past past' (t.sent sql w) := agree.sent values
  unfold send
  rw [answering.routine]
  cases s.connection.routine with
  | callable =>
    dsimp only
    rw [answering.answers]
    split
    · exact ⟨rfl, sent⟩
    · exact ⟨rfl, sent⟩
    · exact ⟨rfl, sent⟩
  | _ => exact ⟨rfl, agree⟩

theorem exec_agrees {statement other : Statement} (same : statement.Exchanged R other) :
    Agrees (Session.Agree R sends past past') Eq Eq (exec statement) (exec other) := by
  have values : (Value.list statement.values).ListExchanged R (.list other.values) :=
    .inr ⟨_, _, rfl, rfl, same.values⟩
  unfold exec
  rw [same.toSql]
  refine .bind (.ofExcept .refl) ?_
  rintro sql _ rfl
  refine withinScope_agrees (.get_bind fun s t agree => ?_)
  rw [(agree.answering asks).config]
  split
  · refine Agrees.bind (S := Session.Agree R sends past past') (.set agree.log) ?_ s t agree
    rintro _ _ rfl
    exact send_agrees asks values
  · exact send_agrees asks values s t agree

theorem count_agrees {query other : Select} (same : query.Exchanged R other) :
    Agrees (Session.Agree R sends past past') Eq Eq (count query) (count other) := by
  apply Agrees.get_bind
  intro s t agree
  rw [(agree.answering asks).config]
  have counted : (query.counting s.config.countAlias).Exchanged R
      (other.counting s.config.countAlias) := { same with columns := rfl }
  refine Agrees.bind (S := Session.Agree R sends past past') (A := Eq)
    (exec_agrees asks (.select counted)) ?_ s t agree
  rintro rows _ rfl
  refine .bind (.ofExcept .refl) ?_
  rintro row _ rfl
  refine .bind (.ofExcept .refl) ?_
  rintro total _ rfl
  exact .ofExcept .refl

end Session

/-- What the replies to an operation may differ in: the bound values themselves, and the connection
and the settings that each session has. -/
def Operation.ReplyAgree (R : Value → Value → Prop) (s t : Session) :
    Operation → Reply → Reply → Prop
  | .values, r, q => ∃ values others,
    r = .value (.list values) ∧ q = .value (.list others) ∧ List.Forall₂ R values others
  | .connection, r, q => r = .value s.connection.toValue ∧ q = .value t.connection.toValue
  | .config, r, q => r = .value s.config.toValue ∧ q = .value t.config.toValue
  | _, r, q => r = q

/-- What the failures of an operation may differ in: refused rows are shown. -/
def Operation.ErrorAgree : Operation → Operation → Error → Error → Prop
  | .call c, .call other => c.ErrorAgree other
  | _, _ => Eq

structure Builder.Agree (R : Value → Value → Prop) (sends : Prop) (past past' : List Query)
    (b c : Builder) : Prop where
  statement : b.statement.Exchanged R c.statement
  session : b.session.Agree R sends past past' c.session

namespace Builder

variable {sends : Prop} {past past' : List Query} {b c : Builder}

theorem inSession_agrees {α : Type} {action other : SessionM α}
    (inside : Agrees (Session.Agree R sends past past') Eq Eq action other) :
    Agrees (Builder.Agree R sends past past') Eq Eq (inSession action) (inSession other) :=
  inSession_related inside (fun _ _ agree => agree.session)
    fun _ _ agree _ _ session => ⟨agree.statement, session⟩

theorem setStatement_agrees {s t : Statement} (same : s.Exchanged R t) :
    Agrees (Builder.Agree R sends past past') Eq Eq (setStatement s) (setStatement t) :=
  .modify fun _ _ agree => ⟨same, agree.session⟩

theorem withinScope_agrees {α β : Type} {A : α → β → Prop} {action : BuilderM α}
    {other : BuilderM β} (inside : Agrees (Builder.Agree R sends past past') Eq A action other) :
    Agrees (Builder.Agree R sends past past') Eq A (withinScope action) (withinScope other) :=
  withinScope_related inside
    (fun _ _ agree => ⟨agree.statement, agree.session.congr rfl rfl⟩)
    fun _ _ _ _ _ after => ⟨after.statement, after.session.congr rfl rfl⟩

theorem announce_agrees {α : Type} {A : α → α → Prop} {result other : Except Error α}
    {notice : α → Notice} (results : Except.Agree Eq A result other) :
    Agrees (Builder.Agree R sends past past') Eq A (announce result notice)
      (announce other notice) :=
  announce_related results fun a a' _ b c agree =>
    ⟨agree.statement, agree.session.congr (b.session.line_observeAll [notice a])
      (c.session.line_observeAll [notice a'])⟩

theorem announce_same {α : Type} {result : Except Error α} {notice : α → Notice} :
    Agrees (Builder.Agree R sends past past') Eq Eq (announce result notice)
      (announce result notice) :=
  announce_agrees .refl

theorem settle_agrees {E : Error → Error → Prop} {o p : Outcome Statement}
    (outcomes : Outcome.Agree E (Statement.Exchanged R) o p) :
    Agrees (Builder.Agree R sends past past') E Eq (settle o) (settle p) := by
  intro b c agree
  have session := agree.session.congr (b.session.line_observeAll o.notices)
    (c.session.line_observeAll p.notices)
  unfold settle
  rcases outcomes.failures with ⟨none, none'⟩ | ⟨e, f, failed, failed', related⟩
  · rw [none, none']
    exact ⟨rfl, outcomes.state, session⟩
  · rw [failed, failed']
    exact ⟨related, outcomes.state, session⟩

theorem paginate_agrees (asks : sends) {query other : Select} {page items : Value}
    (same : query.Exchanged R other) :
    Agrees (Builder.Agree R sends past past') Eq Eq (paginate query page items)
      (paginate other page items) := by
  have cleared : (Paging.cleared query).Exchanged R (Paging.cleared other) :=
    { same with limit := rfl, offset := rfl }
  have window : ∀ current size, (Paging.window current size query).Exchanged R
      (Paging.window current size other) := fun _ _ => { same with limit := rfl, offset := rfl }
  apply Agrees.get_bind
  intro b c agree
  dsimp only
  rw [(agree.session.answering asks).config]
  refine Agrees.bind (S := Builder.Agree R sends past past') (setStatement_agrees (.select cleared))
    ?_ b c agree
  intro _ _ _
  refine .bind (A := Eq) (withinScope_agrees ?_) ?_
  · refine .bind (inSession_agrees (Session.count_agrees asks cleared)) ?_
    rintro total _ rfl
    refine .bind (setStatement_agrees (.select (window _ _))) ?_
    intro _ _ _
    refine .bind (inSession_agrees (Session.exec_agrees asks (.select (window _ _)))) ?_
    rintro result _ rfl
    exact .pure rfl
  · rintro ⟨total, result⟩ _ rfl
    dsimp only
    split
    · exact .throw rfl
    · refine .bind (inSession_agrees (.modify fun _ _ agree => agree.log)) ?_
      intro _ _ _
      exact .pure rfl

theorem onSelect_agrees {α : Type} {name : String} {action : Select → BuilderM α}
    (each : ∀ query other : Select, query.Exchanged R other →
      Agrees (Builder.Agree R sends past past') Eq Eq (action query) (action other)) :
    Agrees (Builder.Agree R sends past past') Eq Eq (onSelect name action)
      (onSelect name action) := by
  apply Agrees.get_bind
  intro b c agree
  have statement := agree.statement
  cases first : b.statement <;> cases second : c.statement <;> rw [first, second] at statement
  case select.select query other =>
    cases statement with
    | select same => exact each query other same b c agree
  case insert.insert => exact ⟨rfl, agree⟩
  case update.update => exact ⟨rfl, agree⟩
  case delete.delete => exact ⟨rfl, agree⟩
  all_goals cases statement

theorem embeddedText_agree {s t : Statement} {embedded : Value} (same : s.Exchanged R t) :
    Except.Agree Eq Eq (embeddedText s embedded) (embeddedText t embedded) := by
  unfold embeddedText
  split
  · exact same.render.map fun a b rendered => rendered.text.symm
  · rw [same.toSql]
    exact .refl

/-- The same text is replied, or the same error. -/
theorem text_agrees {A : Reply → Reply → Prop} {x y : Except Error String} (equal : x = y)
    (same : ∀ sql, A (.value (.str sql)) (.value (.str sql))) :
    Agrees (Builder.Agree R sends past past') Eq A
      (MonadExcept.ofExcept x >>= fun sql => pure (.value (.str sql)) : BuilderM Reply)
      (MonadExcept.ofExcept y >>= fun sql => pure (.value (.str sql)) : BuilderM Reply) := by
  have texts : Except.Agree Eq Eq x y := equal ▸ .refl
  refine (Agrees.ofExcept texts).returning ?_
  rintro sql _ rfl
  exact same sql

/-- A statement whose text is the same is read back alike. -/
theorem readBack_agrees (driver : c.session.driver = b.session.driver)
    (text : c.statement.toSql = b.statement.toSql) (agree : b.Agree R sends past past' c) :
    ResultsAgree (Builder.Agree R sends past past') Eq Eq (run .parse b) (run .parse c) := by
  have parser : c.session.parser = b.session.parser := congrArg Driver.parser driver
  unfold run
  rw [get_bind_apply, get_bind_apply]
  dsimp only
  rw [driver, parser, text]
  refine Agrees.bind (A := Eq) (.ofExcept .refl) ?_ b c agree
  rintro sql _ rfl
  refine .bind announce_same ?_
  rintro kind _ rfl
  exact (Agrees.ofExcept .refl).returning fun _ _ same => congrArg Reply.root same

/-- Every operation has the same outcome on builders that agree, and they still agree then. -/
theorem run_agrees {operation other : Operation} (exchanged : operation.Exchanged R other)
    (asks : operation.sends = true → sends) (agree : b.Agree R sends past past' c) :
    ResultsAgree (Builder.Agree R sends past past') (operation.ErrorAgree other)
      (operation.ReplyAgree R b.session c.session) (run operation b) (run other c) := by
  have driver := agree.session.driver
  unfold run
  rw [get_bind_apply]
  cases operation with
  | call call =>
    obtain ⟨call', rfl, exchanged⟩ := exchanged
    rw [get_bind_apply]
    dsimp only
    rw [driver]
    have settled := @settle_agrees R sends past past' _ _ _
      (Statement.apply_agree b.session.driver exchanged agree.statement)
    exact settled.returning (fun _ _ _ => rfl) b c agree
  | raw sql values =>
    obtain ⟨values', rfl, lists⟩ := exchanged
    rw [get_bind_apply]
    have sent : Agrees (Session.Agree R sends past past') Eq Eq (Session.send sql values)
        (Session.send sql values') := Session.send_agrees (asks rfl) lists
    exact (inSession_agrees sent).returning (fun _ _ same => congrArg Reply.value same) b c agree
  | exec =>
    cases exchanged
    rw [get_bind_apply]
    have ran : Agrees (Session.Agree R sends past past') Eq Eq (Session.exec b.statement)
        (Session.exec c.statement) := Session.exec_agrees (asks rfl) agree.statement
    exact (inSession_agrees ran).returning (fun _ _ same => congrArg Reply.value same) b c agree
  | count =>
    cases exchanged
    rw [get_bind_apply]
    refine onSelect_agrees (fun query other same => ?_) b c agree
    have counted : Agrees (Session.Agree R sends past past') Eq Eq (Session.count query)
        (Session.count other) := Session.count_agrees (asks rfl) same
    exact (inSession_agrees counted).returning
      fun _ _ same => congrArg (fun n => Reply.value (.int n)) same
  | paginate page items =>
    cases exchanged
    rw [get_bind_apply]
    refine onSelect_agrees (fun query other same => ?_) b c agree
    exact (paginate_agrees (asks rfl) same).returning fun _ _ same => congrArg Reply.page same
  | logSql =>
    cases exchanged
    rw [get_bind_apply]
    dsimp only
    rw [agree.statement.toSql]
    exact announce_same.returning (fun _ _ _ => rfl) b c agree
  | logValues =>
    cases exchanged
    rw [get_bind_apply]
    have announced : Agrees (Builder.Agree R sends past past') Eq (fun _ _ => True)
        (announce (.ok b.statement.values) .bound) (announce (.ok c.statement.values) .bound) :=
      announce_agrees trivial
    exact announced.returning (fun _ _ _ => rfl) b c agree
  | toSql =>
    cases exchanged
    exact text_agrees agree.statement.toSql.symm (fun _ => rfl) b c agree
  | build embedded =>
    cases exchanged
    have same : embeddedText b.statement embedded = embeddedText c.statement embedded :=
      (embeddedText_agree agree.statement).eq
    exact text_agrees same (fun _ => rfl) b c agree
  | values =>
    cases exchanged
    exact ⟨⟨_, _, rfl, rfl, agree.statement.values⟩, agree⟩
  | dialect =>
    cases exchanged
    rw [get_bind_apply]
    dsimp only
    rw [driver]
    exact announce_same.returning (fun _ _ same => congrArg Reply.dialect same) b c agree
  | parse =>
    cases exchanged
    exact readBack_agrees driver agree.statement.toSql agree
  | connection =>
    cases exchanged
    exact ⟨⟨rfl, rfl⟩, agree⟩
  | config =>
    cases exchanged
    exact ⟨⟨rfl, rfl⟩, agree⟩
  | unknown name =>
    cases exchanged
    refine ⟨?_, agree⟩
    unfold noOperation
    rw [agree.statement.kind]
    rfl

/-- What a reader of the outcomes sees of an operation in either run. -/
def OutcomesAgree (R : Value → Value → Prop) (s t : Session)
    (x y : Operation × Except Error Reply) : Prop :=
  Except.Agree (x.1.ErrorAgree y.1) (x.1.ReplyAgree R s t) x.2 y.2

/-- What the sessions show by then is what they showed before the operations. -/
theorem OutcomesAgree.before {operation other : Operation} {x y : Operation × Except Error Reply}
    (agree : OutcomesAgree R (b.next operation).session (c.next other).session x y) :
    OutcomesAgree R b.session c.session x y := by
  obtain ⟨connection, config⟩ := b.next_shown operation
  obtain ⟨connection', config'⟩ := c.next_shown other
  refine agree.imp (fun _ _ => id) fun r q replies => ?_
  obtain ⟨asked, _⟩ := x
  cases asked with
  | connection =>
    rw [Operation.ReplyAgree, connection, connection'] at replies
    exact replies
  | config =>
    rw [Operation.ReplyAgree, config, config'] at replies
    exact replies
  | _ => exact replies

theorem trace_agrees {operations others : List Operation}
    (pairs : List.Forall₂ (Operation.Exchanged R) operations others)
    (asks : ∀ operation ∈ operations, operation.sends = true → sends)
    (agree : b.Agree R sends past past' c) :
    List.Forall₂ (OutcomesAgree R b.session c.session) (trace operations b) (trace others c) ∧
      (b.after operations).Agree R sends past past' (c.after others) := by
  induction pairs generalizing b c with
  | nil => exact ⟨.nil, agree⟩
  | @cons operation other operations others first _ ih =>
    have ran := run_agrees first (asks operation List.mem_cons_self) agree
    obtain ⟨later, last⟩ := ih (fun o member => asks o (List.mem_cons_of_mem _ member))
      (next_of_agree ran)
    exact ⟨.cons (reply_of_agree ran) (later.imp fun _ _ => OutcomesAgree.before), last⟩

/-- Two runs on the same driver that differ in the operands that they bind have the same outcomes,
send the same texts, leave statements with the same text or the same error, and bind values that are
exchanged place by place. -/
theorem exchanged_runs (R : Value → Value → Prop) (kind : StatementKind) (session other : Session)
    (driver : other.driver = session.driver) (operations others : List Operation)
    (answering : ∀ operation ∈ operations, operation.sends = true → session.Answering other)
    (exchanged : List.Forall₂ (Operation.Exchanged R) operations others) :
    List.Forall₂ (OutcomesAgree R session other) (trace operations ⟨.empty kind, session⟩)
        (trace others ⟨.empty kind, other⟩) ∧
      (∃ sent sent',
        (after ⟨.empty kind, session⟩ operations).session.queries = session.queries ++ sent ∧
        (after ⟨.empty kind, other⟩ others).session.queries = other.queries ++ sent' ∧
        List.Forall₂ (Query.Agree R) sent sent') ∧
      (after ⟨.empty kind, other⟩ others).statement.toSql =
        (after ⟨.empty kind, session⟩ operations).statement.toSql ∧
      List.Forall₂ R (after ⟨.empty kind, session⟩ operations).statement.values
        (after ⟨.empty kind, other⟩ others).statement.values := by
  have start : Builder.Agree R (session.Answering other) session.queries other.queries
      ⟨.empty kind, session⟩ ⟨.empty kind, other⟩ :=
    ⟨Statement.empty_exchanged kind, .start driver id⟩
  obtain ⟨outcomes, agree⟩ := trace_agrees exchanged answering start
  exact ⟨outcomes, agree.session.queries, agree.statement.toSql, agree.statement.values⟩

/-- Deletes the rows in which a column has a number. -/
def deleteEqual (n : Int) : List Operation :=
  [.call (.delete (.table (.str "t"))),
    .call (.delete (.filter (.extend (.callback none
      [.col (.str "a"), .compare .equal (.int n)])))), .exec]

def oneForTwo (v w : Value) : Prop := v = .int 1 ∧ w = .int 2

/-- The sample session under another name, after a query. -/
def replica : Session :=
  { Session.sample with
    connection := { Session.sample.connection with name := "replica" }
    queries := [⟨"replica", .str "SELECT 1", .list [], none⟩] }

theorem exchanged_runs_deleteEqual :
    List.Forall₂ (OutcomesAgree oneForTwo .sample replica)
        (trace (deleteEqual 1) ⟨.empty .delete, .sample⟩)
        (trace (deleteEqual 2) ⟨.empty .delete, replica⟩) ∧
      (∃ sent sent',
        (after ⟨.empty .delete, .sample⟩ (deleteEqual 1)).session.queries =
          Session.sample.queries ++ sent ∧
        (after ⟨.empty .delete, replica⟩ (deleteEqual 2)).session.queries =
          replica.queries ++ sent' ∧
        List.Forall₂ (Query.Agree oneForTwo) sent sent') ∧
      (after ⟨.empty .delete, replica⟩ (deleteEqual 2)).statement.toSql =
        .ok "DELETE FROM t WHERE a = ?;" ∧
      List.Forall₂ oneForTwo [.int 1] [.int 2] := by
  refine exchanged_runs oneForTwo .delete .sample replica rfl (deleteEqual 1) (deleteEqual 2)
    (fun _ _ _ => ⟨rfl, rfl, rfl⟩) (.cons ⟨_, rfl, _, rfl, rfl⟩ (.cons ?_ (.cons rfl .nil)))
  exact ⟨_, rfl, _, rfl, _, rfl, _, rfl, _, rfl, _, _, rfl, rfl, _, _, rfl,
    ⟨_, rfl, rfl, rfl, rfl⟩, rfl⟩

/-- Names another column in the second row than in the first. -/
def otherColumn (n : Int) : List Operation :=
  [.call (.insert (.into (.str "t"))), .call (.insert (.row (.map [(.str "a", .int 1)]))),
    .call (.insert (.row (.map [(.str "b", .int n)])))]

/-- The messages of the operations that fail. -/
def failures (operations : List Operation) (b : Builder) : List String :=
  (trace operations b).filterMap fun x =>
    match x.2 with
    | .ok _ => none
    | .error e => some e.message

/-- The refusal of a row shows its values, so this outcome is not the same in both runs. -/
theorem failures_otherColumn :
    List.Forall₂ (Operation.Exchanged fun _ _ => True) (otherColumn 2) (otherColumn 3) ∧
      failures (otherColumn 2) ⟨.empty .insert, .sample⟩ =
        ["Invalid INSERT row: \x7b'b': 2\x7d"] ∧
      failures (otherColumn 3) ⟨.empty .insert, .sample⟩ =
        ["Invalid INSERT row: \x7b'b': 3\x7d"] := by
  refine ⟨.cons ⟨_, rfl, _, rfl, rfl⟩ (.cons ?_ (.cons ?_ .nil)), ?_, ?_⟩
  · exact ⟨_, rfl, _, rfl, _, rfl, _, rfl, .cons ⟨rfl, rfl, trivial⟩ .nil⟩
  · exact ⟨_, rfl, _, rfl, _, rfl, _, rfl, .cons ⟨rfl, rfl, trivial⟩ .nil⟩
  · rfl
  · rfl

end Builder

end SqlBuilder
