import SqlBuilder.Proofs.Builder.Attempt
import SqlBuilder.Proofs.Builder.Comparison
import SqlBuilder.Proofs.Statement.Respelling

set_option autoImplicit false

namespace SqlBuilder

/-- The same answer, which may show a text or a dialect as either builder has it. -/
inductive Reply.Respelled (k l : DriverKind) : Reply → Reply → Prop
  | same (r : Reply) : Respelled k l r r
  | text (sql : Sql) (ending : String) :
    Respelled k l (.value (.str ((sql.respell k).text ++ ending)))
      (.value (.str ((sql.respell l).text ++ ending)))
  | dialect : Respelled k l (.dialect k) (.dialect l)

/-- What an operation replies in two sessions: properties show the connection and the settings of
either. -/
def Operation.ReplyRespelled (k l : DriverKind) (s t : Session) : Operation → Reply → Reply → Prop
  | .connection, r, q => r = .value s.connection.toValue ∧ q = .value t.connection.toValue
  | .config, r, q => r = .value s.config.toValue ∧ q = .value t.config.toValue
  | _, r, q => r.Respelled k l q

theorem Error.Respelled.of_eq {k l : DriverKind} (e f : Error) (same : e = f) :
    Error.Respelled k l e f := same ▸ .same e

variable {k l : DriverKind}

namespace Statement

variable {s : Statement}

/-- Texts of the same SQL, each in its own spelling. -/
def TextRespelled (k l : DriverKind) (ending first second : String) : Prop :=
  ∃ sql : Sql, sql.respell k = sql ∧ first = sql.text ++ ending ∧
    second = (sql.respell l).text ++ ending

theorem TextRespelled.reply {ending first second : String}
    (same : TextRespelled k l ending first second) :
    Reply.Respelled k l (.value (.str first)) (.value (.str second)) := by
  obtain ⟨sql, native, rfl, rfl⟩ := same
  have replies := Reply.Respelled.text (k := k) (l := l) sql ending
  rw [native] at replies
  exact replies

theorem render_agree (spoken : s.Spoken portable) (native : s.respell k = s) (ending : String) :
    Except.Agree Eq (TextRespelled k l ending) (s.render.map fun sql => sql.text ++ ending)
      ((s.respell l).render.map fun sql => sql.text ++ ending) := by
  rw [render_respell spoken]
  cases rendered : s.render with
  | error e => exact rfl
  | ok sql =>
    exact ⟨sql, native_of_render spoken native rendered, rfl, rfl⟩

theorem toSql_agree (spoken : s.Spoken portable) (native : s.respell k = s) :
    Except.Agree Eq (TextRespelled k l ";") s.toSql (s.respell l).toSql :=
  render_agree spoken native ";"

theorem embeddedText_agree (spoken : s.Spoken portable) (native : s.respell k = s)
    (embedded : Value) :
    Except.Agree Eq (fun first second => ∃ ending, TextRespelled k l ending first second)
      (Builder.embeddedText s embedded) (Builder.embeddedText (s.respell l) embedded) := by
  have whole : Except.Agree Eq (fun first second => ∃ ending, TextRespelled k l ending first second)
      s.toSql (s.respell l).toSql :=
    (toSql_agree spoken native).imp (fun _ _ => id) fun _ _ same => ⟨";", same⟩
  cases embedded with
  | bool bare =>
    cases bare with
    | false => exact whole
    | true =>
      have unended : ∀ s : Statement, (s.render.map fun sql => sql.text ++ "") =
          s.render.map Sql.text := fun s => by simp only [String.append_empty]
      have inside := render_agree (l := l) spoken native ""
      rw [unended, unended] at inside
      exact inside.imp (fun _ _ => id) fun _ _ same => ⟨"", same⟩
  | _ => exact whole

end Statement

/-- What two parsers make of a statement in either spelling: each has its own verdict on the text of
its own builder, and no text at all fails alike. -/
inductive ReadBack (k l : DriverKind) (p q : Parser) :
    Except Error Reply → Except Error Reply → Prop
  | unrendered (e : Error) : ReadBack k l p q (.error e) (.error e)
  | rendered {first second : String} (texts : Statement.TextRespelled k l ";" first second) :
    ReadBack k l p q ((p.parse k first).map .root) ((q.parse l second).map .root)

namespace Builder

/-- Builders of the same statement in either spelling, beside drivers of the two kinds. -/
structure Respelled (k l : DriverKind) (b c : Builder) : Prop where
  statement : c.statement = b.statement.respell l
  native : b.statement.respell k = b.statement
  spoken : b.statement.Spoken portable
  first : b.session.driver.kind = .ok k
  second : c.session.driver.kind = .ok l

variable {b c : Builder}

theorem Respelled.observeAll (same : Respelled k l b c) (notices others : List Notice) :
    Respelled k l { b with session := b.session.observeAll notices }
      { c with session := c.session.observeAll others } := by
  obtain ⟨_, _, observed⟩ := b.session.observeAll_eq notices
  obtain ⟨_, _, observed'⟩ := c.session.observeAll_eq others
  rw [observed, observed']
  exact { same with }

theorem announce_respelled {α : Type} {A : α → α → Prop} {x y : Except Error α}
    {notice other : α → Notice} (agree : Except.Agree (Error.Respelled k l) A x y) :
    Agrees (Respelled k l) (Error.Respelled k l) A (announce x notice) (announce y other) :=
  announce_related agree fun a a' _ _ _ same => same.observeAll [notice a] [other a']

theorem settle_respelled {o p : Outcome Statement} (same : Respelled k l b c)
    (agree : Outcome.Respelled k l (Statement.respell l) o p)
    (native : o.state.respell k = o.state) (spoken : o.state.Spoken portable) :
    ResultsAgree (Respelled k l) (Error.Respelled k l) Eq (settle o b) (settle p c) := by
  have after : Respelled k l ⟨o.state, b.session.observeAll o.notices⟩
      ⟨p.state, c.session.observeAll p.notices⟩ := by
    have observed := same.observeAll o.notices p.notices
    exact ⟨agree.state, native, spoken, observed.first, observed.second⟩
  unfold settle
  rcases agree.failures with ⟨none, none'⟩ | ⟨e, e', failed, failed', related⟩
  · rw [none, none']
    exact ⟨rfl, after⟩
  · rw [failed, failed']
    exact ⟨related, after⟩

theorem call_respelled (call : Call) (uses : call.Uses unread) (same : Respelled k l b c) :
    ResultsAgree (Respelled k l) (Error.Respelled k l) Eq
      (settle (b.statement.apply b.session.driver call) b)
      (settle (c.statement.apply c.session.driver call) c) := by
  have applied := Statement.apply_respell same.first same.second call uses same.spoken same.native
  have again := Statement.apply_respell same.first same.first call uses same.spoken same.native
  rw [same.native] at again
  rw [← same.statement] at applied
  exact settle_respelled same applied again.native
    (Statement.apply_spoken portable_closed _ call uses same.spoken)

/-- An operation that sends nothing goes the same way on both builders, but to read the statement
back is left to the parser. -/
theorem run_respelled {operation : Operation} (quiet : operation.sends = false)
    (own : operation ≠ .parse) (uses : operation.Uses unread) (same : Respelled k l b c) :
    ResultsAgree (Respelled k l) (Error.Respelled k l)
      (operation.ReplyRespelled k l b.session c.session) (run operation b) (run operation c) := by
  have toSql : Except.Agree (Error.Respelled k l) (Statement.TextRespelled k l ";")
      b.statement.toSql c.statement.toSql := by
    rw [same.statement]
    exact (Statement.toSql_agree same.spoken same.native).imp .of_eq fun _ _ => id
  have resolved : Except.Agree (Error.Respelled k l) (fun first second => first = k ∧ second = l)
      (b.session.driver.kind)
      (c.session.driver.kind) := by
    rw [same.first, same.second]
    exact ⟨rfl, rfl⟩
  unfold run
  rw [get_bind_apply, get_bind_apply]
  cases operation with
  | call call =>
    dsimp only
    exact (call_respelled call uses same).bind fun _ _ _ => .pure (.same .itself)
  | exec => cases quiet
  | raw sql values => cases quiet
  | count => cases quiet
  | paginate page items => cases quiet
  | logSql =>
    exact (announce_respelled toSql).returning (fun _ _ _ => .same .itself) b c same
  | logValues =>
    have given : Except.Agree (Error.Respelled k l) (fun _ _ => True)
      (.ok b.statement.values) (.ok c.statement.values) := trivial
    exact (announce_respelled given).returning (fun _ _ _ => .same .itself) b c same
  | toSql =>
    exact (Agrees.ofExcept toSql).returning (fun _ _ texts => texts.reply) b c same
  | build embedded =>
    have texts := Statement.embeddedText_agree (l := l) same.spoken same.native embedded
    rw [← same.statement] at texts
    have related := texts.imp (F := Error.Respelled k l) .of_eq fun _ _ => id
    exact (Agrees.ofExcept related).returning (fun _ _ ⟨_, texts⟩ => texts.reply) b c same
  | values =>
    have values : c.statement.values = b.statement.values := by
      rw [same.statement, Statement.values_respell]
    dsimp only
    rw [values]
    exact ⟨.same _, same⟩
  | dialect =>
    refine (announce_respelled resolved).returning ?_ b c same
    rintro _ _ ⟨rfl, rfl⟩
    exact .dialect
  | parse => exact absurd rfl own
  | connection => exact ⟨⟨rfl, rfl⟩, same⟩
  | config => exact ⟨⟨rfl, rfl⟩, same⟩
  | unknown name =>
    have refused : noOperation c.statement name = noOperation b.statement name := by
      rw [same.statement, noOperation, Statement.kind_respell, noOperation]
    dsimp only
    rw [refused]
    exact ⟨.same _, same⟩

/-- The parsers do not disturb the builders. -/
theorem next_parse_respelled (same : Respelled k l b c) :
    Respelled k l (b.next .parse) (c.next .parse) := by
  -- Whatever the verdict, at most the use of the dialect is noted; the verdicts need not be alike.
  have read : ∀ b : Builder, b.next .parse = b ∨
      ∃ kind, b.next .parse = { b with session := b.session.observeAll [.dialect kind] } := by
    intro b
    rw [next, stateAfter, run_parse]
    cases b.statement.toSql with
    | error e => exact .inl rfl
    | ok sql =>
      cases b.session.driver.kind with
      | error e => exact .inl rfl
      | ok kind =>
        dsimp only
        cases b.session.parser.parse kind sql with
        | error e => exact .inr ⟨kind, rfl⟩
        | ok title => exact .inr ⟨kind, rfl⟩
  rcases read b with first | ⟨kind, first⟩ <;> rcases read c with second | ⟨other, second⟩ <;>
    rw [first, second]
  · exact same
  · exact same.observeAll [] [.dialect other]
  · exact same.observeAll [.dialect kind] []
  · exact same.observeAll [.dialect kind] [.dialect other]

/-- Each parser reads the text of its own builder. -/
theorem reply_parse_respelled (same : Respelled k l b c) :
    ReadBack k l b.session.parser c.session.parser (b.reply .parse) (c.reply .parse) := by
  have texts := Statement.toSql_agree (l := l) same.spoken same.native
  rw [← same.statement] at texts
  rw [reply_parse, reply_parse, same.first, same.second]
  cases first : b.statement.toSql <;> cases second : c.statement.toSql <;>
    rw [first, second] at texts
  case error.error e f =>
    have equal : e = f := texts
    subst equal
    exact .unrendered e
  case ok.ok sql other => exact .rendered texts
  all_goals cases texts

/-- Builders of the same statement, in whatever sessions. -/
def Matching (b c : Builder) : Prop := c.statement = b.statement

theorem announce_matching {α : Type} {x : Except Error α} {notice : α → Notice} :
    Agrees Matching Eq Eq (announce x notice) (announce x notice) :=
  announce_related .refl fun _ _ _ _ _ same => same

theorem settle_matching (o : Outcome Statement) : Agrees Matching Eq Eq (settle o) (settle o) := by
  intro b c _
  unfold settle
  cases o.failure with
  | none => exact ⟨rfl, rfl⟩
  | some e => exact ⟨rfl, rfl⟩

theorem next_showing {operation : Operation} (shows : showing operation = true) (b : Builder) :
    (b.next operation).statement = b.statement :=
  keeps_showing (I := fun c => c.statement = b.statement) (fun _ _ before => before) shows b rfl

/-- An operation that does not show the session replies the same, unless it consults the driver. -/
theorem run_matching {operation : Operation} (same : Matching b c)
    (quiet : operation.sends = false) (hidden : operation.showsSession = false)
    (indifferent : Indifferent b.session.driver c.session.driver
      (operation.attempts b.session.driver b.statement)) :
    ResultsAgree Matching Eq Eq (run operation b) (run operation c) := by
  have statement : c.statement = b.statement := same
  have replying : ∀ {α : Type} {action : BuilderM α} (reply : α → Reply),
      Agrees Matching Eq Eq action action →
      ResultsAgree Matching Eq Eq ((action >>= fun a => pure (reply a)) b)
        ((action >>= fun a => pure (reply a)) c) :=
    fun reply agree => agree.returning (fun _ _ equal => congrArg reply equal) b c same
  unfold run
  rw [get_bind_apply, get_bind_apply]
  cases operation with
  | call call =>
    dsimp only
    rw [statement, Statement.apply_driver indifferent]
    exact replying (fun _ => .itself) (settle_matching _)
  | exec => cases quiet
  | raw sql values => cases quiet
  | count => cases quiet
  | paginate page items => cases quiet
  | logSql =>
    dsimp only
    rw [statement]
    exact replying (fun _ => .itself) announce_matching
  | logValues =>
    dsimp only
    rw [statement]
    exact replying (fun _ => .itself) announce_matching
  | toSql =>
    dsimp only
    rw [statement]
    exact replying (fun s => .value (.str s)) (.ofExcept .refl)
  | build embedded =>
    dsimp only
    rw [statement]
    exact replying (fun s => .value (.str s)) (.ofExcept .refl)
  | values => exact ⟨by rw [statement], same⟩
  | dialect => cases hidden
  | parse => cases hidden
  | connection => cases hidden
  | config => cases hidden
  | unknown name => exact ⟨by rw [statement], same⟩

/-- Outcomes of an operation that differ at most in what they show of either session; what the
statement reads back as is up to the parsers. -/
def OutcomesRespelled (k l : DriverKind) (s t : Session) :
    Operation × Except Error Reply → Operation × Except Error Reply → Prop
  | (.parse, x), (_, y) => ReadBack k l s.parser t.parser x y
  | (operation, x), (_, y) =>
    Except.Agree (Error.Respelled k l) (operation.ReplyRespelled k l s t) x y

/-- What the sessions show by then is what they showed before the operations. -/
theorem OutcomesRespelled.before {operation other : Operation}
    {x y : Operation × Except Error Reply}
    (agree : OutcomesRespelled k l (b.next operation).session (c.next other).session x y) :
    OutcomesRespelled k l b.session c.session x y := by
  obtain ⟨connection, config⟩ := b.next_shown operation
  obtain ⟨connection', config'⟩ := c.next_shown other
  have parser : (b.next operation).session.parser = b.session.parser :=
    congrArg Driver.parser (b.next_driver operation)
  have parser' : (c.next other).session.parser = c.session.parser :=
    congrArg Driver.parser (c.next_driver other)
  obtain ⟨asked, x⟩ := x
  cases asked with
  | parse =>
    rw [OutcomesRespelled, parser, parser'] at agree
    exact agree
  | connection =>
    refine Except.Agree.imp agree (fun _ _ => id) fun r q replies => ?_
    rw [Operation.ReplyRespelled, connection, connection'] at replies
    exact replies
  | config =>
    refine Except.Agree.imp agree (fun _ _ => id) fun r q replies => ?_
    rw [Operation.ReplyRespelled, config, config'] at replies
    exact replies
  | _ => exact agree

theorem step_respelled {operation : Operation} (quiet : operation.sends = false)
    (uses : operation.Uses unread) (same : Respelled k l b c) :
    OutcomesRespelled k l b.session c.session (operation, b.reply operation)
        (operation, c.reply operation) ∧
      Respelled k l (b.next operation) (c.next operation) := by
  by_cases own : operation = .parse
  · subst own
    exact ⟨reply_parse_respelled same, next_parse_respelled same⟩
  · have ran := run_respelled quiet own uses same
    have replies := reply_of_agree ran
    refine ⟨?_, next_of_agree ran⟩
    cases operation with
    | parse => exact absurd rfl own
    | _ => exact replies

theorem trace_respelled {operations : List Operation}
    (quiet : ∀ operation ∈ operations, operation.sends = false)
    (uses : ∀ operation ∈ operations, operation.Uses unread) (same : Respelled k l b c) :
    List.Forall₂ (OutcomesRespelled k l b.session c.session)
        (trace operations b) (trace operations c) ∧
      Respelled k l (b.after operations) (c.after operations) := by
  induction operations generalizing b c with
  | nil => exact ⟨.nil, same⟩
  | cons operation rest ih =>
    obtain ⟨silent, others⟩ := List.forall_mem_cons.mp quiet
    obtain ⟨first, more⟩ := List.forall_mem_cons.mp uses
    obtain ⟨reply, after⟩ := step_respelled silent first same
    obtain ⟨later, last⟩ := ih others more after
    exact ⟨.cons reply (later.imp fun _ _ => OutcomesRespelled.before), last⟩

/-- Outcomes of an operation that are the same, if it is not one to show the session; the driver is
shown as it may be, and anything else as either session has it. -/
def OutcomesMatch (s t : Session) :
    Operation × Except Error Reply → Operation × Except Error Reply → Prop
  | (.parse, _), _ | (.dialect, _), _ => True
  | (.connection, x), (_, y) =>
    x = .ok (.value s.connection.toValue) ∧ y = .ok (.value t.connection.toValue)
  | (.config, x), (_, y) => x = .ok (.value s.config.toValue) ∧ y = .ok (.value t.config.toValue)
  | (_, x), (_, y) => y = x

theorem OutcomesMatch.before {operation other : Operation} {x y : Operation × Except Error Reply}
    (agree : OutcomesMatch (b.next operation).session (c.next other).session x y) :
    OutcomesMatch b.session c.session x y := by
  obtain ⟨connection, config⟩ := b.next_shown operation
  obtain ⟨connection', config'⟩ := c.next_shown other
  obtain ⟨asked, x⟩ := x
  cases asked with
  | connection =>
    rw [OutcomesMatch, connection, connection'] at agree
    exact agree
  | config =>
    rw [OutcomesMatch, config, config'] at agree
    exact agree
  | _ => exact agree

theorem step_matching {operation : Operation} (quiet : operation.sends = false)
    (same : Matching b c) (indifferent : Indifferent b.session.driver c.session.driver
      (operation.attempts b.session.driver b.statement)) :
    OutcomesMatch b.session c.session (operation, b.reply operation)
        (operation, c.reply operation) ∧
      Matching (b.next operation) (c.next operation) := by
  cases shown : operation.showsSession with
  | false =>
    have ran := run_matching same quiet shown indifferent
    have replies : c.reply operation = b.reply operation := (reply_of_agree ran).eq.symm
    refine ⟨?_, next_of_agree ran⟩
    cases operation with
    | dialect | parse | connection | config => cases shown
    | _ => exact replies
  | true =>
    -- the replies may differ, or only one of them be a failure, but the statement is as before
    have shows : showing operation = true := by cases operation <;> first | rfl | cases shown
    refine ⟨?_, (next_showing shows c).trans (same.trans (next_showing shows b).symm)⟩
    cases operation with
    | dialect | parse => trivial
    | connection | config => exact ⟨rfl, rfl⟩
    | _ => cases shown

theorem trace_matching {operations : List Operation}
    (quiet : ∀ operation ∈ operations, operation.sends = false) (same : Matching b c)
    (indifferent : Indifferent b.session.driver c.session.driver
      (attempts operations b)) :
    List.Forall₂ (OutcomesMatch b.session c.session) (trace operations b) (trace operations c) ∧
      Matching (b.after operations) (c.after operations) := by
  induction operations generalizing b c with
  | nil => exact ⟨.nil, same⟩
  | cons operation rest ih =>
    obtain ⟨silent, others⟩ := List.forall_mem_cons.mp quiet
    obtain ⟨first, more⟩ := Indifferent.append.mp indifferent
    rw [← next_driver b operation, ← next_driver c operation] at more
    obtain ⟨reply, after⟩ := step_matching silent same first
    obtain ⟨later, last⟩ := ih others after more
    exact ⟨.cons reply (later.imp fun _ _ => OutcomesMatch.before), last⟩

/-- Only the spelling of date parts depends on the driver. On two supported drivers the same
operations have the same outcomes, and leave the same values and, but for that spelling, the same
clauses and the same text. Where nothing consults the dialect any two drivers will do, unless an
operation shows them. On an unsupported driver a date part that is accepted otherwise fails and
changes nothing. -/
theorem runs_on_two_drivers (kind : StatementKind) (session other : Session)
    (operations : List Operation) (quiet : ∀ operation ∈ operations, operation.sends = false) :
    (∀ k l, session.driver.kind = .ok k → other.driver.kind = .ok l →
      (∀ operation ∈ operations, operation.Uses unread) →
      List.Forall₂ (OutcomesRespelled k l session other)
          (trace operations ⟨.empty kind, session⟩) (trace operations ⟨.empty kind, other⟩) ∧
        (after ⟨.empty kind, other⟩ operations).statement =
          (after ⟨.empty kind, session⟩ operations).statement.respell l ∧
        (after ⟨.empty kind, other⟩ operations).statement.values =
          (after ⟨.empty kind, session⟩ operations).statement.values ∧
        Except.Agree Eq (Statement.TextRespelled k l ";")
          (after ⟨.empty kind, session⟩ operations).statement.toSql
          (after ⟨.empty kind, other⟩ operations).statement.toSql) ∧
    ((∀ a ∈ attempts operations ⟨.empty kind, session⟩, a.consults = false) →
      List.Forall₂ (OutcomesMatch session other) (trace operations ⟨.empty kind, session⟩)
          (trace operations ⟨.empty kind, other⟩) ∧
        (after ⟨.empty kind, other⟩ operations).statement =
          (after ⟨.empty kind, session⟩ operations).statement) ∧
    ∀ (o : Owner) (part : DatePart) (v : Value) (c : Condition) (column : String),
      DriverKind.ofDriver? o.driver.descriptor = none → c.column = some column →
      Condition.acceptsPart part v = true →
      (ConditionCall.inPart part v).run o c =
        .fail (.configuration (.driver o.driver.descriptor)) c := by
  refine ⟨fun k l first second uses => ?_, fun unconsulted => ?_, fun o part v c column => ?_⟩
  · have start : Respelled k l ⟨.empty kind, session⟩ ⟨.empty kind, other⟩ :=
      ⟨(Statement.respell_empty l kind).symm, Statement.respell_empty k kind,
        Statement.empty_spoken kind, first, second⟩
    obtain ⟨outcomes, last⟩ := trace_respelled quiet uses start
    refine ⟨outcomes, last.statement, ?_, ?_⟩
    · rw [last.statement, Statement.values_respell]
    · rw [last.statement]
      exact Statement.toSql_agree last.spoken last.native
  · have indifferent : Indifferent session.driver other.driver
        (attempts operations ⟨.empty kind, session⟩) := fun a attempted consulted =>
      absurd (consulted.symm.trans (unconsulted a attempted)) Bool.noConfusion
    obtain ⟨outcomes, last⟩ := trace_matching quiet (b := ⟨.empty kind, session⟩)
      (c := ⟨.empty kind, other⟩) rfl indifferent
    exact ⟨outcomes, last⟩
  · intro unsupported selected accepted
    have refused : o.driver.kind = .error (.configuration (.driver o.driver.descriptor)) := by
      rw [Driver.kind, DriverKind.resolve, unsupported]
    have runs : (ConditionCall.inPart part v).run o c = c.runPart o part v := by
      simp only [ConditionCall.run]
    rw [runs, Condition.runPart, selected]
    simp only [accepted, refused, Bool.not_true, Bool.false_eq_true, if_false]

/-- A new session on a connection with this driver. -/
def connectedBy (driver : Value) (parser : Parser := .queries) : Session :=
  .start ⟨"main", driver, .callable, []⟩ .standard (fun n => toString n) parser

/-- A query with a year in its subquery and a day in its union, which is read back. -/
def dated : List Operation :=
  [.call (.select (.table (.str "t"))),
    .call (.select (.filter (.extend (.callback none [.col (.str "a"), .inSubquery (.callback
      [.table (.str "u"), .filter (.extend (.callback none
        [.col (.str "c"), .inPart .year (.int 2024)]))])])))),
    .call (.select (.union false (.callback [.table (.str "v"),
      .filter (.extend (.callback none [.col (.str "d"), .inPart .date (.str "2024-01-31")]))]))),
    .parse]

/-- A query with a month that no year has, which is refused before the driver is asked. -/
def undated : List Operation :=
  [.call (.select (.table (.str "t"))),
    .call (.select (.filter (.extend (.callback none
      [.col (.str "a"), .inPart .month (.int 13)])))),
    .toSql]

set_option maxRecDepth 2000 in
theorem runs_on_two_drivers_dated :
    (List.Forall₂ (OutcomesRespelled .mysql .postgresql (connectedBy (.str "MySQL"))
          (connectedBy (.text (.kind .postgresql))))
        (trace dated ⟨.empty .select, connectedBy (.str "MySQL")⟩)
        (trace dated ⟨.empty .select, connectedBy (.text (.kind .postgresql))⟩) ∧
      (after ⟨.empty .select, connectedBy (.text (.kind .postgresql))⟩ dated).statement.values =
        [.int 2024, .str "2024-01-31"] ∧
      Except.Agree Eq (Statement.TextRespelled .mysql .postgresql ";")
        (.ok ("SELECT * FROM t WHERE a IN (SELECT * FROM u WHERE YEAR(c) = ?) " ++
          "UNION SELECT * FROM v WHERE DATE(d) = ?;"))
        (after ⟨.empty .select, connectedBy (.text (.kind .postgresql))⟩ dated).statement.toSql) ∧
    (List.Forall₂ (OutcomesMatch (connectedBy (.str "MySQL")) (connectedBy (.str "oracle")))
        (trace undated ⟨.empty .select, connectedBy (.str "MySQL")⟩)
        (trace undated ⟨.empty .select, connectedBy (.str "oracle")⟩) ∧
      (after ⟨.empty .select, connectedBy (.str "oracle")⟩ undated).statement =
        (after ⟨.empty .select, connectedBy (.str "MySQL")⟩ undated).statement) ∧
    (ConditionCall.inPart .month (.int 12)).run ⟨⟨.str "oracle", .queries⟩, none⟩
        { Condition.blank with column := some "a" } =
      .fail (.configuration (.driver (.str "oracle")))
        { Condition.blank with column := some "a" } := by
  have uses : ∀ operation ∈ dated, operation.Uses unread := by
    intro operation member
    simp only [dated, List.mem_cons, List.not_mem_nil, or_false] at member
    rcases member with rfl | rfl | rfl | rfl
    · rintro name ⟨⟩
      exact ⟨by decide, List.all_eq_true.mp rfl⟩
    · refine ⟨?_, ⟨?_, ⟨?_, nofun, trivial⟩, trivial⟩, trivial⟩
      all_goals
        rintro name ⟨⟩
        exact ⟨by decide, List.all_eq_true.mp rfl⟩
    · refine ⟨?_, ⟨?_, nofun, trivial⟩, trivial⟩
      all_goals
        rintro name ⟨⟩
        exact ⟨by decide, List.all_eq_true.mp rfl⟩
    · trivial
  have unconsulted : ∀ a ∈ attempts undated ⟨.empty .select, connectedBy (.str "MySQL")⟩,
      a.consults = false := by
    have none : (attempts undated ⟨.empty .select, connectedBy (.str "MySQL")⟩).all
        (fun a => !a.consults) = true := rfl
    intro a attempted
    have unasked := List.all_eq_true.mp none a attempted
    rwa [Bool.not_eq_true'] at unasked
  obtain ⟨outcomes, _, values, texts⟩ := (runs_on_two_drivers .select
    (connectedBy (.str "MySQL")) (connectedBy (.text (.kind .postgresql))) dated
      (by decide)).1 .mysql .postgresql rfl rfl uses
  have bound : (after ⟨.empty .select, connectedBy (.str "MySQL")⟩ dated).statement.values =
      [.int 2024, .str "2024-01-31"] := rfl
  have text : (after ⟨.empty .select, connectedBy (.str "MySQL")⟩ dated).statement.toSql =
      .ok ("SELECT * FROM t WHERE a IN (SELECT * FROM u WHERE YEAR(c) = ?) " ++
        "UNION SELECT * FROM v WHERE DATE(d) = ?;") := rfl
  rw [bound] at values
  rw [text] at texts
  refine ⟨⟨outcomes, values, texts⟩, ?_, ?_⟩
  · exact (runs_on_two_drivers .select (connectedBy (.str "MySQL"))
      (connectedBy (.str "oracle")) undated (by decide)).2.1 unconsulted
  · exact (runs_on_two_drivers .select (connectedBy (.str "MySQL"))
      (connectedBy (.str "oracle")) [] (by decide)).2.2 ⟨⟨.str "oracle", .queries⟩, none⟩ .month
        (.int 12) _ "a" rfl rfl rfl

/-- A query that is read back. -/
def readBack : List Operation := [.call (.select (.table (.str "t"))), .parse]

/-- A query that is read before it is united with another. -/
def readWithin : List Operation :=
  [.call (.select (.table (.str "t"))),
    .call (.select (.union false (.callback [.table (.str "1a"), .parse])))]

/-- Takes every text for a query, but for a table whose name starts with a digit: only the grammar
of one kind of driver has such names. -/
def digitFirst : Parser := fun kind sql =>
  if kind = .mysql ∨ sql ≠ "SELECT * FROM 1a" then some "Select" else none

/-- To read a statement back takes a dialect, also when there is no date part in it, and whether it
can be read may depend on the dialect. -/
theorem replies_readBack :
    (∀ operation ∈ readBack ++ readWithin,
      operation.sends = false ∧ operation.Uses identifiers) ∧
      (∀ a ∈ attempts readBack ⟨.empty .select, connectedBy (.str "mysql")⟩,
        a.consults = false) ∧
      (trace readBack ⟨.empty .select, connectedBy (.str "mysql")⟩).map Prod.snd =
        [.ok .itself, .ok (.root "Select")] ∧
      (trace readBack ⟨.empty .select, connectedBy (.str "oracle")⟩).map Prod.snd =
        [.ok .itself, .error (.configuration (.driver (.str "oracle")))] ∧
      (after ⟨.empty .select, connectedBy (.str "mysql") digitFirst⟩ readWithin).statement.toSql =
        .ok "SELECT * FROM t UNION SELECT * FROM 1a;" ∧
      (after ⟨.empty .select, connectedBy (.str "sqlite") digitFirst⟩ readWithin).statement.toSql =
        .ok "SELECT * FROM t;" := by
  have named : (Value.str "t").Names identifiers := by
    rintro name ⟨⟩
    exact ⟨by decide, List.all_eq_true.mp rfl⟩
  have digits : (Value.str "1a").Names identifiers := by
    rintro name ⟨⟩
    exact ⟨by decide, List.all_eq_true.mp rfl⟩
  refine ⟨?_, List.forall_mem_singleton.mpr rfl, rfl, rfl, rfl, rfl⟩
  intro operation member
  simp only [readBack, readWithin, List.cons_append, List.nil_append, List.mem_cons,
    List.not_mem_nil, or_false] at member
  rcases member with rfl | rfl | rfl | rfl
  · exact ⟨rfl, named⟩
  · exact ⟨rfl, trivial⟩
  · exact ⟨rfl, named⟩
  · exact ⟨rfl, digits, trivial, trivial⟩

end Builder

end SqlBuilder
