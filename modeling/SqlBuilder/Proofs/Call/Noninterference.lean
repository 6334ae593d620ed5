import SqlBuilder.Proofs.Select.Exchange

set_option autoImplicit false

namespace SqlBuilder

variable {R : Value → Value → Prop}

theorem settle_agree {before other : Option Condition} {o p : Outcome Condition}
    (same : ClauseExchanged R before other)
    (agree : Outcome.Agree Eq (Condition.Exchanged R) o p) :
    Outcome.Agree Eq (ClauseExchanged R) (settle before o) (settle other p) := by
  cases same with
  | none => exact agree.commit .none fun _ _ same => .some same
  | some _ => exact agree.map fun _ _ same => .some same

namespace Condition

theorem Exchanged.embed {c d : Condition} {opening : String} {query other : Outcome Select}
    (same : c.Exchanged R d) (agree : Outcome.Agree Eq (Select.Exchanged R) query other) :
    Outcome.Agree Eq (Condition.Exchanged R) (c.embed (Sql.enclosed opening) query)
      (d.embed (Sql.enclosed opening) other) := by
  unfold Condition.embed
  rcases agree.failures with ⟨none, none'⟩ | ⟨e, f, failed, failed', related⟩
  · rw [none, none']
    have rendered := agree.state.render
    cases first : query.state.render <;> cases second : other.state.render <;>
      rw [first, second] at rendered
    case ok.ok a b => exact ⟨same.compare (.enclosed rendered), .none⟩
    case error.error e f => exact ⟨same, .some rendered⟩
    all_goals cases rendered
  · rw [failed, failed']
    exact ⟨same, .some related⟩

end Condition

namespace Select

variable {s t : Select}

theorem Exchanged.addUnion {all : Bool} {query other : Outcome Select} (same : s.Exchanged R t)
    (agree : Outcome.Agree Eq (Select.Exchanged R) query other) :
    Outcome.Agree Eq (Select.Exchanged R) (s.addUnion all query) (t.addUnion all other) := by
  unfold Select.addUnion
  rcases agree.failures with ⟨none, none'⟩ | ⟨e, f, failed, failed', related⟩
  · rw [none, none']
    have rendered := agree.state.render
    cases first : query.state.render <;> cases second : other.state.render <;>
      rw [first, second] at rendered
    case ok.ok a b =>
      have unions := List.rel_append same.unions (.cons (⟨rfl, rendered⟩ :
        Union.Exchanged R ⟨all, a⟩ ⟨all, b⟩) .nil)
      exact ⟨{ same with unions := unions }, .none⟩
    case error.error e f => exact ⟨same, .some rendered⟩
    all_goals cases rendered
  · rw [failed, failed']
    exact ⟨same, .some related⟩

theorem Exchanged.addJoin {kind : JoinKind} {table : String}
    {on other : Outcome (Option Condition)} (same : s.Exchanged R t)
    (agree : Outcome.Agree Eq (ClauseExchanged R) on other) :
    Outcome.Agree Eq (Select.Exchanged R) (s.addJoin kind table on)
      (t.addJoin kind table other) := by
  refine agree.commit same fun f g clause => { same with joins := ?_ }
  exact List.rel_append same.joins (.cons ⟨rfl, rfl, ClauseExchanged.getD clause⟩ .nil)

theorem Exchanged.callProperty {driver : Driver} {p : QueryProperty} (same : s.Exchanged R t) :
    Outcome.Agree Eq (Select.Exchanged R) (s.callProperty driver p)
      (t.callProperty driver p) := by
  cases p with
  | connection => exact .fail same rfl
  | config => exact .fail same rfl
  | dialect =>
    unfold Select.callProperty
    cases driver.kind with
    | error e => exact .fail same rfl
    | ok kind => exact ⟨same, .some rfl⟩

theorem Exchanged.parsed {driver : Driver} (same : s.Exchanged R t) :
    Outcome.Agree Eq (Select.Exchanged R) (s.parsed driver) (t.parsed driver) := by
  unfold Select.parsed
  rw [same.toSql]
  cases s.toSql with
  | error e => exact .fail same rfl
  | ok sql =>
    cases driver.kind with
    | error e => exact .fail same rfl
    | ok kind =>
      dsimp only
      cases driver.parser.parse kind sql with
      | error e => exact ⟨same, .some rfl⟩
      | ok _ => exact ⟨same, .none⟩

/-- An operation that sets a clause without operands agrees on exchanged queries. -/
theorem Exchanged.ofMap {α : Type} {x : Except Error α} {f g : α → Select} (same : s.Exchanged R t)
    (each : ∀ a, (f a).Exchanged R (g a)) :
    Outcome.Agree Eq (Select.Exchanged R) (.ofExcept s (x.map f)) (.ofExcept t (x.map g)) := by
  refine .ofExcept same (Except.Agree.map (S := Eq) .refl ?_)
  rintro a _ rfl
  exact each a

end Select

theorem ConditionCall.standsAlone_eq {call other : ConditionCall}
    (exchanged : call.Exchanged R other) : other.standsAlone = call.standsAlone := by
  cases call with
  | raw fragment values =>
    obtain ⟨others, rfl, _⟩ := exchanged
    rfl
  | between low high =>
    obtain ⟨low', high', rfl, _⟩ := exchanged
    rfl
  | compare s v =>
    obtain ⟨w, rfl, _⟩ := exchanged
    rfl
  | like v =>
    obtain ⟨w, rfl, _⟩ := exchanged
    rfl
  | oneOf values =>
    obtain ⟨others, rfl, _⟩ := exchanged
    rfl
  | inPart part v =>
    obtain ⟨w, rfl, _⟩ := exchanged
    rfl
  | inSubquery query =>
    obtain ⟨query', rfl, _⟩ := exchanged
    rfl
  | existsIn query =>
    obtain ⟨query', rfl, _⟩ := exchanged
    rfl
  | quantified quantifier operator query =>
    obtain ⟨query', rfl, _⟩ := exchanged
    rfl
  | apply predicate =>
    obtain ⟨predicate', rfl, _⟩ := exchanged
    rfl
  | attempt call =>
    obtain ⟨call', rfl, _⟩ := exchanged
    rfl
  | _ =>
    cases exchanged
    rfl

mutual

theorem ConditionCall.run_agree (o : Owner) :
    ∀ (call : ConditionCall) {other : ConditionCall} {c d : Condition},
      call.Exchanged R other → c.Exchanged R d →
      Outcome.Agree Eq (Condition.Exchanged R) (call.run o c) (other.run o d)
  | .col name, _, c, d, rfl, same => .ofExcept same same.select
  | .raw fragment values, _, c, d, ⟨others, rfl, pairs⟩, same => .ofExcept same (same.addRaw pairs)
  | .negate, _, c, d, rfl, same => .done ⟨same.sql, same.depth, rfl, same.column⟩
  | .openGroup, _, c, d, rfl, same => .done same.openGroup
  | .closeGroup, _, c, d, rfl, same => .done same.closeGroup
  | .toggleGroup, _, c, d, rfl, same => .done same.toggleGroup
  | .connect w, _, c, d, rfl, same => .done (same.pushMark rfl)
  | .compare s v, _, c, d, ⟨w, rfl, exchanged⟩, same =>
    .ofExcept same (same.compareWith .scalar exchanged)
  | .like v, _, c, d, ⟨w, rfl, exchanged⟩, same =>
    .ofExcept same (same.compareWith .fullText exchanged)
  | .between low high, _, c, d, ⟨low', high', rfl, below, above⟩, same =>
    .ofExcept same (same.between below above)
  | .oneOf values, _, c, d, ⟨others, rfl, pairs⟩, same => .ofExcept same (same.oneOf pairs)
  | .isNull, _, c, d, rfl, same => .ofExcept same same.isNull
  | .inPart part v, _, c, d, ⟨w, rfl, exchanged⟩, same => same.runPart exchanged
  | .inSubquery query, _, c, d, ⟨query', rfl, exchanged⟩, same => by
    simp only [ConditionCall.run, same.column]
    cases c.column with
    | none => exact .fail same rfl
    | some column => exact query.compareIn_agree o exchanged same
  | .existsIn query, _, c, d, ⟨query', rfl, exchanged⟩, same => by
    simp only [ConditionCall.run]
    exact query.compareIn_agree o exchanged same
  | .quantified quantifier operator query, _, c, d, ⟨query', rfl, exchanged⟩, same => by
    simp only [ConditionCall.run, same.column]
    cases c.column with
    | none => exact .fail same rfl
    | some column =>
      dsimp only
      split
      · exact query.compareIn_agree o exchanged same
      · exact .fail same rfl
  | .apply predicate, _, c, d, ⟨predicate', rfl, exchanged⟩, same => by
    simp only [ConditionCall.run]
    exact predicate.apply_agree o exchanged same
  | .attempt call, _, c, d, ⟨call', rfl, exchanged⟩, same => by
    simp only [ConditionCall.run]
    exact (call.run_agree o exchanged same).caught
  | .check, _, c, d, rfl, same => by
    simp only [ConditionCall.run]
    exact .ofExcept same (same.build.map fun _ _ _ => same)
  | .values, _, c, d, rfl, same => .fail same rfl
  | .unknown _, _, c, d, rfl, same => .fail same rfl
  | .abort _ _, _, c, d, rfl, same => .fail same rfl
termination_by structural call => call

theorem ConditionCall.runAll_agree (o : Owner) :
    ∀ (calls : List ConditionCall) {others : List ConditionCall} {held : Bool} {c d : Condition},
      ConditionCall.AllExchanged R calls others → c.Exchanged R d →
      Outcome.Agree Eq (Condition.Exchanged R) (ConditionCall.runAll o held calls c)
        (ConditionCall.runAll o held others d)
  | [], _, held, c, d, rfl, same => by
    simp only [ConditionCall.runAll]
    exact .done same
  | call :: rest, _, held, c, d, ⟨other, rest', rfl, first, later⟩, same => by
    have alone : other.standsAlone = call.standsAlone := ConditionCall.standsAlone_eq first
    simp only [ConditionCall.runAll, alone]
    split
    · exact (call.run_agree o first same).andThen fun _ _ same =>
        ConditionCall.runAll_agree o rest later same
    · exact .fail same rfl
termination_by structural calls => calls

theorem Predicate.apply_agree (o : Owner) :
    ∀ (predicate : Predicate) {other : Predicate} {c d : Condition},
      predicate.Exchanged R other → c.Exchanged R d →
      Outcome.Agree Eq (Condition.Exchanged R) (predicate.apply o c) (other.apply o d)
  | .callback _ calls, _, c, d, ⟨calls', rfl, exchanged⟩, same => by
    simp only [Predicate.apply]
    exact ConditionCall.runAll_agree o calls exchanged same
  | .other _, _, c, d, rfl, same => .fail same rfl
termination_by structural predicate => predicate

theorem Predicate.extend_agree (driver : Driver) (clause : Clause) :
    ∀ (predicate : Predicate) {other : Predicate} {f g : Option Condition},
      predicate.Exchanged R other → ClauseExchanged R f g →
      Outcome.Agree Eq (ClauseExchanged R) (predicate.extend driver clause f)
        (other.extend driver clause g)
  | .callback _ calls, _, f, g, ⟨calls', rfl, exchanged⟩, same => by
    simp only [Predicate.extend]
    exact settle_agree same (ConditionCall.runAll_agree ⟨driver, none⟩ calls exchanged same.getD)
  | .other _, _, f, g, rfl, same => .fail same rfl
termination_by structural predicate => predicate

theorem Subquery.compareIn_agree (o : Owner) :
    ∀ (query : Subquery) {other : Subquery} {c d : Condition} {opening : String},
      query.Exchanged R other → c.Exchanged R d →
      Outcome.Agree Eq (Condition.Exchanged R) (query.compareIn o c (Sql.enclosed opening))
        (other.compareIn o d (Sql.enclosed opening))
  | .other _, _, c, d, _, rfl, same => .fail same rfl
  | .callback calls, _, c, d, _, ⟨calls', rfl, exchanged⟩, same => by
    simp only [Subquery.compareIn]
    split
    · exact .fail same rfl
    · exact same.embed (SelectCall.runAll_agree o.driver calls exchanged Select.empty_exchanged)
termination_by structural query => query

theorem FilterCall.run_agree (driver : Driver) (kind : StatementKind) :
    ∀ (call : FilterCall) {other : FilterCall} {f g : Option Condition},
      call.Exchanged R other → ClauseExchanged R f g →
      Outcome.Agree Eq (ClauseExchanged R) (call.run driver kind f) (other.run driver kind g)
  | .extend predicate, _, f, g, ⟨predicate', rfl, exchanged⟩, same => by
    simp only [FilterCall.run]
    exact predicate.extend_agree driver _ exchanged same
  | .connect w, _, _, _, rfl, .none => .fail .none rfl
  | .connect w, _, _, _, rfl, .some same => .done (.some (same.pushMark rfl))
  | .openGroup, _, f, g, rfl, same => .done (.some same.getD.openGroup)
  | .closeGroup, _, _, _, rfl, .none => .fail .none rfl
  | .closeGroup, _, _, _, rfl, .some same => .done (.some same.closeGroup)
  | .toggleGroup, _, f, g, rfl, same => .done (.some same.getD.toggleGroup)
termination_by structural call => call

theorem SelectCall.run_agree (driver : Driver) :
    ∀ (call : SelectCall) {other : SelectCall} {s t : Select},
      call.Exchanged R other → s.Exchanged R t →
      Outcome.Agree Eq (Select.Exchanged R) (call.run driver s) (other.run driver t)
  | .table name, _, s, t, rfl, same => by
    simp only [SelectCall.run, Select.setTable]
    cases name.fullString? with
    | none => exact .fail same rfl
    | some table => exact .done { same with table := rfl }
  | .columns names, _, s, t, rfl, same => by
    simp only [SelectCall.run, Select.setColumns]
    exact same.ofMap fun columns => { same with columns := rfl }
  | .distinct, _, s, t, rfl, same => .done { same with distinct := rfl }
  | .limit count, _, s, t, rfl, same => by
    simp only [SelectCall.run, Select.setLimit]
    exact same.ofMap fun n => { same with limit := rfl }
  | .offset count, _, s, t, rfl, same => by
    simp only [SelectCall.run, Select.setOffset]
    exact same.ofMap fun n => { same with offset := rfl }
  | .join kind table on, _, s, t, ⟨on', rfl, exchanged⟩, same => by
    simp only [SelectCall.run]
    cases table.fullString? with
    | none => exact .fail same rfl
    | some name => exact same.addJoin (on.extend_agree driver .join exchanged .none)
  | .filter call, _, s, t, ⟨call', rfl, exchanged⟩, same => by
    simp only [SelectCall.run]
    exact (call.run_agree driver .select exchanged same.filter).map fun f g clause =>
      { same with filter := clause }
  | .groupBy columns, _, s, t, rfl, same => by
    simp only [SelectCall.run, Select.addGroups]
    exact same.ofMap fun added => { same with groups := congrArg (· ++ added) same.groups }
  | .having predicate, _, s, t, ⟨predicate', rfl, exchanged⟩, same => by
    simp only [SelectCall.run]
    exact (predicate.extend_agree driver .having exchanged same.having).map fun f g clause =>
      { same with having := clause }
  | .orderBy column order, _, s, t, rfl, same => by
    simp only [SelectCall.run, Select.addOrder]
    cases column.fullString? with
    | none => exact .fail same rfl
    | some name =>
      dsimp only
      split
      · exact .done { same with orders := congrArg (· ++ _) same.orders }
      · exact .fail same rfl
  | .union all query, _, s, t, ⟨query', rfl, exchanged⟩, same => by
    simp only [SelectCall.run]
    exact query.addTo_agree driver all exchanged same
  | .attempt call, _, s, t, ⟨call', rfl, exchanged⟩, same => by
    simp only [SelectCall.run]
    exact (call.run_agree driver exchanged same).caught
  | .reset, _, s, t, rfl, _ => .done Select.empty_exchanged
  | .logSql, _, s, t, rfl, same => by
    simp only [SelectCall.run, same.toSql]
    cases s.toSql with
    | error e => exact .fail same rfl
    | ok sql => exact ⟨same, .none⟩
  | .logValues, _, s, t, rfl, same => ⟨same, .none⟩
  | .check, _, s, t, rfl, same => by
    simp only [SelectCall.run, same.toSql]
    exact same.ofMap fun _ => same
  | .parse, _, s, t, rfl, same => by
    simp only [SelectCall.run]
    exact same.parsed
  | .idle, _, s, t, rfl, same => .done same
  | .property p, _, s, t, rfl, same => by
    simp only [SelectCall.run]
    exact same.callProperty
  | .unknown _, _, s, t, rfl, same => .fail same rfl
  | .abort _, _, s, t, rfl, same => .fail same rfl
termination_by structural call => call

theorem Subquery.addTo_agree (driver : Driver) (all : Bool) :
    ∀ (query : Subquery) {other : Subquery} {s t : Select},
      query.Exchanged R other → s.Exchanged R t →
      Outcome.Agree Eq (Select.Exchanged R) (query.addTo driver all s) (other.addTo driver all t)
  | .other _, _, s, t, rfl, same => .fail same rfl
  | .callback calls, _, s, t, ⟨calls', rfl, exchanged⟩, same => by
    simp only [Subquery.addTo]
    exact same.addUnion (SelectCall.runAll_agree driver calls exchanged Select.empty_exchanged)
termination_by structural query => query

theorem SelectCall.runAll_agree (driver : Driver) :
    ∀ (calls : List SelectCall) {others : List SelectCall} {s t : Select},
      SelectCall.AllExchanged R calls others → s.Exchanged R t →
      Outcome.Agree Eq (Select.Exchanged R) (SelectCall.runAll driver calls s)
        (SelectCall.runAll driver others t)
  | [], _, s, t, rfl, same => by
    simp only [SelectCall.runAll]
    exact .done same
  | call :: rest, _, s, t, ⟨other, rest', rfl, first, later⟩, same => by
    simp only [SelectCall.runAll]
    exact (call.run_agree driver first same).andThen fun _ _ same =>
      SelectCall.runAll_agree driver rest later same
termination_by structural calls => calls

end

end SqlBuilder
