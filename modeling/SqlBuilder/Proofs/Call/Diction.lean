import SqlBuilder.Proofs.Call.Vocabulary
import SqlBuilder.Proofs.Condition.Operation
import SqlBuilder.Proofs.Outcome

set_option autoImplicit false

namespace SqlBuilder

structure Diction extends Vocabulary where
  comparison : Sql → Prop
  query : Sql → Prop

section

variable (d : Diction)

def Token.Spoken : Token → Prop
  | .comparison _ sql => d.comparison sql
  | .raw text values => d.fragment text values
  | _ => True

structure Condition.Spoken (c : Condition) : Prop where
  tokens : ∀ t ∈ c.tokens, t.Spoken d
  column : ∀ column, c.column = some column → d.name column

structure Select.Spoken (s : Select) : Prop where
  table : ∀ table, s.table = some table → d.name table
  columns : ∀ column ∈ s.columns, d.name column
  joins : ∀ j ∈ s.joins, d.name j.table ∧ j.condition.Spoken d
  filter : ∀ c, s.filter = some c → c.Spoken d
  having : ∀ c, s.having = some c → c.Spoken d
  groups : ∀ column ∈ s.groups, d.name column
  orders : ∀ order ∈ s.orders, d.name order.1
  unions : ∀ u ∈ s.unions, d.query u.query

open Condition (operand isOperand) in
structure Diction.Closed : Prop where
  compare : ∀ column (s : Comparison) v, d.name column → isOperand v = true →
    v.Cites d.toVocabulary →
    d.comparison [.literal (column ++ " " ++ s.sign ++ " "), operand v]
  like : ∀ column v, d.name column → isOperand v = true → v.Cites d.toVocabulary →
    d.comparison [.literal (column ++ " " ++ "LIKE" ++ " "), operand v]
  between : ∀ column low high, d.name column → isOperand low = true → isOperand high = true →
    low.Cites d.toVocabulary → high.Cites d.toVocabulary →
    d.comparison [.literal (column ++ " BETWEEN "), operand low, .literal " AND ", operand high]
  oneOf : ∀ column values, d.name column → values ≠ [] →
    (∀ v ∈ values, isOperand v = true) → (∀ v ∈ values, v.Cites d.toVocabulary) →
    d.comparison (.literal (column ++ " IN (") ::
      Sql.joinWith ", " (values.map fun v => [operand v]) ++ [.literal ")"])
  isNull : ∀ column, d.name column → d.comparison [.literal (column ++ " IS NULL")]
  part : ∀ kind part column v, d.name column → isOperand v = true → v.Cites d.toVocabulary →
    d.comparison [.extract kind part column, .literal " = ", operand v]
  inQuery : ∀ column sql, d.name column → d.query sql →
    d.comparison (Sql.enclosed (column ++ " IN (") sql)
  existsIn : ∀ sql, d.query sql → d.comparison (Sql.enclosed "EXISTS (" sql)
  quantified : ∀ column (sign : Operator) (quantifier : Quantifier) sql, d.name column →
    d.query sql → d.comparison (Sql.enclosed
      (column ++ " " ++ sign.spelling ++ " " ++ quantifier.keyword ++ " (") sql)
  render : ∀ s sql, Select.Spoken d s → s.render = .ok sql → d.query sql

end

variable {d : Diction}

namespace Condition

variable {c : Condition}

theorem blank_spoken : blank.Spoken d :=
  ⟨nofun, nofun⟩

theorem Spoken.getD {f : Option Condition} (spoken : ∀ c, f = some c → c.Spoken d) :
    (f.getD .blank).Spoken d := by
  cases f with
  | none => exact blank_spoken
  | some c => exact spoken c rfl

theorem Spoken.push {t : Token} (spoken : c.Spoken d) (token : t.Spoken d) :
    (c.push t).Spoken d := by
  refine ⟨fun u member => ?_, spoken.column⟩
  rcases List.mem_append.mp member with before | last
  · exact spoken.tokens u before
  · rw [List.mem_singleton.mp last]
    exact token

theorem Spoken.compare {sql : Sql} (spoken : c.Spoken d) (comparison : d.comparison sql) :
    (c.compare sql).Spoken d := by
  have pushed := spoken.push (t := .comparison c.negating sql) comparison
  exact ⟨pushed.tokens, pushed.column⟩

theorem Spoken.toggleGroup (spoken : c.Spoken d) : c.toggleGroup.Spoken d := by
  unfold Condition.toggleGroup
  split
  · exact spoken.push (t := .opening) trivial
  · exact spoken.push (t := .closing) trivial

theorem Spoken.runPart {o : Owner} {part : DatePart} {v : Value} (closed : d.Closed)
    (spoken : c.Spoken d) (cites : v.Cites d.toVocabulary) :
    (c.runPart o part v).state.Spoken d := by
  rcases runPart_eq c o part v with
    ⟨column, kind, selected, accepted, _, ran⟩ | ⟨e, ran⟩
  · rw [ran]
    exact spoken.compare (closed.part kind part column v (spoken.column column selected)
      (isOperand_of_acceptsPart accepted) cites)
  · rw [ran]
    exact spoken

theorem Spoken.embed {wrap : Sql → Sql} {query : Outcome Select} (closed : d.Closed)
    (spoken : c.Spoken d) (built : query.state.Spoken d)
    (wraps : ∀ sql, d.query sql → d.comparison (wrap sql)) :
    (c.embed wrap query).state.Spoken d := by
  rcases embed_eq c wrap query with
    ⟨sql, _, rendered, ran⟩ | ⟨e, ran⟩
  · rw [ran]
    exact spoken.compare (wraps sql (closed.render query.state sql built rendered))
  · rw [ran]
    exact spoken

end Condition

/-- A clause that a callback worked on is new, or what the callback left. -/
theorem settle_spoken {before : Option Condition} {o : Outcome Condition}
    (spoken : o.state.Spoken d) :
    ∀ c, (settle before o).state = some c → c.Spoken d := by
  intro c settled
  cases before with
  | some b =>
    cases settled
    exact spoken
  | none =>
    simp only [settle, Outcome.commit] at settled
    split at settled
    · cases settled
      exact spoken
    · cases settled

namespace Select

variable {s : Select}

theorem empty_spoken : empty.Spoken d where
  table := nofun
  columns := nofun
  joins := nofun
  filter := nofun
  having := nofun
  groups := nofun
  orders := nofun
  unions := nofun

theorem fullTexts_names {part : Part} {values : List Value} {names : List String}
    (given : ∀ v ∈ values, v.Names d.toVocabulary)
    (read : fullTexts part values = .ok names) : ∀ name ∈ names, d.name name := by
  have pairs := Except.mapM_eq_ok.mp read
  clear read
  induction pairs with
  | nil => exact nofun
  | @cons v name rest later first _ ih =>
    have named : d.name name := by
      split at first
      · next text full =>
        cases first
        exact given v List.mem_cons_self name full
      · cases first
    have others := ih fun v member => given v (List.mem_cons_of_mem _ member)
    intro other member
    rcases List.mem_cons.mp member with rfl | member
    · exact named
    · exact others other member

theorem Spoken.addJoin {kind : JoinKind} {table : String} {on : Outcome (Option Condition)}
    (spoken : s.Spoken d) (named : d.name table)
    (condition : ∀ c, on.state = some c → c.Spoken d) :
    (s.addJoin kind table on).state.Spoken d := by
  simp only [Select.addJoin, Outcome.commit]
  split
  · refine { spoken with joins := fun j member => ?_ }
    rcases List.mem_append.mp member with before | last
    · exact spoken.joins j before
    · rw [List.mem_singleton.mp last]
      exact ⟨named, Condition.Spoken.getD condition⟩
  · exact spoken

theorem addUnion_eq (s : Select) (all : Bool) (query : Outcome Select) :
    (∃ sql, query.failure = none ∧ query.state.render = .ok sql ∧
        s.addUnion all query =
          ⟨{ s with unions := s.unions ++ [⟨all, sql⟩] }, query.notices, none⟩) ∨
      ∃ e, s.addUnion all query = ⟨s, query.notices, some e⟩ := by
  unfold addUnion
  cases built : query.failure with
  | some e => exact .inr ⟨e, rfl⟩
  | none =>
    cases rendered : query.state.render with
    | error e => exact .inr ⟨e, rfl⟩
    | ok sql => exact .inl ⟨sql, rfl, rfl, rfl⟩

theorem Spoken.addUnion {all : Bool} {query : Outcome Select} (closed : d.Closed)
    (spoken : s.Spoken d) (built : query.state.Spoken d) :
    (s.addUnion all query).state.Spoken d := by
  rcases addUnion_eq s all query with
    ⟨sql, _, rendered, ran⟩ | ⟨e, ran⟩
  · rw [ran]
    refine { spoken with unions := fun u member => ?_ }
    rcases List.mem_append.mp member with before | last
    · exact spoken.unions u before
    · rw [List.mem_singleton.mp last]
      exact closed.render query.state sql built rendered
  · rw [ran]
    exact spoken

theorem callProperty_state {driver : Driver} {p : QueryProperty} :
    (s.callProperty driver p).state = s := by
  cases p with
  | dialect => simp only [callProperty]; split <;> rfl
  | _ => rfl

theorem parsed_state {driver : Driver} : (s.parsed driver).state = s := by
  unfold parsed
  split
  · rfl
  · rfl
  · split <;> rfl

end Select

open Outcome (ofExcept_state andThen_state)

mutual

theorem ConditionCall.run_spoken (closed : d.Closed) (o : Owner) :
    ∀ (call : ConditionCall) {c : Condition}, call.Uses d.toVocabulary → c.Spoken d →
      (call.run o c).state.Spoken d
  | .col name, c, uses, spoken => by
    apply ofExcept_state spoken
    intro t ok
    obtain ⟨s, text, rfl⟩ := Condition.select_eq_ok.mp ok
    refine ⟨spoken.tokens, fun column selected => ?_⟩
    cases selected
    exact uses s text
  | .raw fragment values, c, uses, spoken => by
    apply ofExcept_state spoken
    intro t ok
    obtain ⟨text, full, _, rfl⟩ := Condition.addRaw_eq_ok.mp ok
    exact spoken.push (t := .raw text values) (uses text full)
  | .negate, c, _, spoken => ⟨spoken.tokens, spoken.column⟩
  | .openGroup, c, _, spoken => spoken.push (t := .opening) trivial
  | .closeGroup, c, _, spoken => spoken.push (t := .closing) trivial
  | .toggleGroup, c, _, spoken => spoken.toggleGroup
  | .connect w, c, _, spoken => spoken.push (t := .connective w) trivial
  | .compare s v, c, uses, spoken => by
    apply ofExcept_state spoken
    intro t ok
    obtain ⟨column, selected, accepted, rfl⟩ := Condition.compareWith_eq_ok.mp ok
    exact spoken.compare (closed.compare column s v (spoken.column column selected) accepted uses)
  | .like v, c, uses, spoken => by
    apply ofExcept_state spoken
    intro t ok
    obtain ⟨column, selected, accepted, rfl⟩ := Condition.compareWith_eq_ok.mp ok
    exact spoken.compare (closed.like column v (spoken.column column selected)
      (Condition.isOperand_of_isTextOperand accepted) uses)
  | .between low high, c, uses, spoken => by
    apply ofExcept_state spoken
    intro t ok
    obtain ⟨column, selected, first, second, rfl⟩ := Condition.between_eq_ok.mp ok
    exact spoken.compare (closed.between column low high (spoken.column column selected)
      first second uses.1 uses.2)
  | .oneOf values, c, uses, spoken => by
    apply ofExcept_state spoken
    intro t ok
    obtain ⟨column, selected, given, accepted, rfl⟩ := Condition.oneOf_eq_ok.mp ok
    exact spoken.compare (closed.oneOf column values (spoken.column column selected)
      given accepted uses)
  | .isNull, c, _, spoken => by
    apply ofExcept_state spoken
    intro t ok
    obtain ⟨column, selected, rfl⟩ := Condition.isNull_eq_ok.mp ok
    exact spoken.compare (closed.isNull column (spoken.column column selected))
  | .inPart part v, c, uses, spoken => spoken.runPart closed uses
  | .inSubquery query, c, uses, spoken => by
    simp only [ConditionCall.run]
    cases selected : c.column with
    | none => exact spoken
    | some column =>
      exact query.compareIn_spoken closed o uses spoken fun sql =>
        closed.inQuery column sql (spoken.column column selected)
  | .existsIn query, c, uses, spoken =>
    query.compareIn_spoken closed o uses spoken closed.existsIn
  | .quantified quantifier operator query, c, uses, spoken => by
    simp only [ConditionCall.run]
    cases selected : c.column with
    | none => exact spoken
    | some column =>
      dsimp only
      split
      · next sign =>
        exact query.compareIn_spoken closed o uses spoken fun sql =>
          closed.quantified column sign quantifier sql (spoken.column column selected)
      · exact spoken
  | .apply predicate, c, uses, spoken => predicate.apply_spoken closed o uses spoken
  | .attempt call, c, uses, spoken => call.run_spoken closed o uses spoken
  | .check, c, _, spoken => by
    apply ofExcept_state spoken
    intro t ok
    obtain ⟨_, _, rfl⟩ := Except.map_eq_ok.mp ok
    exact spoken
  | .values, c, _, spoken => spoken
  | .unknown _, c, _, spoken => spoken
  | .abort _ _, c, _, spoken => spoken

theorem ConditionCall.runAll_spoken (closed : d.Closed) (o : Owner) :
    ∀ (calls : List ConditionCall) {held : Bool} {c : Condition},
      ConditionCall.AllUse d.toVocabulary calls → c.Spoken d →
      (ConditionCall.runAll o held calls c).state.Spoken d
  | [], held, c, _, spoken => by
    simp only [ConditionCall.runAll]
    exact spoken
  | call :: rest, held, c, uses, spoken => by
    have first := call.run_spoken closed o uses.1 spoken
    simp only [ConditionCall.runAll]
    split
    · exact andThen_state first (ConditionCall.runAll_spoken closed o rest uses.2 first)
    · exact spoken

theorem Predicate.apply_spoken (closed : d.Closed) (o : Owner) :
    ∀ (predicate : Predicate) {c : Condition}, predicate.Uses d.toVocabulary → c.Spoken d →
      (predicate.apply o c).state.Spoken d
  | .callback _ calls, c, uses, spoken => by
    simp only [Predicate.apply]
    exact ConditionCall.runAll_spoken closed o calls uses spoken
  | .other _, c, _, spoken => spoken

theorem Predicate.extend_spoken (closed : d.Closed) (driver : Driver) (clause : Clause) :
    ∀ (predicate : Predicate) {f : Option Condition}, predicate.Uses d.toVocabulary →
      (∀ c, f = some c → c.Spoken d) →
      ∀ c, (predicate.extend driver clause f).state = some c → c.Spoken d
  | .callback _ calls, f, uses, spoken => by
    simp only [Predicate.extend]
    exact settle_spoken (ConditionCall.runAll_spoken closed ⟨driver, none⟩ calls uses
      (Condition.Spoken.getD spoken))
  | .other _, f, _, spoken => spoken

theorem Subquery.compareIn_spoken (closed : d.Closed) (o : Owner) :
    ∀ (query : Subquery) {c : Condition} {wrap : Sql → Sql}, query.Uses d.toVocabulary →
      c.Spoken d → (∀ sql, d.query sql → d.comparison (wrap sql)) →
      (query.compareIn o c wrap).state.Spoken d
  | .other _, c, _, _, spoken, _ => spoken
  | .callback calls, c, wrap, uses, spoken, wraps => by
    simp only [Subquery.compareIn]
    split
    · exact spoken
    · exact spoken.embed closed
        (SelectCall.runAll_spoken closed o.driver calls uses Select.empty_spoken) wraps

theorem FilterCall.run_spoken (closed : d.Closed) (driver : Driver) (kind : StatementKind) :
    ∀ (call : FilterCall) {f : Option Condition}, call.Uses d.toVocabulary →
      (∀ c, f = some c → c.Spoken d) →
      ∀ c, (call.run driver kind f).state = some c → c.Spoken d
  | .extend predicate, f, uses, spoken => predicate.extend_spoken closed driver _ uses spoken
  | .connect w, none, _, _ => nofun
  | .connect w, some b, _, spoken => by
    rintro c ⟨⟩
    exact (spoken b rfl).push (t := .connective w) trivial
  | .openGroup, f, _, spoken => by
    rintro c ⟨⟩
    exact (Condition.Spoken.getD spoken).push (t := .opening) trivial
  | .closeGroup, none, _, _ => nofun
  | .closeGroup, some b, _, spoken => by
    rintro c ⟨⟩
    exact (spoken b rfl).push (t := .closing) trivial
  | .toggleGroup, f, _, spoken => by
    rintro c ⟨⟩
    exact (Condition.Spoken.getD spoken).toggleGroup

theorem SelectCall.run_spoken (closed : d.Closed) (driver : Driver) :
    ∀ (call : SelectCall) {s : Select}, call.Uses d.toVocabulary → s.Spoken d →
      (call.run driver s).state.Spoken d
  | .table name, s, uses, spoken => by
    apply ofExcept_state spoken
    intro t ok
    unfold Select.setTable at ok
    split at ok
    · next table full =>
      cases ok
      refine { spoken with table := fun _ named => ?_ }
      cases named
      exact uses table full
    · cases ok
  | .columns names, s, uses, spoken => by
    apply ofExcept_state spoken
    intro t ok
    obtain ⟨columns, read, rfl⟩ := Except.map_eq_ok.mp ok
    exact { spoken with columns := Select.fullTexts_names uses read }
  | .distinct, s, _, spoken => { spoken with }
  | .limit count, s, _, spoken => by
    apply ofExcept_state spoken
    intro t ok
    obtain ⟨n, _, rfl⟩ := Except.map_eq_ok.mp ok
    exact { spoken with }
  | .offset count, s, _, spoken => by
    apply ofExcept_state spoken
    intro t ok
    obtain ⟨n, _, rfl⟩ := Except.map_eq_ok.mp ok
    exact { spoken with }
  | .join kind table on, s, uses, spoken => by
    simp only [SelectCall.run]
    cases full : table.fullString? with
    | none => exact spoken
    | some name =>
      exact spoken.addJoin (uses.1 name full) (on.extend_spoken closed driver .join uses.2 nofun)
  | .filter call, s, uses, spoken =>
    { spoken with filter := call.run_spoken closed driver .select uses spoken.filter }
  | .groupBy columns, s, uses, spoken => by
    apply ofExcept_state spoken
    intro t ok
    obtain ⟨names, read, rfl⟩ := Except.map_eq_ok.mp ok
    refine { spoken with groups := fun column member => ?_ }
    rcases List.mem_append.mp member with before | added
    · exact spoken.groups column before
    · exact Select.fullTexts_names uses read column added
  | .having predicate, s, uses, spoken =>
    { spoken with having := predicate.extend_spoken closed driver .having uses spoken.having }
  | .orderBy column order, s, uses, spoken => by
    apply ofExcept_state spoken
    intro t ok
    unfold Select.addOrder at ok
    split at ok
    · cases ok
    · next name full =>
      split at ok
      · cases ok
        refine { spoken with orders := fun order member => ?_ }
        rcases List.mem_append.mp member with before | last
        · exact spoken.orders order before
        · rw [List.mem_singleton.mp last]
          exact uses name full
      · cases ok
  | .union all query, s, uses, spoken => query.addTo_spoken closed driver all uses spoken
  | .attempt call, s, uses, spoken => call.run_spoken closed driver uses spoken
  | .reset, s, _, _ => Select.empty_spoken
  | .logSql, s, _, spoken => by
    simp only [SelectCall.run]
    split <;> exact spoken
  | .logValues, s, _, spoken => spoken
  | .check, s, _, spoken => by
    apply ofExcept_state spoken
    intro t ok
    obtain ⟨_, _, rfl⟩ := Except.map_eq_ok.mp ok
    exact spoken
  | .parse, s, _, spoken => by
    simp only [SelectCall.run, Select.parsed_state]
    exact spoken
  | .idle, s, _, spoken => spoken
  | .property p, s, _, spoken => by
    simp only [SelectCall.run, Select.callProperty_state]
    exact spoken
  | .unknown _, s, _, spoken => spoken
  | .abort _, s, _, spoken => spoken

theorem Subquery.addTo_spoken (closed : d.Closed) (driver : Driver) (all : Bool) :
    ∀ (query : Subquery) {s : Select}, query.Uses d.toVocabulary → s.Spoken d →
      (query.addTo driver all s).state.Spoken d
  | .other _, s, _, spoken => spoken
  | .callback calls, s, uses, spoken => by
    simp only [Subquery.addTo]
    exact spoken.addUnion closed
      (SelectCall.runAll_spoken closed driver calls uses Select.empty_spoken)

theorem SelectCall.runAll_spoken (closed : d.Closed) (driver : Driver) :
    ∀ (calls : List SelectCall) {s : Select}, SelectCall.AllUse d.toVocabulary calls →
      s.Spoken d → (SelectCall.runAll driver calls s).state.Spoken d
  | [], s, _, spoken => by
    simp only [SelectCall.runAll]
    exact spoken
  | call :: rest, s, uses, spoken => by
    have first := call.run_spoken closed driver uses.1 spoken
    simp only [SelectCall.runAll]
    exact andThen_state first (SelectCall.runAll_spoken closed driver rest uses.2 first)

end

end SqlBuilder
