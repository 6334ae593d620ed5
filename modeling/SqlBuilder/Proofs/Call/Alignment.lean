import SqlBuilder.Proofs.Call.Balance
import SqlBuilder.Proofs.Call.Draft

set_option autoImplicit false

namespace SqlBuilder

open Script (ofText)

theorem Script.ofText_append (s t : String) : ofText (s ++ t) = ofText s ++ ofText t := by
  simp [ofText]

theorem Condition.script_operand (v : Value) : (operand v).script = Script.operand v := by
  cases v with
  | ref column => exact Sql.script_literal column.chars
  | _ => exact Sql.script_slot _

namespace Condition

variable {c : Condition}

theorem script_push (t : Token) : (c.push t).sql.script = c.sql.script ++ t.sql.script := by
  rw [sql_push, Sql.script_append]

/-- A comparison writes its own script, behind a pending negation. -/
theorem script_compare (sql : Sql) :
    (c.compare sql).sql.script = c.sql.script ++ c.comparisonScript sql.script := by
  have written : (Token.comparison c.negating sql).sql.script = c.comparisonScript sql.script := by
    cases negating : c.negating with
    | false => simp [Token.sql, comparisonScript, negating, ofText]
    | true => simp [Token.sql, comparisonScript, negating]
  rw [← written]
  exact script_push _

theorem script_toggleGroup :
    c.toggleGroup.sql.script = c.sql.script ++ ofText (if c.depth = 0 then "(" else ")") := by
  unfold toggleGroup
  split
  · rw [openGroup, script_push]
    simp [Token.sql]
  · rw [closeGroup, script_push]
    simp [Token.sql]

theorem script_ofExcept {x : Except Error Condition} {written : Script}
    (appends : ∀ d, x = .ok d → d.sql.script = c.sql.script ++ written) :
    (Outcome.ofExcept c x).state.sql.script =
      c.sql.script ++ if (Outcome.ofExcept c x).succeeded then written else [] := by
  cases x with
  | error e => exact (List.append_nil _).symm
  | ok d => exact appends d rfl

/-- A comparison of the selected column with one operand. -/
theorem script_compareWith {sign : String} {part : Part} {accepts : Value → Bool} {v : Value}
    {d : Condition} (ok : c.compareWith sign part accepts v = .ok d) :
    d.sql.script = c.sql.script ++
      c.comparisonScript (ofText (c.selected ++ " " ++ sign ++ " ") ++ Script.operand v) := by
  obtain ⟨column, named, _, rfl⟩ := compareWith_eq_ok.mp ok
  have column_eq : c.selected = column := by rw [selected, named, Option.getD_some]
  rw [script_compare, column_eq]
  simp [script_operand]

end Condition

theorem Script.joinWith_operands (values : List Value) :
    (Sql.joinWith ", " (values.map fun v => [Condition.operand v])).script =
      joinWith ", " (values.map operand) := by
  rw [Sql.script_joinWith, List.map_map]
  congr 2
  funext v
  simp [Condition.script_operand]

theorem Sql.script_enclosed (opening : String) (sql : Sql) :
    (enclosed opening sql).script =
      Script.ofText opening ++ sql.script ++ Script.ofText ")" := by
  simp [enclosed]

namespace Select

/-- The draft that the clauses of a query show. -/
def draft (s : Select) : Draft where
  joins := s.joins.map fun j => (joinPart j).script
  filter := s.filter.map (·.sql.script)
  having := s.having.map (·.sql.script)
  unions := s.unions.map fun u => (renderUnion u).script
  rows := []

theorem script_joinPart {j : Join} (spoken : j.condition.Spoken balanced) :
    (joinPart j).script =
      ofText (j.kind.keyword ++ " JOIN " ++ j.table ++ " ON ") ++ j.condition.sql.script.trim := by
  rw [joinPart, Sql.script_cons, Sql.script_literal, Sql.script_trim spoken.balanced]

theorem script_conditionParts {keyword : String} {f : Option Condition}
    (spoken : ∀ c, f = some c → c.Spoken balanced) :
    (f.toList.map (conditionPart keyword)).map Sql.script =
      Draft.clause keyword (f.map (·.sql.script)) := by
  cases f with
  | none => rfl
  | some c =>
    simp [Draft.clause, conditionPart, Sql.script_trim (spoken c rfl).balanced]

/-- A query that renders is its draft, the clauses in their order. -/
theorem script_of_render {s : Select} {sql : Sql} (spoken : s.Spoken balanced)
    (rendered : s.render = .ok sql) : sql.script = s.script s.draft := by
  obtain ⟨table, named, _, rfl⟩ := render_of_ok rendered
  have head : (s.head table).script = ofText ("SELECT " ++
      (if s.distinct then "DISTINCT " else "") ++ columnList s.columns ++ " FROM " ++
      s.table.getD "") := by
    rw [named, Option.getD_some, Select.head, Sql.script_ofText]
  have groups : s.groupClause.map Sql.script =
      if s.groups.isEmpty then [] else [ofText ("GROUP BY " ++ ", ".intercalate s.groups)] := by
    unfold groupClause
    split
    · rfl
    · rw [List.map_singleton, Sql.script_ofText]
  have orders : s.orderClause.map Sql.script =
      if s.orders.isEmpty then []
      else [ofText ("ORDER BY " ++ ", ".intercalate (s.orders.map fun order =>
        order.1 ++ " " ++ order.2.spelling))] := by
    unfold orderClause
    split
    · rfl
    · rw [List.map_singleton, Sql.script_ofText]
  have counts : ∀ (keyword : String) (n : Option Nat),
      (n.toList.map (countPart keyword)).map Sql.script =
        n.toList.map fun n => ofText (keyword ++ " " ++ toString n) := by
    intro keyword n
    rw [List.map_map]
    exact List.map_congr_left fun k _ => Sql.script_ofText _
  rw [Sql.script_joinWith, parts, Select.script]
  simp only [List.cons_append, List.map_cons, List.map_append, head, groups, orders, counts,
    script_conditionParts spoken.filter, script_conditionParts spoken.having, List.nil_append]
  simp only [draft, List.map_map]
  rfl

end Select

/-- A callback on a clause writes its script there, and a new clause needs its success. -/
theorem settle_draft {before : Option Condition} {o : Outcome Condition} {written : Script}
    (wrote : o.state.sql.script = (before.getD .blank).sql.script ++ written) :
    (settle before o).state.map (·.sql.script) =
      Draft.extend before (settle before o).succeeded (before.map (·.sql.script)) written := by
  cases before with
  | some b => exact congrArg some wrote
  | none =>
    cases failed : o.failure with
    | some e => simp [settle, Outcome.commit, Outcome.succeeded, failed, Draft.extend]
    | none =>
      simp only [settle, Outcome.commit, Outcome.succeeded, failed, Option.isNone_none, ↓reduceIte,
        Option.map_some, Draft.extend]
      exact congrArg some wrote

mutual

theorem ConditionCall.run_script (o : Owner) :
    ∀ (call : ConditionCall) {c : Condition}, call.Uses unmarked → c.Spoken balanced →
      (call.run o c).state.sql.script = c.sql.script ++ call.script o c
  | .col name, c, _, _ => by
    simp only [ConditionCall.run, ConditionCall.script]
    apply Condition.script_ofExcept
    intro d ok
    obtain ⟨s, _, rfl⟩ := Condition.select_eq_ok.mp ok
    exact (List.append_nil _).symm
  | .raw fragment values, c, _, _ => by
    simp only [ConditionCall.run, ConditionCall.script]
    apply Condition.script_ofExcept
    intro d ok
    obtain ⟨text, full, _, rfl⟩ := Condition.addRaw_eq_ok.mp ok
    rw [Condition.script_push, Condition.fragmentScript, full]
    exact congrArg _ (List.append_nil _)
  | .negate, c, _, _ => (List.append_nil _).symm
  | .openGroup, c, _, _ => Condition.script_push .opening
  | .closeGroup, c, _, _ => Condition.script_push .closing
  | .toggleGroup, c, _, _ => Condition.script_toggleGroup
  | .connect w, c, _, _ => by
    simp only [ConditionCall.run, ConditionCall.script]
    exact (Condition.script_push _).trans (by simp [Token.sql, Outcome.done, Outcome.succeeded,
      Condition.fragmentScript])
  | .compare s v, c, _, _ => by
    simp only [ConditionCall.run, ConditionCall.script]
    exact Condition.script_ofExcept fun d ok => Condition.script_compareWith ok
  | .like v, c, _, _ => by
    simp only [ConditionCall.run, ConditionCall.script]
    apply Condition.script_ofExcept
    intro d ok
    have spelling : c.selected ++ " " ++ "LIKE" ++ " " = c.selected ++ " LIKE " := by
      rw [String.append_assoc, String.append_assoc]
      rfl
    rw [Condition.script_compareWith ok, spelling, Condition.fragmentScript]
  | .between low high, c, _, _ => by
    simp only [ConditionCall.run, ConditionCall.script]
    apply Condition.script_ofExcept
    intro d ok
    obtain ⟨column, named, _, _, rfl⟩ := Condition.between_eq_ok.mp ok
    rw [Condition.script_compare, Condition.fragmentScript, Condition.selected, named]
    simp [Condition.script_operand]
  | .oneOf values, c, _, _ => by
    simp only [ConditionCall.run, ConditionCall.script]
    apply Condition.script_ofExcept
    intro d ok
    obtain ⟨column, named, _, _, rfl⟩ := Condition.oneOf_eq_ok.mp ok
    rw [Condition.script_compare, Condition.fragmentScript, Condition.selected, named]
    simp [Script.joinWith_operands]
  | .isNull, c, _, _ => by
    simp only [ConditionCall.run, ConditionCall.script]
    apply Condition.script_ofExcept
    intro d ok
    obtain ⟨column, named, rfl⟩ := Condition.isNull_eq_ok.mp ok
    rw [Condition.script_compare, Condition.fragmentScript, Condition.selected, named]
    simp
  | .inPart part v, c, _, _ => by
    have runs : (ConditionCall.inPart part v).run o c = c.runPart o part v := by
      rw [ConditionCall.run]
    simp only [ConditionCall.script, runs]
    rcases Condition.runPart_eq c o part v with
      ⟨column, kind, named, _, resolved, ran⟩ | ⟨e, ran⟩
    · rw [ran]
      simp only [Condition.comparePart, Condition.script_compare, Outcome.succeeded,
        Option.isNone_none, ↓reduceIte, Condition.fragmentScript, resolved, Condition.selected,
        named, Option.getD_some, Script.ofText_append]
      simp [Condition.script_operand]
    · rw [ran]
      exact (List.append_nil _).symm
  | .inSubquery query, c, uses, spoken => by
    cases named : c.column with
    | none => simp [ConditionCall.run, ConditionCall.script, named, Outcome.fail, Outcome.succeeded]
    | some column =>
      have ran : (ConditionCall.inSubquery query).run o c =
          query.compareIn o c (Sql.enclosed (column ++ " IN (")) := by
        simp only [ConditionCall.run, named]
      rw [ConditionCall.script, ran, Condition.selected, named]
      exact query.compareIn_script o uses spoken
  | .existsIn query, c, uses, spoken => by
    rw [ConditionCall.script, ConditionCall.run]
    exact query.compareIn_script o uses spoken
  | .quantified quantifier operator query, c, uses, spoken => by
    cases named : c.column with
    | none => simp [ConditionCall.run, ConditionCall.script, named, Outcome.fail, Outcome.succeeded]
    | some column =>
      by_cases sign : ∃ s, operator = .text (.operator s)
      · obtain ⟨s, rfl⟩ := sign
        have ran : (ConditionCall.quantified quantifier (.text (.operator s)) query).run o c =
            query.compareIn o c (Sql.enclosed
              (column ++ " " ++ s.spelling ++ " " ++ quantifier.keyword ++ " (")) := by
          simp only [ConditionCall.run, named]
        rw [ConditionCall.script, ran, Condition.selected, named]
        exact query.compareIn_script o uses spoken
      · have ran : (ConditionCall.quantified quantifier operator query).run o c =
            .fail (.invalid .operator operator) c := by
          simp only [ConditionCall.run, named]
          split
          · next s => exact absurd ⟨s, rfl⟩ sign
          · rfl
        rw [ConditionCall.script, ran]
        exact (List.append_nil _).symm
  | .apply predicate, c, uses, spoken => by
    rw [ConditionCall.script, ConditionCall.run]
    exact predicate.apply_script o uses spoken
  | .attempt call, c, uses, spoken => by
    rw [ConditionCall.script]
    exact call.run_script o uses spoken
  | .check, c, _, _ => by
    simp only [ConditionCall.run, ConditionCall.script]
    apply Condition.script_ofExcept
    intro d ok
    obtain ⟨_, _, rfl⟩ := Except.map_eq_ok.mp ok
    exact (List.append_nil _).symm
  | .values, c, _, _ => (List.append_nil _).symm
  | .unknown _, c, _, _ => (List.append_nil _).symm
  | .abort _ _, c, _, _ => (List.append_nil _).symm

theorem ConditionCall.runAll_script (o : Owner) :
    ∀ (calls : List ConditionCall) {held : Bool} {c : Condition},
      ConditionCall.AllUse unmarked calls → c.Spoken balanced →
      (ConditionCall.runAll o held calls c).state.sql.script =
        c.sql.script ++ ConditionCall.scriptAll o held calls c
  | [], held, c, _, _ => by
    simp only [ConditionCall.runAll, ConditionCall.scriptAll, List.append_nil]
    rfl
  | call :: rest, held, c, uses, spoken => by
    have first := call.run_script o uses.1 spoken
    have kept := call.run_spoken balanced_closed o uses.1 spoken
    rw [ConditionCall.runAll, ConditionCall.scriptAll]
    split
    · cases failed : (call.run o c).failure with
      | some e =>
        rw [Outcome.andThen_of_failure _ _ e failed, first]
        simp [Outcome.succeeded, failed]
      | none =>
        rw [(Outcome.andThen_of_success _ _ failed).1,
          ConditionCall.runAll_script o rest uses.2 kept, first]
        simp [Outcome.succeeded, failed]
    · exact (List.append_nil _).symm

theorem Predicate.apply_script (o : Owner) :
    ∀ (predicate : Predicate) {c : Condition}, predicate.Uses unmarked → c.Spoken balanced →
      (predicate.apply o c).state.sql.script = c.sql.script ++ predicate.script o c
  | .callback _ calls, c, uses, spoken => by
    rw [Predicate.apply, Predicate.script]
    exact ConditionCall.runAll_script o calls uses spoken
  | .other _, c, _, _ => (List.append_nil _).symm

theorem Predicate.extend_draft (driver : Driver) (clause : Clause) :
    ∀ (predicate : Predicate) {f : Option Condition}, predicate.Uses unmarked →
      (∀ c, f = some c → c.Spoken balanced) →
      (predicate.extend driver clause f).state.map (·.sql.script) =
        Draft.extend f (predicate.extend driver clause f).succeeded (f.map (·.sql.script))
          (predicate.script ⟨driver, none⟩ (f.getD .blank))
  | .callback _ calls, f, uses, spoken => by
    rw [Predicate.extend, Predicate.script]
    exact settle_draft (ConditionCall.runAll_script ⟨driver, none⟩ calls uses
      (Condition.Spoken.getD spoken))
  | .other _, none, _, _ => rfl
  | .other _, some c, _, _ => congrArg some (List.append_nil _).symm

theorem Subquery.compareIn_script (o : Owner) :
    ∀ (query : Subquery) {c : Condition} {opening : String}, query.Uses unmarked →
      c.Spoken balanced →
      (query.compareIn o c (Sql.enclosed opening)).state.sql.script = c.sql.script ++
        if (query.compareIn o c (Sql.enclosed opening)).succeeded then
          c.comparisonScript (ofText opening ++ query.script o.driver ++ ofText ")")
        else []
  | .other _, c, _, _, _ => (List.append_nil _).symm
  | .callback calls, c, opening, uses, _ => by
    rw [Subquery.compareIn]
    split
    · exact (List.append_nil _).symm
    · rcases Condition.embed_eq c (Sql.enclosed opening)
          (SelectCall.runAll o.driver calls .empty) with
        ⟨sql, _, rendered, ran⟩ | ⟨e, ran⟩
      · have spoken := SelectCall.runAll_spoken balanced_closed o.driver calls uses
          Select.empty_spoken
        have inside : sql.script = (Subquery.callback calls).script o.driver := by
          rw [Select.script_of_render spoken rendered, Subquery.script,
            SelectCall.runAll_draft o.driver calls uses Select.empty_spoken]
          rfl
        rw [ran, Condition.script_compare, Sql.script_enclosed, inside]
        rfl
      · rw [ran]
        exact (List.append_nil _).symm

theorem FilterCall.run_draft (driver : Driver) (kind : StatementKind) :
    ∀ (call : FilterCall) {f : Option Condition}, call.Uses unmarked →
      (∀ c, f = some c → c.Spoken balanced) →
      (call.run driver kind f).state.map (·.sql.script) =
        call.draft driver kind f (f.map (·.sql.script))
  | .extend predicate, f, uses, spoken => by
    rw [FilterCall.run, FilterCall.draft]
    exact predicate.extend_draft driver _ uses spoken
  | .connect w, none, _, _ => rfl
  | .connect w, some b, _, _ => by
    refine congrArg some ((Condition.script_push _).trans ?_)
    simp [Token.sql]
  | .openGroup, f, _, _ => by
    refine congrArg some ((Condition.script_push _).trans ?_)
    cases f <;> simp [Token.sql, Condition.blank, Condition.sql]
  | .closeGroup, none, _, _ => rfl
  | .closeGroup, some b, _, _ => by
    refine congrArg some ((Condition.script_push _).trans ?_)
    simp [Token.sql]
  | .toggleGroup, f, _, _ => by
    refine congrArg some (Condition.script_toggleGroup.trans ?_)
    cases f <;> rfl

theorem SelectCall.run_draft (driver : Driver) :
    ∀ (call : SelectCall) {s : Select}, call.Uses unmarked → s.Spoken balanced →
      (call.run driver s).state.draft = call.draft driver s s.draft
  | .table name, s, _, _ => by
    simp only [SelectCall.run, SelectCall.draft, Select.setTable]
    split <;> rfl
  | .columns names, s, _, _ => by
    simp only [SelectCall.run, SelectCall.draft, Select.setColumns]
    cases Select.fullTexts .selectColumn names <;> rfl
  | .distinct, s, _, _ => rfl
  | .limit count, s, _, _ => by
    simp only [SelectCall.run, SelectCall.draft, Select.setLimit]
    cases Select.natural .limit count <;> rfl
  | .offset count, s, _, _ => by
    simp only [SelectCall.run, SelectCall.draft, Select.setOffset]
    cases Select.natural .offset count <;> rfl
  | .join kind table on, s, uses, spoken => by
    cases full : table.fullString? with
    | none =>
      simp [SelectCall.run, SelectCall.draft, full, Outcome.fail, Outcome.succeeded]
    | some name =>
      have ran : (SelectCall.join kind table on).run driver s =
          s.addJoin kind name (on.extend driver .join none) := by
        simp only [SelectCall.run, full]
      have written := on.extend_draft driver .join uses.2 (f := none) nofun
      rw [SelectCall.draft, ran, full, Option.getD_some, Select.addJoin]
      cases failed : (on.extend driver .join none).failure with
      | some e => simp [Outcome.commit, Outcome.succeeded, failed]
      | none =>
        simp only [Outcome.succeeded, failed, Option.isNone_none, Draft.extend, ↓reduceIte]
          at written
        obtain ⟨b, extended, script⟩ := Option.map_eq_some_iff.mp written
        have kept := on.extend_spoken balanced_closed driver .join uses.2 (f := none) nofun b
          extended
        have part : (Select.joinPart ⟨kind, name, b⟩).script =
            ofText (kind.keyword ++ " JOIN " ++ name ++ " ON ") ++
              (on.script ⟨driver, none⟩ .blank).trim := by
          rw [Select.script_joinPart kept, script]
          rfl
        simp only [Outcome.commit, Outcome.succeeded, failed, Option.isNone_none, ↓reduceIte,
          extended, Option.getD_some, ← part]
        simp [Select.draft]
  | .filter call, s, uses, spoken => by
    rw [SelectCall.run, SelectCall.draft]
    exact congrArg (fun f => { s.draft with filter := f })
      (call.run_draft driver .select uses spoken.filter)
  | .groupBy columns, s, _, _ => by
    simp only [SelectCall.run, SelectCall.draft, Select.addGroups]
    cases Select.fullTexts .groupColumn columns <;> rfl
  | .having predicate, s, uses, spoken => by
    rw [SelectCall.run, SelectCall.draft]
    exact congrArg (fun f => { s.draft with having := f })
      (predicate.extend_draft driver .having uses spoken.having)
  | .orderBy column order, s, _, _ => by
    simp only [SelectCall.run, SelectCall.draft, Select.addOrder]
    split
    · rfl
    · split <;> rfl
  | .union all query, s, uses, spoken => by
    rw [SelectCall.draft, SelectCall.run]
    exact query.addTo_draft driver all uses
  | .attempt call, s, uses, spoken => by
    rw [SelectCall.draft]
    exact call.run_draft driver uses spoken
  | .reset, s, _, _ => rfl
  | .logSql, s, _, _ => by
    simp only [SelectCall.run, SelectCall.draft]
    split <;> rfl
  | .logValues, s, _, _ => rfl
  | .check, s, _, _ => by
    simp only [SelectCall.run, SelectCall.draft]
    cases s.toSql <;> rfl
  | .parse, s, _, _ => by
    simp only [SelectCall.run, SelectCall.draft, Select.parsed_state]
  | .idle, s, _, _ => rfl
  | .property p, s, _, _ => by
    simp only [SelectCall.run, SelectCall.draft, Select.callProperty_state]
  | .unknown _, s, _, _ => rfl
  | .abort _, s, _, _ => rfl

theorem Subquery.addTo_draft (driver : Driver) (all : Bool) :
    ∀ (query : Subquery) {s : Select}, query.Uses unmarked →
      (query.addTo driver all s).state.draft =
        if (query.addTo driver all s).succeeded then
          { s.draft with unions := s.draft.unions ++
            [ofText (if all then "UNION ALL " else "UNION ") ++ query.script driver] }
        else s.draft
  | .other _, s, _ => rfl
  | .callback calls, s, uses => by
    rw [Subquery.addTo]
    rcases Select.addUnion_eq s all
        (SelectCall.runAll driver calls .empty) with
      ⟨sql, _, rendered, ran⟩ | ⟨e, ran⟩
    · have spoken := SelectCall.runAll_spoken balanced_closed driver calls uses
        Select.empty_spoken
      have inside : sql.script = (Subquery.callback calls).script driver := by
        rw [Select.script_of_render spoken rendered, Subquery.script,
          SelectCall.runAll_draft driver calls uses Select.empty_spoken]
        rfl
      rw [ran, ← inside]
      simp [Select.draft, Outcome.succeeded, Select.renderUnion]
    · rw [ran]
      rfl

theorem SelectCall.runAll_draft (driver : Driver) :
    ∀ (calls : List SelectCall) {s : Select}, SelectCall.AllUse unmarked calls →
      s.Spoken balanced →
      (SelectCall.runAll driver calls s).state.draft = SelectCall.draftAll driver calls s s.draft
  | [], s, _, _ => by
    simp only [SelectCall.runAll, SelectCall.draftAll]
    rfl
  | call :: rest, s, uses, spoken => by
    have first := call.run_draft driver uses.1 spoken
    have kept := call.run_spoken balanced_closed driver uses.1 spoken
    rw [SelectCall.runAll, SelectCall.draftAll, ← first]
    cases failed : (call.run driver s).failure with
    | some e =>
      rw [Outcome.andThen_of_failure _ _ e failed]
      simp [Outcome.succeeded, failed]
    | none =>
      rw [(Outcome.andThen_of_success _ _ failed).1,
        SelectCall.runAll_draft driver rest uses.2 kept]
      simp [Outcome.succeeded, failed]

end

end SqlBuilder
