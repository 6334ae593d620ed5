import SqlBuilder.Proofs.Call.Diction
import SqlBuilder.Proofs.Condition.Verdict
import SqlBuilder.Proofs.Select.Rendering
import SqlBuilder.Proofs.Sql.Plain

set_option autoImplicit false

namespace SqlBuilder

/-- A comparison that keeps its marks to itself, and holds none unless it embeds a query. -/
structure Sql.Calm (sql : Sql) : Prop where
  harmless : Harmless sql.text none none
  level : net sql.text.toList = 0
  starts : Starts sql.text
  finishes : Finishes sql.text
  /-- An open group before the end of the comparison or before `ORDER BY` is that of a query. -/
  plain : Still sql.text none none ∨ ∃ opening query, sql = Sql.enclosed opening query ∧
    (Mark.opening.meet .closing sql.text.toList = true ∨
      Mark.opening.meet .order sql.text.toList = true → Dips query.text)

/-- A part of a query that opens with a mark or with none. -/
def Sql.Fitting (opens : Option Mark) (sql : Sql) : Prop := ∃ pends, Portion sql.text opens pends

def calm : Diction where
  toVocabulary := identifiers
  comparison := Sql.Calm
  query := Sql.Fitting none

namespace Sql

theorem Calm.of_still {sql : Sql} (still : Still sql.text none none)
    (level : net sql.text.toList = 0) (starts : Starts sql.text) (finishes : Finishes sql.text) :
    sql.Calm :=
  ⟨still.harmless, level, starts, finishes, .inl still⟩

/-- A comparison that ends with an operand. -/
theorem Calm.operand {pends : Option Mark} (front : Sql) (still : Still front.text none pends)
    (level : net front.text.toList = 0) (starts : Starts front.text) {v : Value}
    (cites : v.Cites identifiers) : Calm (front ++ [Condition.operand v]) := by
  have last := Condition.plain_operand cites
  have spelled : text (front ++ [Condition.operand v]) =
      front.text ++ (Condition.operand v).text := by simp
  apply Calm.of_still
  · rw [spelled]
    exact still.append last.still (.inr rfl)
  · rw [spelled, String.toList_append, net_append, level, last.net_eq_zero]
    rfl
  · rw [spelled]
    exact starts.append _
  · rw [spelled]
    exact last.finishes.append _

theorem Calm.literal_operand {front : String} (lead : Lead front) {v : Value}
    (cites : v.Cites identifiers) : Calm [.literal front, Condition.operand v] := by
  have spelled : text [.literal front] = front := by simp [Piece.text]
  have written : Lead (text [.literal front]) := by rwa [spelled]
  exact .operand [.literal front] written.still written.net_eq_zero written.starts cites

/-- Parts without marks, with a separator without marks between them. -/
theorem silent_joinWith {separator : String} {parts : List Sql} (plain : Silent separator)
    (each : ∀ part ∈ parts, Silent part.text) : Silent (joinWith separator parts).text := by
  rw [text_joinWith]
  apply Silent.intercalate plain
  intro written member
  obtain ⟨part, given, rfl⟩ := List.mem_map.mp member
  exact each part given

theorem starts_joinWith {separator : String} {part : Sql} {rest : List Sql}
    (starts : Starts part.text) : Starts (joinWith separator (part :: rest)).text := by
  rw [text_joinWith, List.map_cons]
  exact starts.intercalate

theorem text_enclosed (opening : String) (sql : Sql) :
    (enclosed opening sql).text = opening ++ (sql.text ++ ")") := by
  simp [enclosed, Piece.text]

theorem text_group (word : String) (sql : Sql) :
    (enclosed (word ++ "(") sql).text = word ++ "(" ++ sql.text ++ ")" := by
  rw [text_enclosed, ← String.append_assoc]

/-- A query between parentheses is harmless, though it may leave a group open at its end. -/
theorem Calm.enclosed {word : String} {query : Sql} (lead : Lead word)
    (fitting : query.Fitting none) : Calm (Sql.enclosed (word ++ "(") query) := by
  obtain ⟨pends, inside⟩ := fitting
  have opened := lead.still.append .opening (.inl rfl)
  have filled := opened.harmless.append inside.toHarmless rfl
  have apart : mild pends (some .closing) = true := by rcases inside.pending with rfl | rfl <;> rfl
  have closed := filled.append Still.closing.harmless apart
  have spelled := text_group word query
  have found : ∀ two, Mark.opening.meet two (word ++ "(" ++ query.text ++ ")").toList =
      (Mark.opening.meet two query.text.toList ||
        (pends = some .opening && Mark.closing.reads two)) := fun two => by
    rw [filled.toReads.meet_append Still.closing.toReads _ _ rfl,
      opened.toReads.meet_append inside.toReads _ _ rfl, opened.empty _ _ rfl,
      Still.closing.empty _ _ rfl]
    simp
  refine ⟨?_, ?_, ?_, ?_, .inr ⟨_, _, rfl, ?_⟩⟩
  · rw [spelled]
    exact closed.of_closing
  · simp only [spelled, String.toList_append, net_append, lead.net_eq_zero, inside.level]
    rfl
  · rw [spelled]
    exact ((lead.starts.append _).append _).append _
  · rw [spelled]
    exact finishes_closing.append _
  · rw [spelled, found, found]
    intro loose
    apply inside.dips
    simp only [Bool.or_eq_true, Bool.and_eq_true, decide_eq_true_eq] at loose
    rcases loose with (met | ⟨same, _⟩) | (met | ⟨same, _⟩)
    · exact .inr (.inl met)
    · exact .inl same
    · exact .inr (.inr met)
    · exact .inl same

end Sql

theorem Token.Spoken.legible {t : Token} (spoken : t.Spoken calm) : t.Legible := by
  cases t with
  | comparison negated sql =>
    exact legible_comparison negated spoken.harmless spoken.level spoken.starts spoken.finishes
  | raw text values => exact absurd spoken id
  | connective c => exact legible_connective c
  | opening => exact legible_opening
  | closing => exact legible_closing

theorem Condition.Spoken.legible {c : Condition} (spoken : c.Spoken calm) :
    ∀ t ∈ c.tokens, t.Legible :=
  fun t token => (spoken.tokens t token).legible

namespace Sql

theorem Fitting.of_lead {sql : Sql} (lead : Lead sql.text) : Fitting none sql :=
  ⟨none, lead.portion⟩

/-- Only `ORDER BY` comes behind a part with its mark in front, and it may follow an open group. -/
theorem Fitting.joinWith {part : Sql} {rest : List Sql} {opens : Option Mark}
    (first : part.Fitting opens)
    (others : ∀ other ∈ rest, other.Fitting none ∨ other.Fitting (some .order)) :
    (joinWith " " (part :: rest)).Fitting opens := by
  induction rest generalizing part opens with
  | nil => exact first
  | cons next rest ih =>
    obtain ⟨pends, here⟩ := first
    have later := fun other member => others other (List.mem_cons_of_mem next member)
    have tail : ∃ seen,
        (Sql.joinWith " " (next :: rest)).Fitting seen ∧ mild pends seen = true := by
      rcases others next List.mem_cons_self with plain | ordered
      · exact ⟨none, ih plain later, by rcases here.pending with rfl | rfl <;> rfl⟩
      · exact ⟨some .order, ih ordered later, by rcases here.pending with rfl | rfl <;> rfl⟩
    obtain ⟨seen, ⟨pends', behind⟩, apart⟩ := tail
    refine ⟨pends', ?_⟩
    rw [Sql.joinWith_cons_cons, text_append, text_cons]
    exact here.append behind.space apart

end Sql

namespace Select

theorem fitting_head {s : Select} (spoken : s.Spoken calm) {table : String}
    (named : s.table = some table) : (s.head table).Fitting none := by
  have columns : Silent (columnList s.columns) := by
    unfold columnList
    split
    · rfl
    · exact .intercalate rfl fun column given => (plain_name (spoken.columns column given)).silent
  have source : Silent table := (plain_name (spoken.table table named)).silent
  have distinct : Silent (if s.distinct then "DISTINCT " else "") := by split <;> rfl
  have word : Lead "SELECT " := ⟨rfl, _, _, rfl, rfl⟩
  have origin : Silent " FROM " := rfl
  apply Sql.Fitting.of_lead
  rw [text_head]
  exact (((word.append distinct).append columns).append origin).append source

/-- A clause that ends with a condition leaves pending what the condition does. -/
theorem fitting_condition {front : String} {c : Condition} (lead : Lead front)
    (spoken : c.Spoken calm) (faultless : c.fault? = none) :
    Sql.Fitting none (.literal front :: c.sql.trim) := by
  obtain ⟨opens, pends, portion⟩ := Condition.portion_text spoken.legible faultless
  refine ⟨pends, ?_⟩
  rw [Condition.text_clause]
  exact lead.portion.append portion rfl

theorem fitting_joinPart {j : Join} (named : identifiers.name j.table)
    (spoken : j.condition.Spoken calm) (faultless : j.condition.fault? = none) :
    (joinPart j).Fitting none := by
  have word : Lead (j.kind.keyword ++ " JOIN ") := by
    cases j.kind <;> exact ⟨rfl, _, _, rfl, rfl⟩
  have condition : Silent " ON " := rfl
  have lead := (word.append (plain_name named).silent).append condition
  exact fitting_condition lead spoken faultless

theorem fitting_countPart {keyword : String} (n : Nat) (lead : Lead keyword) :
    (countPart keyword n).Fitting none := by
  have gap : Silent " " := rfl
  apply Sql.Fitting.of_lead
  rw [text_countPart]
  exact (lead.append gap).append (silent_toString n)

theorem fitting_groupClause {s : Select} (spoken : s.Spoken calm) :
    ∀ part ∈ s.groupClause, part.Fitting none := by
  unfold groupClause
  split
  · nofun
  · intro part member
    rw [List.mem_singleton.mp member]
    have columns : Silent (", ".intercalate s.groups) :=
      .intercalate rfl fun column given => (plain_name (spoken.groups column given)).silent
    have word : Lead "GROUP BY " := ⟨rfl, _, _, rfl, rfl⟩
    apply Sql.Fitting.of_lead
    rw [Sql.text_ofText]
    exact word.append columns

theorem fitting_orderClause {s : Select} (spoken : s.Spoken calm) :
    ∀ part ∈ s.orderClause, part.Fitting (some .order) := by
  have silent : ∀ order ∈ s.orders, Silent (order.1 ++ " " ++ order.2.spelling) := by
    intro order given
    have gap : Silent " " := rfl
    have direction : Silent order.2.spelling := by cases order.2 <;> rfl
    exact ((plain_name (spoken.orders order given)).silent.append gap).append direction
  have starts : ∀ order ∈ s.orders, Starts (order.1 ++ " " ++ order.2.spelling) := by
    intro order given
    exact ((plain_name (spoken.orders order given)).starts.append _).append _
  revert silent starts
  unfold orderClause
  cases s.orders with
  | nil => nofun
  | cons order rest =>
    intro silent starts part member
    rw [List.mem_singleton.mp member]
    have terms : Portion (", ".intercalate ((order :: rest).map fun order =>
        order.1 ++ " " ++ order.2.spelling)) none none := by
      apply Portion.silent
      · refine Silent.intercalate rfl fun term given => ?_
        obtain ⟨other, listed, rfl⟩ := List.mem_map.mp given
        exact silent other listed
      · exact (starts order List.mem_cons_self).intercalate
    refine ⟨none, ?_⟩
    rw [Sql.text_ofText]
    exact Portion.orderBy.append terms rfl

theorem fitting_renderUnion {u : Union} (spoken : u.query.Fitting none) :
    (renderUnion u).Fitting none := by
  obtain ⟨pends, portion⟩ := spoken
  have word : Lead (if u.all then "UNION ALL " else "UNION ") := by
    split <;> exact ⟨rfl, _, _, rfl, rfl⟩
  refine ⟨pends, ?_⟩
  rw [renderUnion, Sql.text_cons]
  exact word.portion.append portion rfl

theorem fitting_parts {s : Select} (spoken : s.Spoken calm) (faultless : s.Faultless)
    (table : String) :
    ∀ part ∈ (s.parts table).tail, part.Fitting none ∨ part.Fitting (some .order) :=
  forall_parts
    (fun j given => .inl (fitting_joinPart (spoken.joins j given).1 (spoken.joins j given).2
      (faultless.joins j given)))
    (fun c given => .inl (fitting_condition ⟨rfl, _, _, rfl, rfl⟩ (spoken.filter c given)
      (faultless.filter c given)))
    (fun part member => .inl (fitting_groupClause spoken part member))
    (fun c given => .inl (fitting_condition ⟨rfl, _, _, rfl, rfl⟩ (spoken.having c given)
      (faultless.having c given)))
    (fun part member => .inr (fitting_orderClause spoken part member))
    (fun n => .inl (fitting_countPart n ⟨rfl, _, _, rfl, rfl⟩))
    (fun n => .inl (fitting_countPart n ⟨rfl, _, _, rfl, rfl⟩))
    (fun u given => .inl (fitting_renderUnion (spoken.unions u given)))

theorem fitting_of_render {s : Select} {sql : Sql} (spoken : s.Spoken calm)
    (rendered : s.render = .ok sql) : sql.Fitting none := by
  obtain ⟨table, named, faultless, rfl⟩ := render_of_ok rendered
  rw [parts_eq]
  exact (fitting_head spoken named).joinWith (fitting_parts spoken faultless table)

end Select

section

variable {column : String} (named : identifiers.name column)

include named

theorem calm_between {low high : Value} (below : low.Cites identifiers)
    (above : high.Cites identifiers) :
    Sql.Calm [.literal (column ++ " BETWEEN "), Condition.operand low, .literal " AND ",
      Condition.operand high] := by
  have plain := plain_name named
  have word : Silent " BETWEEN " := rfl
  have least := Condition.plain_operand below
  have range : Lead (column ++ " BETWEEN " ++ (Condition.operand low).text) :=
    (plain.toLead.append word).append least.silent
  have spelled : Sql.text [.literal (column ++ " BETWEEN "), Condition.operand low,
      .literal " AND "] = column ++ " BETWEEN " ++ (Condition.operand low).text ++ " AND " := by
    simp [Piece.text, String.append_assoc]
  have still : Still (Sql.text [.literal (column ++ " BETWEEN "), Condition.operand low,
      .literal " AND "]) none (some (.connective .and)) := by
    rw [spelled]
    exact range.still.append (.connective .and) (.inl rfl)
  have level : net (Sql.text [.literal (column ++ " BETWEEN "), Condition.operand low,
      .literal " AND "]).toList = 0 := by
    rw [spelled, String.toList_append, net_append, range.net_eq_zero]
    rfl
  apply Sql.Calm.operand [.literal (column ++ " BETWEEN "), Condition.operand low,
    .literal " AND "] still level _ above
  rw [spelled]
  exact range.starts.append _

theorem calm_oneOf {values : List Value} (given : values ≠ [])
    (cites : ∀ v ∈ values, v.Cites identifiers) :
    Sql.Calm (.literal (column ++ " IN (") ::
      Sql.joinWith ", " (values.map fun v => [Condition.operand v]) ++ [.literal ")"]) := by
  have word : Silent " IN " := rfl
  have lead := (plain_name named).toLead.append word
  obtain ⟨v, rest, rfl⟩ := List.exists_cons_of_ne_nil given
  have each : ∀ u ∈ v :: rest, Plain (Sql.text [Condition.operand u]) := by
    intro u member
    rw [Sql.text_cons, Sql.text_nil, String.append_empty]
    exact Condition.plain_operand (cites u member)
  have listed : Silent (Sql.joinWith ", " ((v :: rest).map fun u =>
      [Condition.operand u])).text := by
    refine Sql.silent_joinWith rfl fun part member => ?_
    obtain ⟨u, given, rfl⟩ := List.mem_map.mp member
    exact (each u given).silent
  have first : Starts (Sql.joinWith ", " ((v :: rest).map fun u =>
      [Condition.operand u])).text :=
    Sql.starts_joinWith (each v List.mem_cons_self).starts
  have spelled : Sql.text (.literal (column ++ " IN (") ::
      Sql.joinWith ", " ((v :: rest).map fun u => [Condition.operand u]) ++ [.literal ")"]) =
      (column ++ " IN ") ++ "(" ++
        (Sql.joinWith ", " ((v :: rest).map fun u => [Condition.operand u])).text ++ ")" := by
    have opened : (" IN (" : String) = " IN " ++ "(" := rfl
    simp [Piece.text, opened, String.append_assoc]
  apply Sql.Calm.of_still
  · rw [spelled]
    exact still_group lead listed first.exists_solid
  · rw [spelled]
    exact net_group lead listed
  · rw [spelled]
    exact ((lead.starts.append _).append _).append _
  · rw [spelled]
    exact finishes_closing.append _

theorem calm_isNull : Sql.Calm [.literal (column ++ " IS NULL")] := by
  have word : Silent " IS NULL" := rfl
  have lead := (plain_name named).toLead.append word
  have finishes : Finishes " IS NULL" := ⟨" IS NUL".toList, 'L', rfl, rfl, by decide, by decide⟩
  have spelled : Sql.text [.literal (column ++ " IS NULL")] = column ++ " IS NULL" := by
    simp [Piece.text]
  apply Sql.Calm.of_still
  · rw [spelled]
    exact lead.still
  · rw [spelled]
    exact lead.net_eq_zero
  · rw [spelled]
    exact lead.starts
  · rw [spelled]
    exact finishes.append _

theorem calm_part (kind : DriverKind) (part : DatePart) {v : Value}
    (cites : v.Cites identifiers) :
    Sql.Calm [.extract kind part column, .literal " = ", Condition.operand v] := by
  have sign : Still " = " none none := .silent rfl ⟨'=', by decide, rfl⟩
  have spelled : Sql.text [.extract kind part column, .literal " = "] =
      kind.extract part column ++ " = " := by
    simp [Piece.text]
  obtain ⟨extracted, even, starts⟩ := kind.still_extract part named
  have still : Still (Sql.text [.extract kind part column, .literal " = "]) none none := by
    rw [spelled]
    exact extracted.append sign (.inl rfl)
  have level : net (Sql.text [.extract kind part column, .literal " = "]).toList = 0 := by
    rw [spelled, String.toList_append, net_append, even]
    rfl
  apply Sql.Calm.operand [.extract kind part column, .literal " = "] still level _ cites
  rw [spelled]
  exact starts.append _

theorem calm_inQuery {sql : Sql} (inside : sql.Fitting none) :
    Sql.Calm (Sql.enclosed (column ++ " IN (") sql) := by
  have word : Silent " IN " := rfl
  have opened : (" IN (" : String) = " IN " ++ "(" := rfl
  rw [opened, ← String.append_assoc]
  exact .enclosed ((plain_name named).toLead.append word) inside

theorem calm_quantified (sign : Operator) (quantifier : Quantifier) {sql : Sql}
    (inside : sql.Fitting none) : Sql.Calm (Sql.enclosed
      (column ++ " " ++ sign.spelling ++ " " ++ quantifier.keyword ++ " (") sql) := by
  have gap : Silent " " := rfl
  have operator : Silent sign.spelling := by cases sign <;> rfl
  have word : Silent quantifier.keyword := by cases quantifier <;> rfl
  have opened : (" (" : String) = " " ++ "(" := rfl
  have lead := (plain_name named).toLead.append gap
  rw [opened, ← String.append_assoc]
  exact .enclosed ((((lead.append operator).append gap).append word).append gap) inside

end

/-- Every comparison and every query that is written with such names keeps its marks to itself. -/
theorem calm_closed : calm.Closed where
  compare column s v named _ cites := by
    have gap : Silent " " := rfl
    have sign : Silent s.sign := by cases s <;> rfl
    have lead := (plain_name named).toLead.append gap
    exact .literal_operand ((lead.append sign).append gap) cites
  like column v named _ cites := by
    have gap : Silent " " := rfl
    have sign : Silent "LIKE" := rfl
    have lead := (plain_name named).toLead.append gap
    exact .literal_operand ((lead.append sign).append gap) cites
  between column low high named _ _ below above := calm_between named below above
  oneOf column values named given _ cites := calm_oneOf named given cites
  isNull column named := calm_isNull named
  part kind part column v named _ cites := calm_part named kind part cites
  inQuery column sql named inside := calm_inQuery named inside
  existsIn sql inside := by
    have word : Lead "EXISTS " := ⟨rfl, _, _, rfl, rfl⟩
    exact Sql.Calm.enclosed word inside
  quantified column sign quantifier sql named inside :=
    calm_quantified named sign quantifier inside
  render s sql spoken rendered := Select.fitting_of_render spoken rendered

namespace Condition

/-- The condition after a sequence of calls, of which any may fail. -/
def written (o : Owner) (calls : List ConditionCall) : Condition :=
  calls.foldl (fun c call => (call.run o c).state) .blank

theorem written_spoken {d : Diction} (closed : d.Closed) (o : Owner) {calls : List ConditionCall}
    (uses : ConditionCall.AllUse d.toVocabulary calls) : (written o calls).Spoken d := by
  have step : ∀ (calls : List ConditionCall) (c : Condition),
      ConditionCall.AllUse d.toVocabulary calls → c.Spoken d →
      (calls.foldl (fun c call => (call.run o c).state) c).Spoken d := by
    intro calls
    induction calls with
    | nil => exact fun c _ spoken => spoken
    | cons call rest ih =>
      intro c uses spoken
      exact ih _ uses.2 (call.run_spoken closed o uses.1 spoken)
  exact step calls .blank uses blank_spoken

end Condition

/-- What a comparison holds inside is an open group of a query that it embeds. -/
theorem Token.Spoken.embeds {t : Token} (spoken : t.Spoken calm)
    (loose : t.holds .opening .closing = true ∨ t.holds .opening .order = true) :
    ∃ negated opening query, t = .comparison negated (Sql.enclosed opening query) ∧
      Dips query.text := by
  cases t with
  | comparison negated sql =>
    have own : ∀ two, (comparison negated sql).holds .opening two =
        Mark.opening.meet two sql.text.toList := by
      intro two
      cases negated with
      | false => rfl
      | true =>
        rw [holds, text_negated, String.toList_append]
        exact Mark.meet_silent _ _ rfl _
    rw [own, own] at loose
    rcases spoken.plain with still | ⟨opening, query, rfl, dips⟩
    · rw [still.empty .opening .closing rfl, still.empty .opening .order rfl] at loose
      simp at loose
    · exact ⟨negated, opening, query, rfl, dips loose⟩
  | raw text values => exact absurd spoken id
  | connective c => cases c <;> rcases loose with found | found <;> cases found
  | opening => rcases loose with found | found <;> cases found
  | closing => rcases loose with found | found <;> cases found

/-- The checks on the text of a condition agree with the checks on its tokens. A comparison counts
for an empty group, or for an `OR` behind a parenthesis, when its own text holds that, which only an
embedded query that closes a parenthesis before it opens one can bring about. -/
theorem Condition.build_written (o : Owner) (calls : List ConditionCall)
    (spoken : ConditionCall.AllUse identifiers calls) :
    (written o calls).build.map Sql.text =
        Token.judgement (fun one two => (written o calls).tokens.any (Token.holds one two))
          (written o calls).tokens ∧
      (∀ t ∈ (written o calls).tokens,
        t.holds .opening .closing = true ∨ t.holds .opening .order = true →
        ∃ negated opening query, t = .comparison negated (Sql.enclosed opening query) ∧
          Dips query.text) ∧
      ((∀ negated opening query,
          .comparison negated (Sql.enclosed opening query) ∈ (written o calls).tokens →
          ¬ Dips query.text) →
        (written o calls).build.map Sql.text =
          Token.judgement (fun _ _ => false) (written o calls).tokens) := by
  have kept := written_spoken calm_closed o spoken
  have built := build_eq_judgement kept.legible
  have embeds := fun t token => (kept.tokens t token).embeds
  refine ⟨built, embeds, fun level => ?_⟩
  have none : ∀ two, two = Mark.closing ∨ two = Mark.order →
      (written o calls).tokens.any (Token.holds .opening two) = false := by
    intro two given
    rw [List.any_eq_false]
    intro t token found
    have loose : t.holds .opening .closing = true ∨ t.holds .opening .order = true := by
      rcases given with rfl | rfl
      · exact .inl found
      · exact .inr found
    obtain ⟨negated, opening, query, rfl, dips⟩ := embeds t token loose
    exact level negated opening query token dips
  rw [built, Token.judgement, Token.judgement, Token.verdict, Token.verdict, none _ (.inl rfl),
    none _ (.inr rfl)]

/-- A group around a negated subquery. -/
def notExists : List ConditionCall :=
  [.openGroup, .negate, .existsIn (.callback [.table (.str "u")]), .closeGroup]

theorem Condition.build_written_notExists :
    ConditionCall.AllUse identifiers notExists ∧
      (∀ negated opening query, Token.comparison negated (Sql.enclosed opening query) ∈
        (written ⟨⟨.text (.kind .sqlite), .queries⟩, none⟩ notExists).tokens → ¬ Dips query.text) ∧
      (written ⟨⟨.text (.kind .sqlite), .queries⟩, none⟩ notExists).build.map Sql.text =
        .ok "(NOT EXISTS (SELECT * FROM u))" := by
  have spoken : ConditionCall.AllUse identifiers notExists := by
    refine ⟨trivial, trivial, ⟨?_, trivial⟩, trivial, trivial⟩
    rintro name ⟨⟩
    exact ⟨by decide, List.all_eq_true.mp rfl⟩
  have level : ∀ negated opening query, Token.comparison negated (Sql.enclosed opening query) ∈
      (written ⟨⟨.text (.kind .sqlite), .queries⟩, none⟩ notExists).tokens → ¬ Dips query.text := by
    intro negated opening query member
    have tokens : (written ⟨⟨.text (.kind .sqlite), .queries⟩, none⟩ notExists).tokens =
        [.opening, .comparison true (Sql.enclosed "EXISTS (" [.literal "SELECT * FROM u"]),
          .closing] := rfl
    rw [tokens] at member
    simp only [List.mem_cons, reduceCtorEq, Token.comparison.injEq, Sql.enclosed, List.cons_append,
      List.cons.injEq, List.not_mem_nil, or_false, false_or] at member
    have same : query = [.literal "SELECT * FROM u"] := List.append_cancel_right member.2.2
    rintro ⟨front, starts, below⟩
    have closings : front.count ')' ≤ query.text.toList.count ')' := starts.sublist.count_le _
    have none : query.text.toList.count ')' = 0 := by
      rw [same]
      decide
    unfold net at below
    omega
  exact ⟨spoken, level, ((build_written _ notExists spoken).2.2 level).trans rfl⟩

/-- A subquery whose condition closes a group before it opens one. -/
def reopened : List ConditionCall :=
  [.existsIn (.callback [.table (.str "t"), .filter (.extend (.callback
    (some [.positional, .positional])
    [.closeGroup, .col (.str "a"), .compare .equal (.int 1), .openGroup]))])]

/-- No two tokens are at fault here, and still the text is refused for an empty group. -/
theorem Condition.build_reopened :
    ConditionCall.AllUse identifiers reopened ∧
      (written ⟨⟨.text (.kind .sqlite), .queries⟩, none⟩ reopened).build.map Sql.text =
        .error (.grammar .emptyGroup) ∧
      Token.judgement (fun _ _ => false)
          (written ⟨⟨.text (.kind .sqlite), .queries⟩, none⟩ reopened).tokens =
        .ok "EXISTS (SELECT * FROM t WHERE )a = ?()" := by
  refine ⟨⟨⟨?_, ⟨trivial, ?_, nofun, trivial, trivial⟩, trivial⟩, trivial⟩, rfl, rfl⟩
  · rintro name ⟨⟩
    exact ⟨by decide, List.all_eq_true.mp rfl⟩
  · rintro name ⟨⟩
    exact ⟨by decide, List.all_eq_true.mp rfl⟩

end SqlBuilder
