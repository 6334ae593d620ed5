import SqlBuilder.Proofs.Call.Legibility
import SqlBuilder.Proofs.Sql.Phrase

set_option autoImplicit false

namespace SqlBuilder

open Scan (Fresh Settled Clear)

/-- A text with even parentheses that leads on if it opens each before it closes it. -/
structure Course (P : Scan → Prop) (s : String) (Q : Scan → Prop) : Prop where
  level : net s.toList = 0
  leads : ¬ Dips s → Leads P s Q

theorem Passage.course {P Q : Scan → Prop} {s : String} (passage : Passage P s Q) :
    Course P s Q :=
  ⟨passage.level, fun _ => passage.leads⟩

theorem Course.append {P Q R : Scan → Prop} {s t : String} (first : Course P s Q)
    (second : Course Q t R) : Course P (s ++ t) R where
  level := by
    rw [String.toList_append, net_append, first.level, second.level]
    rfl
  leads even :=
    (first.leads fun dips => even (dips.append t)).append
      (second.leads fun dips => even (dips.behind first.level))

/-- A comparison that may stand in an expression, unless it embeds a query that closes a parenthesis
too many. -/
structure Sql.Phrased (sql : Sql) : Prop where
  level : net sql.text.toList = 0
  phrase : Phrase sql.text ∨ ∃ opening query, sql = Sql.enclosed opening query ∧ Dips query.text

/-- What is written with the names alone. -/
def phrased (name : String → Prop) : Diction where
  name := name
  fragment _ _ := False
  comparison := Sql.Phrased
  query sql := Course Fresh sql.text Settled

namespace Sql

theorem Phrased.of_phrase {sql : Sql} (phrase : Phrase sql.text) : sql.Phrased :=
  ⟨phrase.level, .inl phrase⟩

theorem Phrased.enclosed {word : String} {query : Sql} {Q : Scan → Prop}
    (passage : Passage Fresh word Q) (starts : Starts word)
    (course : Course Fresh query.text Settled) : (Sql.enclosed (word ++ "(") query).Phrased := by
  have spelled := text_group word query
  refine ⟨?_, ?_⟩
  · rw [spelled]
    simp only [String.toList_append, net_append, passage.level, course.level]
    rfl
  · by_cases dips : Dips query.text
    · exact .inr ⟨_, _, rfl, dips⟩
    · rw [spelled]
      exact .inl (.call passage starts course.level (course.leads dips))

theorem course_joinWith {P : Scan → Prop} {part : Sql} {rest : List Sql}
    (first : Course P part.text Settled) (others : ∀ p ∈ rest, Course Clear p.text Settled) :
    Course P (joinWith " " (part :: rest)).text Settled := by
  induction rest generalizing P part with
  | nil => exact first
  | cons next rest ih =>
    have gap : Passage Settled " " Clear := .of_settled rfl rfl (by decide) rfl rfl
    have tail := ih (others next List.mem_cons_self) fun p member =>
      others p (List.mem_cons_of_mem next member)
    rw [joinWith_cons_cons, text_append, text_cons]
    exact first.append (gap.course.append tail)

end Sql

variable {name : String → Prop}

theorem Token.Spoken.level {t : Token} (spoken : t.Spoken (phrased name)) :
    net t.sql.text.toList = t.rise := by
  cases t with
  | comparison negated sql =>
    have inside : sql.Phrased := spoken
    cases negated with
    | false => exact inside.level
    | true =>
      rw [text_negated, String.toList_append, net_append, inside.level]
      rfl
  | raw text values => exact absurd spoken id
  | connective c => exact (legible_connective c).level
  | opening => rfl
  | closing => rfl

/-- The text of a condition without a fault, whatever its tokens are. -/
theorem Condition.course {c : Condition} (spoken : c.Spoken (phrased name))
    (faultless : c.fault? = none) : Course Clear c.text Settled := by
  have level : net c.text.toList = 0 := by
    rw [toList_text, net_trim, Token.net_joined fun t member => (spoken.tokens t member).level]
    exact (fault?_eq_none.mp faultless).1
  exact ⟨level, leads_of_faultless faultless level⟩

namespace Select

theorem course_head {s : Select} (phrases : ∀ s, name s → Phrase s)
    (spoken : s.Spoken (phrased name)) {table : String} (named : s.table = some table) :
    Course Fresh (s.head table).text Settled := by
  have word : Passage Fresh "SELECT " Clear := .of_fresh rfl (fun _ => rfl) rfl
  have distinct : Passage Clear (if s.distinct then "DISTINCT " else "") Fresh := by
    split <;> exact .of_clear rfl rfl rfl
  have columns : Passage Fresh (columnList s.columns) Settled := by
    have each := fun column given => phrases column (spoken.columns column given)
    revert each
    unfold columnList
    cases s.columns with
    | nil => exact fun _ => .of_fresh rfl (fun _ => rfl) rfl
    | cons column rest =>
      intro each
      exact (Phrase.intercalate (List.cons_ne_nil column rest) each).toPassage
  have origin : Passage Settled " FROM " Fresh := .of_settled rfl rfl (by decide) rfl rfl
  have source := (phrases table (spoken.table table named)).toPassage
  rw [text_head]
  exact ((((word.append distinct).append columns).append origin).append source).course

/-- A clause that ends with a condition. -/
theorem course_condition {front : String} {c : Condition} (passage : Passage Clear front Clear)
    (spoken : c.Spoken (phrased name)) (faultless : c.fault? = none) :
    Course Clear (Sql.text (.literal front :: c.sql.trim)) Settled := by
  rw [Condition.text_clause]
  exact passage.course.append (Condition.course spoken faultless)

theorem course_joinPart {j : Join} (phrases : ∀ s, name s → Phrase s) (named : name j.table)
    (spoken : j.condition.Spoken (phrased name)) (faultless : j.condition.fault? = none) :
    Course Clear (joinPart j).text Settled := by
  have word : Passage Clear (j.kind.keyword ++ " JOIN ") Fresh := by
    cases j.kind <;> exact .of_clear rfl rfl rfl
  have condition : Passage Settled " ON " Clear := .of_settled rfl rfl (by decide) rfl rfl
  have front := (word.append (phrases j.table named).toPassage).append condition
  exact course_condition front spoken faultless

theorem course_countPart {keyword : String} (n : Nat) (passage : Passage Clear keyword Settled) :
    Course Clear (countPart keyword n).text Settled := by
  have gap : Passage Settled " " Clear := .of_settled rfl rfl (by decide) rfl rfl
  have digits := (silent_toString n).passage
  have number : Passage Clear (toString n) Settled := ⟨digits.level, digits.leads.settled⟩
  rw [text_countPart]
  exact ((passage.append gap).append number).course

theorem course_groupClause {s : Select} (phrases : ∀ s, name s → Phrase s)
    (spoken : s.Spoken (phrased name)) :
    ∀ part ∈ s.groupClause, Course Clear part.text Settled := by
  have each := fun column given => phrases column (spoken.groups column given)
  revert each
  unfold groupClause
  cases s.groups with
  | nil => nofun
  | cons column rest =>
    intro each part member
    rw [List.mem_singleton.mp member]
    have word : Passage Clear "GROUP BY " Fresh := .of_clear rfl rfl rfl
    rw [Sql.text_ofText]
    exact (word.append (Phrase.intercalate (List.cons_ne_nil column rest) each).toPassage).course

theorem phrase_spelling (order : SortOrder) : Phrase order.spelling := by
  cases order with
  | asc => exact ⟨.of_fresh rfl (fun _ => rfl) rfl, ⟨_, _, rfl, rfl⟩, ⟨['A', 'S'], 'C', rfl, rfl⟩⟩
  | desc =>
    exact ⟨.of_fresh rfl (fun _ => rfl) rfl, ⟨_, _, rfl, rfl⟩, ⟨['D', 'E', 'S'], 'C', rfl, rfl⟩⟩

theorem course_orderClause {s : Select} (phrases : ∀ s, name s → Phrase s)
    (spoken : s.Spoken (phrased name)) :
    ∀ part ∈ s.orderClause, Course Clear part.text Settled := by
  have each : ∀ order ∈ s.orders, Phrase (order.1 ++ " " ++ order.2.spelling) := by
    intro order given
    have gap : Passage Settled " " Fresh := .of_settled rfl rfl (by decide) rfl rfl
    exact (phrases order.1 (spoken.orders order given)).join gap (phrase_spelling order.2)
  revert each
  unfold orderClause
  cases s.orders with
  | nil => nofun
  | cons order rest =>
    intro each part member
    rw [List.mem_singleton.mp member]
    have word : Passage Clear "ORDER BY " Fresh := .of_clear rfl rfl rfl
    have terms : Phrase (", ".intercalate ((order :: rest).map fun order =>
        order.1 ++ " " ++ order.2.spelling)) := by
      refine Phrase.intercalate nofun fun term given => ?_
      obtain ⟨other, listed, rfl⟩ := List.mem_map.mp given
      exact each other listed
    rw [Sql.text_ofText]
    exact (word.append terms.toPassage).course

theorem course_renderUnion {u : Union} (course : Course Fresh u.query.text Settled) :
    Course Clear (renderUnion u).text Settled := by
  have word : Passage Clear (if u.all then "UNION ALL " else "UNION ") Fresh := by
    split <;> exact .of_clear rfl rfl rfl
  rw [renderUnion, Sql.text_cons]
  exact word.course.append course

theorem course_parts {s : Select} (phrases : ∀ s, name s → Phrase s)
    (spoken : s.Spoken (phrased name)) (faultless : s.Faultless) (table : String) :
    ∀ part ∈ (s.parts table).tail, Course Clear part.text Settled :=
  forall_parts
    (fun j given => course_joinPart phrases (spoken.joins j given).1 (spoken.joins j given).2
      (faultless.joins j given))
    (fun c given => course_condition (.of_clear rfl rfl rfl) (spoken.filter c given)
      (faultless.filter c given))
    (course_groupClause phrases spoken)
    (fun c given => course_condition (.of_clear rfl rfl rfl) (spoken.having c given)
      (faultless.having c given))
    (course_orderClause phrases spoken)
    (fun n => course_countPart n (.of_clear rfl rfl rfl))
    (fun n => course_countPart n (.of_clear rfl rfl rfl))
    (fun u given => course_renderUnion (spoken.unions u given))

theorem course_of_render {s : Select} {sql : Sql} (phrases : ∀ s, name s → Phrase s)
    (spoken : s.Spoken (phrased name)) (rendered : s.render = .ok sql) :
    Course Fresh sql.text Settled := by
  obtain ⟨table, named, faultless, rfl⟩ := render_of_ok rendered
  rw [parts_eq]
  exact Sql.course_joinWith (course_head phrases spoken named)
    (course_parts phrases spoken faultless table)

end Select

section

variable {column : String} (phrase : Phrase column)

include phrase

theorem phrased_operand {sign : String} {v : Value} (between : Passage Settled sign Fresh)
    (cites : ∀ column, v = .ref column → Phrase column.chars) :
    Sql.Phrased [.literal (column ++ sign), Condition.operand v] := by
  have spelled : Sql.text [.literal (column ++ sign), Condition.operand v] =
      column ++ sign ++ (Condition.operand v).text := by
    simp [Piece.text]
  apply Sql.Phrased.of_phrase
  rw [spelled]
  exact phrase.join between (Condition.phrase_operand cites)

theorem phrased_between {low high : Value}
    (below : ∀ column, low = .ref column → Phrase column.chars)
    (above : ∀ column, high = .ref column → Phrase column.chars) :
    Sql.Phrased [.literal (column ++ " BETWEEN "), Condition.operand low, .literal " AND ",
      Condition.operand high] := by
  have word : Passage Settled " BETWEEN " Fresh := .of_settled rfl rfl (by decide) rfl rfl
  have and : Passage Settled " AND " Fresh := .of_settled rfl rfl (by decide) rfl rfl
  have least := phrase.join word (Condition.phrase_operand below)
  have spelled : Sql.text [.literal (column ++ " BETWEEN "), Condition.operand low,
      .literal " AND ", Condition.operand high] = column ++ " BETWEEN " ++
        (Condition.operand low).text ++ " AND " ++ (Condition.operand high).text := by
    simp [Piece.text, String.append_assoc]
  apply Sql.Phrased.of_phrase
  rw [spelled]
  exact least.join and (Condition.phrase_operand above)

theorem phrased_oneOf {values : List Value} (given : values ≠ [])
    (cites : ∀ v ∈ values, ∀ column, v = .ref column → Phrase column.chars) :
    Sql.Phrased (.literal (column ++ " IN (") ::
      Sql.joinWith ", " (values.map fun v => [Condition.operand v]) ++ [.literal ")"]) := by
  have word : Passage Settled " IN " Clear := .of_settled rfl rfl (by decide) rfl rfl
  have listed : Phrase (Sql.joinWith ", " (values.map fun v => [Condition.operand v])).text := by
    rw [Sql.text_joinWith]
    refine Phrase.intercalate (by simpa using given) fun term member => ?_
    obtain ⟨_, inside, rfl⟩ := List.mem_map.mp member
    obtain ⟨v, operand, rfl⟩ := List.mem_map.mp inside
    rw [Sql.text_cons, Sql.text_nil, String.append_empty]
    exact Condition.phrase_operand (cites v operand)
  have spelled : Sql.text (Sql.enclosed (column ++ " IN (")
      (Sql.joinWith ", " (values.map fun v => [Condition.operand v]))) = column ++ " IN " ++ "(" ++
        (Sql.joinWith ", " (values.map fun v => [Condition.operand v])).text ++ ")" := by
    have opened : (" IN (" : String) = " IN " ++ "(" := rfl
    rw [Sql.text_enclosed, opened]
    simp only [String.append_assoc]
  have call : Phrase (Sql.text (Sql.enclosed (column ++ " IN (")
      (Sql.joinWith ", " (values.map fun v => [Condition.operand v])))) := by
    rw [spelled]
    exact .call (phrase.toPassage.append word) (phrase.starts.append _) listed.level listed.leads
  exact .of_phrase call

theorem phrased_isNull : Sql.Phrased [.literal (column ++ " IS NULL")] := by
  have word : Passage Settled " IS NULL" Settled := .of_settled rfl rfl (by decide) rfl rfl
  have spelled : Sql.text [.literal (column ++ " IS NULL")] = column ++ " IS NULL" := by
    simp [Piece.text]
  apply Sql.Phrased.of_phrase
  rw [spelled]
  exact phrase.tail word ⟨" IS NUL".toList, 'L', rfl, rfl⟩

theorem phrased_part (kind : DriverKind) (part : DatePart) {v : Value}
    (cites : ∀ column, v = .ref column → Phrase column.chars) :
    Sql.Phrased [.extract kind part column, .literal " = ", Condition.operand v] := by
  have sign : Passage Settled " = " Fresh := .of_settled rfl rfl (by decide) rfl rfl
  have spelled : Sql.text [.extract kind part column, .literal " = ", Condition.operand v] =
      kind.extract part column ++ " = " ++ (Condition.operand v).text := by
    simp [Piece.text, String.append_assoc]
  apply Sql.Phrased.of_phrase
  rw [spelled]
  exact (kind.phrase_extract part phrase).join sign (Condition.phrase_operand cites)

theorem phrased_enclosed {word : String} {query : Sql} (between : Passage Settled word Clear)
    (course : Course Fresh query.text Settled) :
    (Sql.enclosed (column ++ word ++ "(") query).Phrased :=
  .enclosed (phrase.toPassage.append between) (phrase.starts.append word) course

end

/-- Every comparison and every query that is written with phrases is one that an expression may
have. -/
theorem phrased_closed (phrases : ∀ s, name s → Phrase s) : (phrased name).Closed where
  compare column s v named _ cites := by
    have sign : Passage Settled (" " ++ s.sign ++ " ") Fresh := by
      cases s <;> exact .of_settled rfl rfl (by decide) rfl rfl
    have spelled : column ++ " " ++ s.sign ++ " " = column ++ (" " ++ s.sign ++ " ") := by
      simp only [String.append_assoc]
    rw [spelled]
    exact phrased_operand (phrases column named) sign fun _ given => phrases _ (cites _ given)
  like column v named _ cites := by
    have sign : Passage Settled " LIKE " Fresh := .of_settled rfl rfl (by decide) rfl rfl
    have spelled : column ++ " " ++ "LIKE" ++ " " = column ++ " LIKE " := by
      simp only [String.append_assoc]
      rfl
    rw [spelled]
    exact phrased_operand (phrases column named) sign fun _ given => phrases _ (cites _ given)
  between column low high named _ _ below above :=
    phrased_between (phrases column named) (fun _ given => phrases _ (below _ given))
      fun _ given => phrases _ (above _ given)
  oneOf column values named given _ cites :=
    phrased_oneOf (phrases column named) given fun v member _ same =>
      phrases _ (cites v member _ same)
  isNull column named := phrased_isNull (phrases column named)
  part kind part column v named _ cites :=
    phrased_part (phrases column named) kind part fun _ given => phrases _ (cites _ given)
  inQuery column sql named course := by
    have word : Passage Settled " IN " Clear := .of_settled rfl rfl (by decide) rfl rfl
    have opened : column ++ " IN (" = column ++ " IN " ++ "(" := by
      rw [String.append_assoc]
      rfl
    rw [opened]
    exact phrased_enclosed (phrases column named) word course
  existsIn sql course := by
    have word : Passage Fresh "EXISTS " Clear := .of_fresh rfl (fun _ => rfl) rfl
    exact Sql.Phrased.enclosed word ⟨_, _, rfl, rfl⟩ course
  quantified column sign quantifier sql named course := by
    have word :
        Passage Settled (" " ++ sign.spelling ++ " " ++ quantifier.keyword ++ " ") Clear := by
      cases sign <;> cases quantifier <;> exact .of_settled rfl rfl (by decide) rfl rfl
    have opened : column ++ " " ++ sign.spelling ++ " " ++ quantifier.keyword ++ " (" =
        column ++ (" " ++ sign.spelling ++ " " ++ quantifier.keyword ++ " ") ++ "(" := by
      simp only [String.append_assoc]
      rfl
    rw [opened]
    exact phrased_enclosed (phrases column named) word course
  render s sql spoken rendered := Select.course_of_render phrases spoken rendered

end SqlBuilder
