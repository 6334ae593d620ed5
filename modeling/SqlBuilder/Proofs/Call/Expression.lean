import SqlBuilder.Proofs.Call.Phrasing

set_option autoImplicit false

namespace SqlBuilder

open Scan (Fresh Settled)

namespace Token

mutual

/-- A comparison, or an expression in parentheses. -/
inductive Term : List Token → Prop
  | comparison (negated : Bool) (sql : Sql) : Term [.comparison negated sql]
  | group {inner : List Token} (inside : Expression inner) :
      Term (.opening :: (inner ++ [.closing]))

/-- Terms with connectives between them. -/
inductive Expression : List Token → Prop
  | term {tokens : List Token} (single : Term tokens) : Expression tokens
  | connect {front back : List Token} (first : Expression front) (k : Connective)
      (last : Term back) : Expression (front ++ .connective k :: back)

end

/-- All comparisons among the tokens are phrases. -/
def Phrased (tokens : List Token) : Prop :=
  ∀ negated sql, .comparison negated sql ∈ tokens → Phrase sql.text

theorem phrase_comparison (negated : Bool) {sql : Sql} (phrase : Phrase sql.text) :
    Phrase (comparison negated sql).sql.text := by
  cases negated with
  | false => exact phrase
  | true =>
    have word : Passage Fresh "NOT " Fresh := .of_fresh rfl (fun _ => rfl) rfl
    rw [text_negated]
    exact .behind word ⟨_, _, rfl, rfl⟩ phrase

theorem passage_connective (k : Connective) :
    Passage Settled (connective k).sql.text Fresh := by
  cases k <;> exact .of_settled rfl rfl (by decide) rfl rfl

mutual

theorem Term.phrase : ∀ {tokens : List Token}, Term tokens → Phrased tokens →
    Phrase (joined tokens)
  | _, .comparison negated sql, phrased => by
    rw [joined_cons, joined_nil, String.append_empty]
    exact phrase_comparison negated (phrased negated sql List.mem_cons_self)
  | _, .group inside, phrased => by
    have within := inside.phrase fun negated sql member => phrased negated sql (by simp [member])
    rw [joined_cons, joined_append, joined_cons, joined_nil, String.append_empty,
      ← String.append_assoc]
    exact within.group

theorem Expression.phrase : ∀ {tokens : List Token}, Expression tokens → Phrased tokens →
    Phrase (joined tokens)
  | _, .term single, phrased => single.phrase phrased
  | _, .connect first k last, phrased => by
    have before := first.phrase fun negated sql member => phrased negated sql (by simp [member])
    have behind := last.phrase fun negated sql member => phrased negated sql (by simp [member])
    rw [joined_append, joined_cons, ← String.append_assoc]
    exact before.join (passage_connective k) behind

end

end Token

namespace Condition

variable {c : Condition}

/-- A condition is accepted as it stands when its tokens make a phrase. -/
theorem build_of_phrase (level : c.depth = 0) (phrase : Phrase (Token.joined c.tokens)) :
    c.build.map Sql.text = .ok (Token.joined c.tokens) := by
  have untrimmed : c.text = Token.joined c.tokens := text_eq_joined phrase.starts phrase.ends
  have faultless : c.fault? = none := by
    obtain ⟨first, rest, shape, _⟩ := phrase.starts
    apply faultless_of_leads level
    · rw [untrimmed, shape]
      exact List.cons_ne_nil first rest
    · rw [untrimmed]
      exact phrase.leads
  have built : c.build = .ok c.sql.trim := build_eq_ok.mpr ⟨faultless, rfl⟩
  have text : Except.ok (Sql.text c.sql.trim) = Except.ok (ε := Error) c.text := by
    rw [Sql.text_trim]
    rfl
  rw [built, ← untrimmed]
  exact text

/-- An expression that is written with phrases is accepted as it stands. -/
theorem build_of_expression {name : String → Prop} (spoken : c.Spoken (phrased name))
    (expression : Token.Expression c.tokens)
    (even : ∀ negated opening query,
      .comparison negated (Sql.enclosed opening query) ∈ c.tokens → ¬ Dips query.text) :
    c.build.map Sql.text = .ok (Token.joined c.tokens) := by
  have phrased : Token.Phrased c.tokens := by
    intro negated sql member
    have written : sql.Phrased := spoken.tokens _ member
    rcases written.phrase with phrase | ⟨opening, query, rfl, dips⟩
    · exact phrase
    · exact absurd dips (even negated opening query member)
  have phrase := expression.phrase phrased
  apply build_of_phrase _ phrase
  rw [depth, ← Token.net_joined fun t member => (spoken.tokens t member).level]
  exact phrase.level

end Condition

/-- A column that is compared with itself. -/
def reflexive (name : String) : List ConditionCall :=
  [.col (.str name), .compare .equal (.ref (.plain name))]

theorem fullString?_str {s : String} (nonempty : s ≠ "") : (Value.str s).fullString? = some s := by
  simp [Value.fullString?, Value.fullText?, Value.str, Text.chars, nonempty]

theorem tokens_reflexive (o : Owner) {name : String} (nonempty : name ≠ "") :
    (Condition.written o (reflexive name)).tokens =
      [.comparison false [.literal (name ++ " = "), .literal name]] := by
  have selected : (ConditionCall.col (.str name)).run o .blank =
      .done { Condition.blank with column := some name } := by
    simp only [ConditionCall.run, Condition.select, fullString?_str nonempty]
    rfl
  have sign : name ++ " " ++ "=" ++ " " = name ++ " = " := by
    simp only [String.append_assoc]
    rfl
  rw [Condition.written, reflexive, List.foldl_cons, selected, ← sign]
  rfl

theorem uses_reflexive {name : String → Prop} {s : String} (nonempty : s ≠ "")
    (named : name s) : ConditionCall.AllUse ⟨name, fun _ _ => False, True⟩ (reflexive s) := by
  refine ⟨fun t full => ?_, ?_, trivial⟩
  · rw [fullString?_str nonempty] at full
    cases full
    exact named
  · rintro column ⟨⟩
    exact named

/-- Two pieces have no room for a query. -/
theorem not_dips_of_pair {opening : String} {query : Sql} {first last : Piece}
    (same : Sql.enclosed opening query = [first, last]) : ¬ Dips query.text := by
  have length := congrArg List.length same
  simp only [Sql.enclosed, List.cons_append, List.length_cons, List.length_append,
    List.length_nil] at length
  have empty : query = [] := List.eq_nil_of_length_eq_zero (by omega)
  rintro ⟨front, starts, below⟩
  rw [empty] at starts
  obtain rfl : front = [] := List.prefix_nil.mp starts
  cases below

theorem joined_reflexive (o : Owner) {name : String} (nonempty : name ≠ "") :
    (Token.joined (Condition.written o (reflexive name)).tokens).toList =
      name.toList ++ (" = ".toList ++ name.toList) := by
  rw [tokens_reflexive o nonempty]
  simp [Token.joined, Token.sql, Piece.text]

/-- A name that is accepted where it is compared with itself is not mistaken for a connective. -/
theorem unmistakable_of_build {o : Owner} {name : String} (nonempty : name ≠ "")
    (accepted : (Condition.written o (reflexive name)).build.map Sql.text =
      .ok (Token.joined (Condition.written o (reflexive name)).tokens)) : Unmistakable name := by
  obtain ⟨sql, built, text⟩ := Except.map_eq_ok.mp accepted
  have faultless := (Condition.build_eq_ok.mp built).1
  obtain ⟨_, apart, ends, starts, _⟩ := Condition.fault?_eq_none.mp faultless
  have spelled : (Condition.written o (reflexive name)).text.toList =
      name.toList ++ (" = ".toList ++ name.toList) := by
    rw [← (Condition.text_of_build_ok _ sql built).1, text, joined_reflexive o nonempty]
  rw [spelled] at apart ends starts
  refine ⟨fun k => ?_, fun k => ?_, fun k => ?_⟩
  · rintro ⟨rest, shape⟩
    have first := starts k
    rw [← Bool.not_eq_true, List.isPrefixOf_iff_prefix] at first
    exact first ((List.IsPrefix.trans ⟨rest, shape⟩) (List.prefix_append _ _))
  · rintro ⟨front, shape⟩
    have last := ends k
    rw [← Bool.not_eq_true, List.isSuffixOf_iff_suffix] at last
    refine last (List.IsSuffix.trans ⟨front, shape⟩ ?_)
    exact (List.suffix_append _ _).trans (List.suffix_append _ _)
  · rintro ⟨front, behind, shape⟩
    have missed := apart (.connective k) (.connective k) (decide_eq_true rfl)
    have doubled : name.toList ++ (" = ".toList ++ name.toList) = front ++ (k.word.toList ++
        ([] ++ (k.word.toList ++ (behind ++ (" = ".toList ++ name.toList))))) := by
      simp only [← shape, List.append_assoc, List.nil_append]
    have none : ∀ c ∈ ([] : List Char), Chars.isBlank c = true := nofun
    exact (Mark.connective k).not_apart (.connective k) missed none doubled

/-- With identifiers for names, all expressions are accepted exactly when no name can be mistaken
for a connective. Of the queries that are embedded it is only asked that they open each parenthesis
before they close it. -/
theorem Condition.build_expression (name : String → Prop)
    (identifier : ∀ s, name s → Identifier s) :
    (∀ s, name s → Unmistakable s) ↔
      ∀ (o : Owner) (calls : List ConditionCall),
        ConditionCall.AllUse ⟨name, fun _ _ => False, True⟩ calls →
        Token.Expression (written o calls).tokens →
        (∀ negated opening query,
          .comparison negated (Sql.enclosed opening query) ∈ (written o calls).tokens →
          ¬ Dips query.text) →
        (written o calls).build.map Sql.text = .ok (Token.joined (written o calls).tokens) := by
  constructor
  · intro clear o calls uses expression even
    have phrases : ∀ s, name s → Phrase s := fun s named =>
      (identifier s named).phrase (clear s named)
    have spoken := written_spoken (phrased_closed phrases) o uses
    exact build_of_expression spoken expression even
  · intro accepted s named
    have nonempty : s ≠ "" := by
      rintro rfl
      obtain ⟨c, rest, shape, _⟩ := (identifier "" named).first
      cases shape
    have o : Owner := ⟨⟨.null, .queries⟩, none⟩
    have tokens := tokens_reflexive o nonempty
    refine unmistakable_of_build nonempty (accepted o (reflexive s) ?_ ?_ ?_)
    · exact uses_reflexive nonempty named
    · rw [tokens]
      exact .term (.comparison false _)
    · intro negated opening query member
      rw [tokens, List.mem_singleton] at member
      exact not_dips_of_pair (Token.comparison.inj member).2

/-- A group with a name that has the words of both connectives inside. -/
def landform : List ConditionCall :=
  [.openGroup, .col (.str "LANDFORM"), .compare .equal (.int 1), .connect .or,
    .compare .greaterThan (.int 2), .closeGroup]

theorem Condition.build_expression_landform :
    (∀ s, s = "LANDFORM" → Identifier s) ∧ (∀ s, s = "LANDFORM" → Unmistakable s) ∧
      (written ⟨⟨.text (.kind .sqlite), .queries⟩, none⟩ landform).build.map Sql.text =
        .ok "(LANDFORM = ? OR LANDFORM > ?)" := by
  have identifier : ∀ s, s = "LANDFORM" → Identifier s := by
    rintro s rfl
    refine ⟨⟨'L', "ANDFORM".toList, rfl, rfl⟩, List.all_eq_true.mp rfl, ?_⟩
    rintro (_ | _) <;> decide
  have clear : ∀ s, s = "LANDFORM" → Unmistakable s := by
    rintro s rfl
    constructor <;> rintro (_ | _) <;> decide +kernel
  have uses : ConditionCall.AllUse ⟨(· = "LANDFORM"), fun _ _ => False, True⟩ landform := by
    refine ⟨trivial, ?_, nofun, trivial, nofun, trivial, trivial⟩
    rintro name ⟨⟩
    rfl
  have tokens : (written ⟨⟨.text (.kind .sqlite), .queries⟩, none⟩ landform).tokens =
      [.opening, .comparison false [.literal "LANDFORM = ", .slot (.int 1)], .connective .or,
        .comparison false [.literal "LANDFORM > ", .slot (.int 2)], .closing] := rfl
  have expression : Token.Expression
      (written ⟨⟨.text (.kind .sqlite), .queries⟩, none⟩ landform).tokens := by
    rw [tokens]
    exact .term (.group (.connect (.term (.comparison _ _)) .or (.comparison _ _)))
  have even : ∀ negated opening query, .comparison negated (Sql.enclosed opening query) ∈
      (written ⟨⟨.text (.kind .sqlite), .queries⟩, none⟩ landform).tokens → ¬ Dips query.text := by
    intro negated opening query member
    rw [tokens] at member
    simp only [List.mem_cons, reduceCtorEq, Token.comparison.injEq, List.not_mem_nil, or_false,
      false_or] at member
    rcases member with ⟨_, same⟩ | ⟨_, same⟩
    · exact not_dips_of_pair same
    · exact not_dips_of_pair same
  refine ⟨identifier, clear, ?_⟩
  exact (build_expression _ identifier).mp clear _ landform uses expression even

/-- A column whose name starts with the letters of a connective. -/
def orderColumn : List ConditionCall :=
  [.col (.str "ORDER_ID"), .compare .equal (.int 1)]

/-- The grammar takes the start of a name for a connective. -/
theorem Condition.build_orderColumn :
    ConditionCall.AllUse ⟨Identifier, fun _ _ => False, True⟩ orderColumn ∧
      Token.Expression (written ⟨⟨.text (.kind .sqlite), .queries⟩, none⟩ orderColumn).tokens ∧
      Token.joined (written ⟨⟨.text (.kind .sqlite), .queries⟩, none⟩ orderColumn).tokens =
        "ORDER_ID = ?" ∧
      (written ⟨⟨.text (.kind .sqlite), .queries⟩, none⟩ orderColumn).build.map Sql.text =
        .error (.grammar .atStart) := by
  refine ⟨⟨?_, nofun, trivial⟩, .term (.comparison false [.literal "ORDER_ID = ", .slot (.int 1)]),
    rfl, rfl⟩
  rintro name ⟨⟩
  refine ⟨⟨'O', "RDER_ID".toList, rfl, rfl⟩, List.all_eq_true.mp rfl, ?_⟩
  rintro (_ | _) <;> decide

end SqlBuilder
