import SqlBuilder.Proofs.Call.Legibility

set_option autoImplicit false

namespace SqlBuilder

namespace Token

/-- The last token of an operand. -/
def completes : Token → Bool
  | .comparison .. | .closing => true
  | _ => false

/-- The first token of an operand. -/
def begins : Token → Bool
  | .comparison .. | .opening => true
  | _ => false

/-- Every connective has an operand on each side. -/
def Anchored (tokens : List Token) : Prop :=
  ∀ front k back, tokens = front ++ .connective k :: back →
    (∃ t, front.getLast? = some t ∧ t.completes = true) ∧
      ∃ t, back.head? = some t ∧ t.begins = true

/-- Neighbours are two tokens with nothing between them. -/
theorem adjacent_iff {one two : Mark} {tokens : List Token} :
    adjacent one two tokens = true ↔ ∃ front t u back, tokens = front ++ t :: u :: back ∧
      t.mark? = some one ∧ u.mark? = some two := by
  induction tokens with
  | nil => simp [adjacent]
  | cons t rest ih =>
    cases rest with
    | nil =>
      simp only [adjacent, Bool.false_eq_true, false_iff]
      rintro ⟨front, v, w, back, shape, _⟩
      have short := congrArg List.length shape
      simp only [List.length_append, List.length_cons, List.length_nil] at short
      omega
    | cons u rest =>
      simp only [adjacent, Bool.or_eq_true, Bool.and_eq_true, decide_eq_true_eq, ih]
      constructor
      · rintro (here | ⟨front, v, w, back, shape, marks⟩)
        · exact ⟨[], t, u, rest, rfl, here⟩
        · exact ⟨t :: front, v, w, back, by rw [shape, List.cons_append], marks⟩
      · rintro ⟨front, v, w, back, shape, marks⟩
        cases front with
        | nil =>
          cases shape
          exact .inl marks
        | cons first front =>
          rw [List.cons_append, List.cons.injEq] at shape
          exact .inr ⟨front, v, w, back, shape.2, marks⟩

theorem mark?_eq_connective {t : Token} {k : Connective} :
    t.mark? = some (.connective k) ↔ t = .connective k := by
  cases t <;> simp [mark?]

theorem not_adjacent {one two : Mark} {tokens front back : List Token} {t u : Token}
    (apart : adjacent one two tokens = false) (shape : tokens = front ++ t :: u :: back)
    (first : t.mark? = some one) : u.mark? ≠ some two := by
  intro second
  have found := adjacent_iff.mpr ⟨front, t, u, back, shape, first, second⟩
  rw [apart] at found
  cases found

section

variable {inside : Mark → Mark → Bool} {tokens front back : List Token} {k : Connective}

/-- No connective comes right behind an opening parenthesis. -/
theorem Accepted.apart_opening (accepted : Accepted inside tokens) (k : Connective) :
    adjacent .opening (.connective k) tokens = false := by
  cases k with
  | and => exact accepted.barred .opening (.connective .and) rfl
  | or => exact accepted.order.1

/-- In front of a connective stands an operand, or the other connective. -/
theorem Accepted.before (accepted : Accepted inside tokens)
    (compared : ∀ t ∈ tokens, t.mark? = none → t.completes = true)
    (shape : tokens = front ++ .connective k :: back) :
    ∃ t, front.getLast? = some t ∧
      (t.completes = true ∨ ∃ other, t = .connective other ∧ other ≠ k) := by
  rcases List.eq_nil_or_concat front with rfl | ⟨earlier, t, rfl⟩
  · have first := accepted.starts k
    rw [shape] at first
    exact absurd rfl first
  · rw [List.concat_eq_append, List.append_assoc, List.singleton_append] at shape
    refine ⟨t, by rw [List.concat_eq_append, List.getLast?_concat], ?_⟩
    cases t with
    | comparison negated sql => exact .inl rfl
    | raw text values => exact .inl (compared _ (by simp [shape]) rfl)
    | closing => exact .inl rfl
    | opening => exact absurd rfl (not_adjacent (accepted.apart_opening k) shape rfl)
    | connective other =>
      refine .inr ⟨other, rfl, ?_⟩
      rintro rfl
      have apart := accepted.barred (.connective other) (.connective other) (decide_eq_true rfl)
      exact absurd rfl (not_adjacent apart shape rfl)

/-- Behind a connective stands an operand, or the other connective. -/
theorem Accepted.behind (accepted : Accepted inside tokens)
    (compared : ∀ t ∈ tokens, t.mark? = none → t.begins = true)
    (shape : tokens = front ++ .connective k :: back) :
    ∃ t, back.head? = some t ∧
      (t.begins = true ∨ ∃ other, t = .connective other ∧ other ≠ k) := by
  cases back with
  | nil =>
    have last := accepted.ends k
    rw [shape, List.getLast?_concat] at last
    exact absurd rfl last
  | cons t later =>
    refine ⟨t, rfl, ?_⟩
    cases t with
    | comparison negated sql => exact .inl rfl
    | raw text values => exact .inl (compared _ (by simp [shape]) rfl)
    | opening => exact .inl rfl
    | closing =>
      have apart := accepted.barred (.connective k) .closing rfl
      exact absurd rfl (not_adjacent apart shape rfl)
    | connective other =>
      refine .inr ⟨other, rfl, ?_⟩
      rintro rfl
      have apart := accepted.barred (.connective other) (.connective other) (decide_eq_true rfl)
      exact absurd rfl (not_adjacent apart shape rfl)

end

end Token

theorem Token.Spoken.compared {t : Token} (spoken : t.Spoken calm) (unmarked : t.mark? = none) :
    t.completes = true ∧ t.begins = true := by
  cases t with
  | comparison negated sql => exact ⟨rfl, rfl⟩
  | raw text values => exact absurd spoken id
  | _ => cases unmarked

namespace Condition

variable {c : Condition}

theorem Spoken.accepted (spoken : c.Spoken calm) {sql : Sql} (built : c.build = .ok sql) :
    Token.Accepted (fun one two => c.tokens.any (Token.holds one two)) c.tokens := by
  have faultless := (build_eq_ok.mp built).1
  rw [fault?_eq_verdict spoken.legible] at faultless
  exact Token.accepted_of_verdict faultless

/-- Beside each connective of an accepted condition stands an operand or the other connective. All
connectives have operands on both sides exactly when no two of them are neighbours. -/
theorem neighbours_of_build (o : Owner) (calls : List ConditionCall)
    (spoken : ConditionCall.AllUse identifiers calls) {sql : Sql}
    (built : (written o calls).build = .ok sql) :
    (∀ front k back, (written o calls).tokens = front ++ .connective k :: back →
        (∃ t, front.getLast? = some t ∧
          (t.completes = true ∨ ∃ other, t = .connective other ∧ other ≠ k)) ∧
        ∃ t, back.head? = some t ∧
          (t.begins = true ∨ ∃ other, t = .connective other ∧ other ≠ k)) ∧
      (Token.Anchored (written o calls).tokens ↔
        ∀ k other, Token.adjacent (.connective k) (.connective other)
          (written o calls).tokens = false) := by
  have kept := written_spoken calm_closed o spoken
  have accepted := kept.accepted built
  have compared := fun t token => (kept.tokens t token).compared
  have sides : ∀ front k back, (written o calls).tokens = front ++ .connective k :: back →
      (∃ t, front.getLast? = some t ∧
        (t.completes = true ∨ ∃ other, t = .connective other ∧ other ≠ k)) ∧
      ∃ t, back.head? = some t ∧
        (t.begins = true ∨ ∃ other, t = .connective other ∧ other ≠ k) := by
    intro front k back shape
    exact ⟨accepted.before (fun t token unmarked => (compared t token unmarked).1) shape,
      accepted.behind (fun t token unmarked => (compared t token unmarked).2) shape⟩
  refine ⟨sides, ?_⟩
  constructor
  · intro anchored k other
    rw [← Bool.not_eq_true, Token.adjacent_iff]
    rintro ⟨front, t, u, back, shape, first, second⟩
    rw [Token.mark?_eq_connective.mp first, Token.mark?_eq_connective.mp second] at shape
    obtain ⟨_, _, next, begins⟩ := anchored front k _ shape
    cases next
    cases begins
  · intro apart front k back shape
    constructor
    · obtain ⟨t, last, completes | ⟨other, rfl, _⟩⟩ := (sides front k back shape).1
      · exact ⟨t, last, completes⟩
      · obtain ⟨earlier, rfl⟩ := List.getLast?_eq_some_iff.mp last
        rw [List.append_assoc, List.singleton_append] at shape
        exact absurd rfl (Token.not_adjacent (apart other k) shape rfl)
    · obtain ⟨t, next, begins | ⟨other, rfl, _⟩⟩ := (sides front k back shape).2
      · exact ⟨t, next, begins⟩
      · obtain ⟨later, rfl⟩ := List.head?_eq_some_iff.mp next
        exact absurd rfl (Token.not_adjacent (apart k other) shape rfl)

end Condition

/-- Two comparisons with one connective between them. -/
def conjunction : List ConditionCall :=
  [.col (.str "a"), .compare .equal (.int 1), .connect .and, .col (.str "b"), .isNull]

theorem Condition.neighbours_of_build_conjunction :
    ConditionCall.AllUse identifiers conjunction ∧
      (written ⟨⟨.text (.kind .sqlite), .queries⟩, none⟩ conjunction).build =
        .ok [.literal "a = ", .slot (.int 1), .literal " AND ", .literal "b IS NULL"] ∧
      Token.Anchored (written ⟨⟨.text (.kind .sqlite), .queries⟩, none⟩ conjunction).tokens := by
  have spoken : ConditionCall.AllUse identifiers conjunction := by
    refine ⟨?_, nofun, trivial, ?_, trivial, trivial⟩
    · rintro name ⟨⟩
      exact ⟨by decide, List.all_eq_true.mp rfl⟩
    · rintro name ⟨⟩
      exact ⟨by decide, List.all_eq_true.mp rfl⟩
  have built : (written ⟨⟨.text (.kind .sqlite), .queries⟩, none⟩ conjunction).build =
      .ok [.literal "a = ", .slot (.int 1), .literal " AND ", .literal "b IS NULL"] := rfl
  refine ⟨spoken, built, (neighbours_of_build _ conjunction spoken built).2.mpr fun k other => ?_⟩
  cases k <;> cases other <;> rfl

/-- Two comparisons with two connectives between them. -/
def dangling : List ConditionCall :=
  [.col (.str "a"), .compare .equal (.int 1), .connect .and, .connect .or, .col (.str "b"),
    .compare .equal (.int 2)]

/-- The grammar accepts one connective right behind the other. -/
theorem Condition.build_dangling :
    ConditionCall.AllUse identifiers dangling ∧
      (written ⟨⟨.text (.kind .sqlite), .queries⟩, none⟩ dangling).build.map Sql.text =
        .ok "a = ? AND  OR b = ?" ∧
      ¬ Token.Anchored (written ⟨⟨.text (.kind .sqlite), .queries⟩, none⟩ dangling).tokens := by
  refine ⟨⟨?_, nofun, trivial, trivial, ?_, nofun, trivial⟩, rfl, fun anchored => ?_⟩
  · rintro name ⟨⟩
    exact ⟨by decide, List.all_eq_true.mp rfl⟩
  · rintro name ⟨⟩
    exact ⟨by decide, List.all_eq_true.mp rfl⟩
  · obtain ⟨_, _, next, begins⟩ := anchored [.comparison false [.literal "a = ", .slot (.int 1)]]
      .and _ rfl
    cases next
    cases begins

end SqlBuilder
