import SqlBuilder.Proofs.Call.Legibility
import SqlBuilder.Proofs.Condition.Substance

set_option autoImplicit false

namespace SqlBuilder

mutual

/-- The call closes no group while none is open, and neither does a callback that it runs. -/
def ConditionCall.Tidy (o : Owner) : ConditionCall → Condition → Prop
  | .closeGroup, c => 0 < c.depth
  | .apply predicate, c => predicate.Tidy o c
  | .attempt call, c => call.Tidy o c
  | _, _ => True

/-- The calls of a callback up to the first that fails. -/
def ConditionCall.AllTidy (o : Owner) : Bool → List ConditionCall → Condition → Prop
  | _, [], _ => True
  | held, call :: rest, c =>
    (held || call.standsAlone) = true → call.Tidy o c ∧
      ((call.run o c).failure = none → ConditionCall.AllTidy o true rest (call.run o c).state)

def Predicate.Tidy (o : Owner) : Predicate → Condition → Prop
  | .callback parameters calls, c =>
    ConditionCall.AllTidy o (acceptsCondition parameters) calls c
  | .other _, _ => True

end

namespace Condition

variable {c d : Condition}

/-- Groups are nested when no front of the tokens closes more of them than it opens. -/
theorem nested_iff_depth : c.Nested ↔ ∀ front, front <+: c.tokens → 0 ≤ Token.depth front := by
  constructor
  · intro nested front
    induction front using List.reverseRecOn with
    | nil => exact fun _ => Int.le_refl 0
    | append_singleton front t ih =>
      intro starts
      have before := ih ((List.prefix_append front [t]).trans starts)
      obtain ⟨back, shape⟩ := starts
      rw [Token.depth_append, Token.depth, Token.depth]
      cases t with
      | closing =>
        have opened := nested front back (by rw [← shape, List.append_assoc]; rfl)
        simp only [Token.rise]
        omega
      | opening => simp only [Token.rise]; omega
      | _ => simpa only [Token.rise, Int.add_zero] using before
  · intro level front back shape
    have below := level (front ++ [.closing]) ⟨back, by rw [shape, List.append_assoc]; rfl⟩
    rw [Token.depth_append] at below
    simp only [Token.depth, Token.rise] at below
    omega

theorem Nested.depth_nonneg (nested : c.Nested) : 0 ≤ c.depth :=
  nested_iff_depth.mp nested c.tokens (List.prefix_refl c.tokens)

/-- The same, told by counts. -/
theorem nested_iff_count : c.Nested ↔ ∀ front, front <+: c.tokens →
    front.countP (·.mark? = some .closing) ≤ front.countP (·.mark? = some .opening) := by
  rw [nested_iff_depth]
  refine forall_congr' fun front => forall_congr' fun _ => ?_
  rw [Token.depth_eq_count]
  omega

theorem nested_congr (same : d.tokens = c.tokens) : d.Nested ↔ c.Nested := by
  rw [Nested, Nested, same]

theorem nested_push_other {t : Token} (other : t.mark? ≠ some .closing) :
    (c.push t).Nested ↔ c.Nested := by
  rw [nested_push]
  exact and_iff_left fun closing => absurd closing other

theorem nested_compare (sql : Sql) : (c.compare sql).Nested ↔ c.Nested := by
  have pushed : (c.push (.comparison c.negating sql)).Nested ↔ c.Nested := nested_push_other nofun
  exact (nested_congr rfl).trans pushed

theorem nested_closeGroup : c.closeGroup.Nested ↔ c.Nested ∧ 0 < c.depth := by
  rw [closeGroup, nested_push]
  exact and_congr_right fun _ => ⟨fun opened => opened rfl, fun opened _ => opened⟩

/-- A group that is toggled is closed only while it is open. -/
theorem nested_toggleGroup : c.toggleGroup.Nested ↔ c.Nested := by
  unfold toggleGroup
  split
  · exact nested_push_other nofun
  · next shut =>
    rw [nested_closeGroup]
    refine and_iff_left_of_imp fun nested => ?_
    have level := nested.depth_nonneg
    omega

theorem nested_runPart {o : Owner} {part : DatePart} {v : Value} :
    (c.runPart o part v).state.Nested ↔ c.Nested := by
  rcases runPart_eq c o part v with ⟨column, kind, _, _, _, ran⟩ | ⟨e, ran⟩
  · rw [ran]
    exact nested_compare _
  · rw [ran]
    rfl

theorem nested_embed {wrap : Sql → Sql} {query : Outcome Select} :
    (c.embed wrap query).state.Nested ↔ c.Nested := by
  rcases embed_eq c wrap query with ⟨sql, _, _, ran⟩ | ⟨e, ran⟩
  · rw [ran]
    exact nested_compare _
  · rw [ran]

/-- A subquery counts as one comparison, whatever its own conditions are. -/
theorem nested_compareIn {o : Owner} {query : Subquery} {wrap : Sql → Sql} :
    (query.compareIn o c wrap).state.Nested ↔ c.Nested := by
  cases query with
  | other v => simp only [Subquery.compareIn]; rfl
  | callback calls =>
    simp only [Subquery.compareIn]
    split
    · rfl
    · exact nested_embed

end Condition

/-- An operation that a condition may refuse pushes no closing parenthesis. -/
theorem Condition.nested_ofExcept {c : Condition} {result : Except Error Condition}
    (kept : ∀ d, result = .ok d → (d.Nested ↔ c.Nested)) :
    (Outcome.ofExcept c result).state.Nested ↔ c.Nested := by
  cases result with
  | error e => exact Iff.rfl
  | ok d => exact kept d rfl

section

open Condition (nested_ofExcept nested_compare nested_congr nested_push_other nested_compareIn)

/-- A call that closes no group itself and makes no other call keeps groups as they are. -/
theorem ConditionCall.run_steady (o : Owner) (call : ConditionCall) (c : Condition)
    (notClosing : call ≠ .closeGroup) (notApplying : ∀ predicate, call ≠ .apply predicate)
    (notAttempting : ∀ attempted, call ≠ .attempt attempted) :
    (call.run o c).state.Nested ↔ c.Nested := by
  cases call with
  | closeGroup => exact absurd rfl notClosing
  | apply predicate => exact absurd rfl (notApplying predicate)
  | attempt attempted => exact absurd rfl (notAttempting attempted)
  | col name =>
    apply nested_ofExcept
    intro d selected
    obtain ⟨s, _, rfl⟩ := Condition.select_eq_ok.mp selected
    exact nested_congr rfl
  | raw fragment values =>
    apply nested_ofExcept
    intro d added
    obtain ⟨text, _, _, rfl⟩ := Condition.addRaw_eq_ok.mp added
    exact nested_push_other nofun
  | negate => exact nested_congr rfl
  | openGroup => exact nested_push_other nofun
  | toggleGroup => exact Condition.nested_toggleGroup
  | connect k => exact nested_push_other nofun
  | compare s v =>
    apply nested_ofExcept
    intro d compared
    obtain ⟨column, _, _, rfl⟩ := Condition.compareWith_eq_ok.mp compared
    exact nested_compare _
  | like v =>
    apply nested_ofExcept
    intro d compared
    obtain ⟨column, _, _, rfl⟩ := Condition.compareWith_eq_ok.mp compared
    exact nested_compare _
  | between low high =>
    apply nested_ofExcept
    intro d compared
    obtain ⟨column, _, _, _, rfl⟩ := Condition.between_eq_ok.mp compared
    exact nested_compare _
  | oneOf values =>
    apply nested_ofExcept
    intro d compared
    obtain ⟨column, _, _, _, rfl⟩ := Condition.oneOf_eq_ok.mp compared
    exact nested_compare _
  | isNull =>
    apply nested_ofExcept
    intro d compared
    obtain ⟨column, _, rfl⟩ := Condition.isNull_eq_ok.mp compared
    exact nested_compare _
  | inPart part v => exact Condition.nested_runPart
  | inSubquery query =>
    simp only [run]
    split
    · rfl
    · exact nested_compareIn
  | existsIn query => exact nested_compareIn
  | quantified quantifier operator query =>
    simp only [run]
    split
    · rfl
    · split
      · exact nested_compareIn
      · rfl
  | check =>
    apply nested_ofExcept
    intro d checked
    obtain ⟨_, _, rfl⟩ := Except.map_eq_ok.mp checked
    rfl
  | values => exact Iff.rfl
  | unknown name => exact Iff.rfl
  | abort selecting reason => exact Iff.rfl

end

mutual

theorem ConditionCall.run_nested (o : Owner) : ∀ (call : ConditionCall) (c : Condition),
    (call.run o c).state.Nested ↔ c.Nested ∧ call.Tidy o c
  | .closeGroup, c => Condition.nested_closeGroup
  | .apply predicate, c => predicate.apply_nested o c
  | .attempt call, c => call.run_nested o c
  | .col .., c | .raw .., c | .negate, c | .openGroup, c | .toggleGroup, c | .connect _, c
  | .compare .., c | .like _, c | .between .., c | .oneOf _, c | .isNull, c | .inPart .., c
  | .inSubquery _, c | .existsIn _, c | .quantified .., c | .check, c | .values, c
  | .unknown _, c | .abort .., c => by
    refine (ConditionCall.run_steady o _ c ?_ ?_ ?_).trans (and_iff_left trivial).symm <;> nofun

theorem ConditionCall.runAll_nested (o : Owner) :
    ∀ (held : Bool) (calls : List ConditionCall) (c : Condition),
      (ConditionCall.runAll o held calls c).state.Nested ↔
        c.Nested ∧ ConditionCall.AllTidy o held calls c
  | held, [], c => by
    simp only [ConditionCall.runAll, ConditionCall.AllTidy, Outcome.done, and_true]
  | held, call :: rest, c => by
    have first := call.run_nested o c
    have others := ConditionCall.runAll_nested o true rest (call.run o c).state
    simp only [ConditionCall.runAll, ConditionCall.AllTidy]
    by_cases current : (held || call.standsAlone) = true
    · rw [if_pos current]
      simp only [current, forall_const]
      cases failed : (call.run o c).failure with
      | some e =>
        rw [Outcome.andThen_of_failure _ _ e failed, first]
        simp
      | none =>
        rw [(Outcome.andThen_of_success _ _ failed).1, others, first, and_assoc]
        simp
    · rw [if_neg current]
      simp only [current, Outcome.fail]
      simp

theorem Predicate.apply_nested (o : Owner) : ∀ (predicate : Predicate) (c : Condition),
    (predicate.apply o c).state.Nested ↔ c.Nested ∧ predicate.Tidy o c
  | .callback parameters calls, c =>
    ConditionCall.runAll_nested o (acceptsCondition parameters) calls c
  | .other _, c => by simp only [Predicate.apply, Predicate.Tidy, Outcome.fail, and_true]

end

namespace Condition

theorem written_concat (o : Owner) (calls : List ConditionCall) (call : ConditionCall) :
    written o (calls ++ [call]) = (call.run o (written o calls)).state := by
  rw [written, List.foldl_concat, written]

/-- The groups of a condition are nested when each call has closed what was open at that point. -/
theorem nested_written (o : Owner) (calls : List ConditionCall) :
    (written o calls).Nested ↔
      ∀ before call after, calls = before ++ call :: after → call.Tidy o (written o before) := by
  induction calls using List.reverseRecOn with
  | nil =>
    refine ⟨fun _ before call after shape => ?_, fun _ => nested_blank⟩
    cases before <;> cases shape
  | append_singleton calls last ih =>
    rw [written_concat, last.run_nested, ih]
    constructor
    · rintro ⟨tidy, closing⟩ before call after shape
      rcases List.eq_nil_or_concat after with rfl | ⟨middle, final, rfl⟩
      · obtain ⟨rfl, same⟩ := List.append_inj' shape rfl
        rw [← List.singleton_inj.mp same]
        exact closing
      · rw [List.concat_eq_append, ← List.cons_append, ← List.append_assoc] at shape
        obtain ⟨earlier, _⟩ := List.append_inj' shape rfl
        exact tidy before call middle earlier
    · intro tidy
      refine ⟨fun before call after shape => ?_, tidy calls last [] rfl⟩
      apply tidy before call (after ++ [last])
      rw [shape, List.append_assoc, List.cons_append]

/-- An accepted condition closes as many groups as it opens, in whatever order. No front of its
tokens closes more than it opens exactly when each call has closed what was open at that point. -/
theorem groups_of_build (o : Owner) (calls : List ConditionCall) {sql : Sql}
    (accepted : (written o calls).build = .ok sql) :
    (written o calls).tokens.countP (·.mark? = some .opening) =
        (written o calls).tokens.countP (·.mark? = some .closing) ∧
      ((∀ front, front <+: (written o calls).tokens →
          front.countP (·.mark? = some .closing) ≤ front.countP (·.mark? = some .opening)) ↔
        ∀ before call after, calls = before ++ call :: after →
          call.Tidy o (written o before)) := by
  have level := (checked_of_faultless (build_eq_ok.mp accepted).1).level
  rw [depth, Token.depth_eq_count] at level
  refine ⟨by omega, ?_⟩
  rw [← nested_iff_count, nested_written]

end Condition

/-- A comparison in a group that is toggled twice. -/
def toggledTwice : List ConditionCall :=
  [.toggleGroup, .col (.str "a"), .isNull, .toggleGroup]

theorem Condition.groups_of_build_toggledTwice :
    (written ⟨⟨.text (.kind .sqlite), .queries⟩, none⟩ toggledTwice).build =
        .ok [.literal "(", .literal "a IS NULL", .literal ")"] ∧
      ∀ front, front <+: (written ⟨⟨.text (.kind .sqlite), .queries⟩, none⟩ toggledTwice).tokens →
        front.countP (·.mark? = some .closing) ≤ front.countP (·.mark? = some .opening) := by
  have built : (written ⟨⟨.text (.kind .sqlite), .queries⟩, none⟩ toggledTwice).build =
      .ok [.literal "(", .literal "a IS NULL", .literal ")"] := rfl
  refine ⟨built, (groups_of_build _ toggledTwice built).2.mpr fun before call after shape => ?_⟩
  have member : call ∈ toggledTwice := by
    rw [shape]
    simp
  simp only [toggledTwice, List.mem_cons, List.not_mem_nil, or_false] at member
  rcases member with rfl | rfl | rfl | rfl <;> trivial

/-- A group that is closed before it is opened. -/
def closedFirst : List ConditionCall :=
  [.closeGroup, .col (.str "a"), .compare .equal (.int 1), .openGroup]

/-- The grammar accepts a parenthesis that nothing opened, when one is left open later. -/
theorem Condition.build_closedFirst :
    (written ⟨⟨.text (.kind .sqlite), .queries⟩, none⟩ closedFirst).build.map Sql.text =
        .ok ")a = ?(" ∧
      ¬ ∀ front,
        front <+: (written ⟨⟨.text (.kind .sqlite), .queries⟩, none⟩ closedFirst).tokens →
        front.countP (·.mark? = some .closing) ≤ front.countP (·.mark? = some .opening) := by
  refine ⟨rfl, fun nested => ?_⟩
  have first := nested [.closing] ⟨_, rfl⟩
  exact absurd first (by decide)

/-- What a call on a clause comes to for the condition of the clause. -/
def FilterCall.onCondition : FilterCall → ConditionCall
  | .extend predicate => .apply predicate
  | .connect k => .connect k
  | .openGroup => .openGroup
  | .closeGroup => .closeGroup
  | .toggleGroup => .toggleGroup

namespace FilterCall

variable {driver : Driver} {kind : StatementKind}

theorem run_some (call : FilterCall) (c : Condition) :
    (call.run driver kind (some c)).state =
      some (call.onCondition.run ⟨driver, none⟩ c).state := by
  cases call with
  | extend predicate => cases predicate <;> rfl
  | _ => rfl

/-- A clause without a condition gets a new one, or none when the call fails. -/
theorem run_none (call : FilterCall) :
    (call.run driver kind none).state = none ∨
      (call.run driver kind none).state =
        some (call.onCondition.run ⟨driver, none⟩ .blank).state := by
  cases call with
  | extend predicate =>
    cases predicate with
    | other v => exact .inl rfl
    | callback parameters calls =>
      simp only [run, Predicate.extend, settle, Outcome.commit]
      split
      · exact .inr rfl
      · exact .inl rfl
  | openGroup => exact .inr rfl
  | toggleGroup => exact .inr rfl
  | connect k => exact .inl rfl
  | closeGroup => exact .inl rfl

end FilterCall

end SqlBuilder
