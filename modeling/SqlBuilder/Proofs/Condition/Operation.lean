import SqlBuilder.Call.Run

set_option autoImplicit false

namespace SqlBuilder

/-- Either all values pass a guard, or the first that does not is found. -/
theorem Value.find?_not_cases (accepts : Value → Bool) (values : List Value) :
    ((values.find? fun v => !accepts v) = none ∧ ∀ v ∈ values, accepts v = true) ∨
      ∃ v, (values.find? fun v => !accepts v) = some v ∧ ¬ ∀ v ∈ values, accepts v = true := by
  cases found : values.find? fun v => !accepts v with
  | none => exact .inl ⟨rfl, by simpa using found⟩
  | some v =>
    refine .inr ⟨v, rfl, fun accepted => ?_⟩
    have refused := List.find?_some found
    rw [accepted v (List.mem_of_find?_eq_some found)] at refused
    cases refused

namespace Condition

variable {c d : Condition}

theorem withColumn_eq_ok {next : String → Except Error Condition} :
    c.withColumn next = .ok d ↔ ∃ column, c.column = some column ∧ next column = .ok d := by
  unfold withColumn
  cases c.column <;> simp

theorem select_eq_ok {name : Value} :
    c.select name = .ok d ↔ ∃ s, name.fullString? = some s ∧ { c with column := some s } = d := by
  unfold select
  cases name.fullString? <;> simp

theorem addRaw_eq_ok {fragment : Value} {values : List Value} :
    c.addRaw fragment values = .ok d ↔
      ∃ text, fragment.fullString? = some text ∧ (∀ v ∈ values, v.isScalar = true) ∧
        c.push (.raw text values) = d := by
  unfold addRaw
  cases fragment.fullString? with
  | none => simp
  | some text =>
    rcases Value.find?_not_cases Value.isScalar values with ⟨found, scalar⟩ | ⟨v, found, refused⟩
    · simp only [found, Except.ok.injEq, Option.some.injEq, exists_eq_left']
      exact ⟨fun pushed => ⟨scalar, pushed⟩, And.right⟩
    · simp only [found, reduceCtorEq, Option.some.injEq, false_iff, not_exists, not_and]
      intro _ _ scalar
      exact absurd scalar refused

theorem compareWith_eq_ok {sign : String} {part : Part} {accepts : Value → Bool} {v : Value} :
    c.compareWith sign part accepts v = .ok d ↔
      ∃ column, c.column = some column ∧ accepts v = true ∧
        c.compare [.literal (column ++ " " ++ sign ++ " "), operand v] = d := by
  rw [compareWith, withColumn_eq_ok]
  refine exists_congr fun column => and_congr_right fun _ => ?_
  cases accepts v <;> simp

theorem between_eq_ok {low high : Value} :
    c.between low high = .ok d ↔
      ∃ column, c.column = some column ∧ isOperand low = true ∧ isOperand high = true ∧
        c.compare [.literal (column ++ " BETWEEN "), operand low, .literal " AND ",
          operand high] = d := by
  rw [between, withColumn_eq_ok]
  refine exists_congr fun column => and_congr_right fun _ => ?_
  cases isOperand low <;> cases isOperand high <;> simp

theorem oneOf_eq_ok {values : List Value} :
    c.oneOf values = .ok d ↔
      ∃ column, c.column = some column ∧ values ≠ [] ∧ (∀ v ∈ values, isOperand v = true) ∧
        c.compare (.literal (column ++ " IN (") ::
          Sql.joinWith ", " (values.map fun v => [operand v]) ++ [.literal ")"]) = d := by
  rw [oneOf, withColumn_eq_ok]
  refine exists_congr fun column => and_congr_right fun _ => ?_
  cases values with
  | nil => simp
  | cons v rest =>
    simp only [List.isEmpty_cons, Bool.false_eq_true, ↓reduceIte, ne_eq, reduceCtorEq,
      not_false_eq_true, true_and]
    rcases Value.find?_not_cases isOperand (v :: rest) with
      ⟨found, accepted⟩ | ⟨u, found, refused⟩
    · simp only [found, Except.ok.injEq]
      exact ⟨fun compared => ⟨accepted, compared⟩, And.right⟩
    · simp only [found, reduceCtorEq, false_iff, not_and]
      intro accepted
      exact absurd accepted refused

theorem isNull_eq_ok :
    c.isNull = .ok d ↔
      ∃ column, c.column = some column ∧ c.compare [.literal (column ++ " IS NULL")] = d := by
  rw [isNull, withColumn_eq_ok]
  simp

/-- A date part is compared when there is a column, an operand and a dialect for it. -/
theorem runPart_eq (c : Condition) (o : Owner) (part : DatePart) (v : Value) :
    (∃ column kind, c.column = some column ∧ acceptsPart part v = true ∧
        o.driver.kind = .ok kind ∧
        c.runPart o part v = ⟨c.comparePart kind part column v, [.dialect kind], none⟩) ∨
      ∃ e, c.runPart o part v = .fail e c := by
  unfold runPart
  cases selected : c.column with
  | none => exact .inr ⟨_, rfl⟩
  | some column =>
    cases accepted : acceptsPart part v with
    | false => exact .inr ⟨_, rfl⟩
    | true =>
      cases resolved : o.driver.kind with
      | error e => exact .inr ⟨e, rfl⟩
      | ok kind => exact .inl ⟨column, kind, rfl, rfl, rfl, rfl⟩

/-- Embedding succeeds exactly when the subquery was built and renders. -/
theorem embed_eq (c : Condition) (wrap : Sql → Sql) (query : Outcome Select) :
    (∃ sql, query.failure = none ∧ query.state.render = .ok sql ∧
        c.embed wrap query = ⟨c.compare (wrap sql), query.notices, none⟩) ∨
      ∃ e, c.embed wrap query = ⟨c, query.notices, some e⟩ := by
  unfold embed
  cases built : query.failure with
  | some e => exact .inr ⟨e, rfl⟩
  | none =>
    cases rendered : query.state.render with
    | error e => exact .inr ⟨e, rfl⟩
    | ok sql => exact .inl ⟨sql, rfl, rfl, rfl⟩

/-- Every operand of a date part is one that any comparison accepts. -/
theorem isOperand_of_acceptsPart {part : DatePart} {v : Value}
    (accepted : acceptsPart part v = true) : isOperand v = true := by
  have text : isTextOperand v = true → isOperand v = true := by
    unfold isTextOperand isOperand Value.isScalar
    cases v.isRef <;> cases v.isFullText <;> simp
  have number : (v.isRef || (v.int?.map part.admits).getD false) = true → isOperand v = true := by
    intro given
    cases v <;> simp_all [isOperand, Value.isRef, Value.int?, Value.isScalar, Value.isNumber]
  cases part
  case date => exact text accepted
  case time => exact text accepted
  all_goals exact number accepted

theorem isOperand_of_isTextOperand {v : Value} (accepted : isTextOperand v = true) :
    isOperand v = true := by
  have whole : acceptsPart .date v = true := accepted
  exact isOperand_of_acceptsPart whole

end Condition

end SqlBuilder
