import SqlBuilder.Proofs.Call.Attempt
import SqlBuilder.Proofs.Call.Diction
import SqlBuilder.Proofs.Select.Rendering

set_option autoImplicit false

namespace SqlBuilder

/-- The values that are handed in to be compared with or to fill a fragment. -/
def ConditionCall.operands : ConditionCall → List Value
  | .raw _ given => given
  | .compare _ v => [v]
  | .like v => [v]
  | .between low high => [low, high]
  | .oneOf given => given
  | .inPart _ v => [v]
  | _ => []

/-- The values of a row, when it is one. -/
def Value.cells (row : Value) : List Value := Entries.values (row.entries?.getD [])

def InsertCall.operands : InsertCall → List Value
  | .row entries => entries.cells
  | .rows items => (items.items?.getD []).flatMap Value.cells
  | _ => []

def UpdateCall.operands : UpdateCall → List Value
  | .assign row => row.cells
  | _ => []

/-- The values that the caller has handed in with the operation itself. -/
def Attempt.operands : Attempt → List Value
  | .condition _ call _ => call.operands
  | .statement _ (.insert call) _ => call.operands
  | .statement _ (.update call) _ => call.operands
  | _ => []

/-- One of the attempts has succeeded with the value as an operand. -/
def Given (attempts : List Attempt) (v : Value) : Prop :=
  ∃ a ∈ attempts, a.succeeded = true ∧ v ∈ a.operands

/-- The value was bound before, or it can be bound by a condition and was given. -/
def Sourced (before : List Value) (attempts : List Attempt) (v : Value) : Prop :=
  v ∈ before ∨ v.isScalar = true ∧ Given attempts v

section

variable {before between : List Value} {attempts more : List Attempt} {v : Value}

theorem Given.mono (given : Given attempts v) (sub : attempts ⊆ more) : Given more v := by
  obtain ⟨a, member, succeeded, operand⟩ := given
  exact ⟨a, sub member, succeeded, operand⟩

/-- No other values are bound than before. -/
theorem Sourced.of_same {after : List Value} (same : after = before) :
    ∀ v ∈ after, Sourced before attempts v := fun _ member => .inl (same ▸ member)

theorem Sourced.mono (sourced : Sourced before attempts v) (sub : attempts ⊆ more) :
    Sourced before more v :=
  sourced.imp_right fun given => ⟨given.1, given.2.mono sub⟩

theorem Sourced.cons {a : Attempt} (sourced : Sourced before attempts v) :
    Sourced before (a :: attempts) v :=
  sourced.mono (List.subset_cons_self a attempts)

theorem Sourced.trans (later : Sourced between more v)
    (first : ∀ v ∈ between, Sourced before attempts v) : Sourced before (attempts ++ more) v := by
  rcases later with early | late
  · exact (first v early).mono (List.subset_append_left attempts more)
  · exact (Sourced.mono (.inr late) (List.subset_append_right attempts more))

/-- What is sourced after a run and after what comes behind it is sourced after both. -/
theorem Sourced.andThen {σ : Type} (bound : σ → List Value) {o : Outcome σ}
    {next : σ → Outcome σ} (first : ∀ v ∈ bound o.state, Sourced before attempts v)
    (second : ∀ v ∈ bound (next o.state).state, Sourced (bound o.state) more v) :
    ∀ v ∈ bound (o.andThen next).state,
      Sourced before (attempts ++ if o.succeeded then more else []) v := by
  intro v member
  cases failed : o.failure with
  | some e =>
    rw [Outcome.andThen_of_failure o next e failed] at member
    exact (first v member).mono (List.subset_append_left _ _)
  | none =>
    have succeeded : o.succeeded = true := by rw [Outcome.succeeded, failed, Option.isNone_none]
    rw [(Outcome.andThen_of_success o next failed).1] at member
    rw [if_pos succeeded]
    exact (second v member).trans first

end

namespace Condition

variable {c : Condition}

theorem values_compare (sql : Sql) : (c.compare sql).values = c.values ++ sql.values := by
  have written : (Token.comparison c.negating sql).sql.values = sql.values := by
    cases c.negating <;> rfl
  rw [← written]
  exact values_push _ c

theorem values_connect (w : Connective) : (c.push (.connective w)).values = c.values := by
  rw [values_push]
  exact List.append_nil _

theorem values_openGroup : c.openGroup.values = c.values := by
  rw [openGroup, values_push]
  exact List.append_nil _

theorem values_closeGroup : c.closeGroup.values = c.values := by
  rw [closeGroup, values_push]
  exact List.append_nil _

theorem values_toggleGroup : c.toggleGroup.values = c.values := by
  unfold toggleGroup
  split
  · exact values_openGroup
  · exact values_closeGroup

/-- An operand that is bound is the scalar that was given. -/
theorem scalar_of_operand {v w : Value} (accepted : isOperand w = true)
    (member : v ∈ (operand w).values) : v.isScalar = true ∧ v = w := by
  cases w with
  | ref column => cases member
  | _ =>
    have same := List.mem_singleton.mp member
    subst same
    exact ⟨accepted, rfl⟩

/-- An operation that pushes what it binds or fails. -/
theorem sourced_ofExcept {o : Owner} {call : ConditionCall} {x : Except Error Condition}
    {inside : List Attempt} (ran : call.run o c = .ofExcept c x)
    (binds : ∀ d, x = .ok d →
      ∀ v ∈ d.values, v ∈ c.values ∨ v.isScalar = true ∧ v ∈ call.operands) :
    ∀ v ∈ (call.run o c).state.values,
      Sourced c.values (.condition o call c :: inside) v := by
  intro v member
  cases computed : x with
  | error e =>
    rw [ran, computed] at member
    exact .inl member
  | ok d =>
    rw [ran, computed] at member
    have succeeded : (Attempt.condition o call c).succeeded = true := by
      rw [Attempt.succeeded, ran, computed]
      rfl
    exact (binds d computed v member).imp_right fun bound =>
      ⟨bound.1, _, List.mem_cons_self, succeeded, bound.2⟩

/-- A comparison binds operands. -/
theorem bound_compare {sql : Sql} {operands : List Value}
    (own : ∀ v ∈ sql.values, v.isScalar = true ∧ v ∈ operands) :
    ∀ v ∈ (c.compare sql).values, v ∈ c.values ∨ v.isScalar = true ∧ v ∈ operands := by
  intro v member
  rw [values_compare] at member
  exact (List.mem_append.mp member).imp_right (own v)

theorem bound_one {front : Piece} {w : Value} (silent : front.values = [])
    (accepted : isOperand w = true) :
    ∀ v ∈ Sql.values [front, operand w], v.isScalar = true ∧ v ∈ [w] := by
  intro v member
  rw [Sql.values_cons, silent, List.nil_append, Sql.values_cons, Sql.values_nil,
    List.append_nil] at member
  obtain ⟨scalar, rfl⟩ := scalar_of_operand accepted member
  exact ⟨scalar, List.mem_singleton_self v⟩

theorem bound_oneOf {column : String} {values : List Value}
    (accepted : ∀ v ∈ values, isOperand v = true) :
    ∀ v ∈ Sql.values (.literal (column ++ " IN (") ::
      Sql.joinWith ", " (values.map fun v => [operand v]) ++ [.literal ")"]),
      v.isScalar = true ∧ v ∈ values := by
  intro v member
  have listed : v ∈ (values.map fun v => [operand v]).flatMap Sql.values := by
    rw [← Sql.values_joinWith ", "]
    simpa [Piece.values] using member
  obtain ⟨_, given, inside⟩ := List.mem_flatMap.mp listed
  obtain ⟨w, member, rfl⟩ := List.mem_map.mp given
  rw [Sql.values_cons, Sql.values_nil, List.append_nil] at inside
  obtain ⟨scalar, rfl⟩ := scalar_of_operand (accepted w member) inside
  exact ⟨scalar, member⟩

theorem sourced_runPart {o : Owner} {part : DatePart} {w : Value} {inside : List Attempt} :
    ∀ v ∈ (c.runPart o part w).state.values,
      Sourced c.values (.condition o (.inPart part w) c :: inside) v := by
  intro v member
  rcases runPart_eq c o part w with ⟨column, kind, _, accepted, _, ran⟩ | ⟨e, ran⟩
  · have succeeded : (Attempt.condition o (.inPart part w) c).succeeded = true := by
      rw [Attempt.succeeded, ConditionCall.run, ran]
      rfl
    rw [ran] at member
    have own : ∀ v ∈ Sql.values [.extract kind part column, .literal " = ", operand w],
        v.isScalar = true ∧ v ∈ [w] := by
      have silent : (Piece.literal " = ").values = [] := rfl
      exact bound_one silent (isOperand_of_acceptsPart accepted)
    exact (bound_compare own v member).imp_right fun bound =>
      ⟨bound.1, _, List.mem_cons_self, succeeded, bound.2⟩
  · rw [ran] at member
    exact .inl member

end Condition

/-- A condition of a clause that there may be. -/
theorem Select.conditionValues_getD (f : Option Condition) :
    (f.getD .blank).values = conditionValues f := by
  cases f <;> rfl

namespace Select

variable {s : Select} {attempts : List Attempt}

theorem mem_values {v : Value} : v ∈ s.values ↔
    (∃ j ∈ s.joins, v ∈ j.condition.values) ∨ v ∈ conditionValues s.filter ∨
      v ∈ conditionValues s.having ∨ ∃ u ∈ s.unions, v ∈ u.query.values := by
  simp only [values, List.mem_append, List.mem_flatMap, or_assoc]

/-- An operation that fails or leaves the conditions and the unions as they are. -/
theorem sourced_ofExcept {x : Except Error Select}
    (same : ∀ t, x = .ok t → t.values = s.values) :
    ∀ v ∈ (Outcome.ofExcept s x).state.values, Sourced s.values attempts v := by
  intro v member
  cases computed : x with
  | error e =>
    rw [computed] at member
    exact .inl member
  | ok t =>
    rw [computed] at member
    exact .inl (same t computed ▸ member)

/-- An operation that puts what it has read into a clause without values. -/
theorem sourced_map {α : Type} {x : Except Error α} {f : α → Select}
    (same : ∀ a, (f a).values = s.values) :
    ∀ v ∈ (Outcome.ofExcept s (x.map f)).state.values, Sourced s.values attempts v := by
  apply sourced_ofExcept
  intro t ok
  obtain ⟨a, _, rfl⟩ := Except.map_eq_ok.mp ok
  exact same a

theorem sourced_addJoin {kind : JoinKind} {table : String} {on : Outcome (Option Condition)}
    (condition : ∀ v ∈ conditionValues on.state, Sourced [] attempts v) :
    ∀ v ∈ (s.addJoin kind table on).state.values, Sourced s.values attempts v := by
  intro v member
  simp only [addJoin, Outcome.commit] at member
  split at member
  · simp only [mem_values, List.mem_append, List.mem_singleton] at member
    rcases member with ⟨j, listed | rfl, bound⟩ | rest
    · exact .inl (mem_values.mpr (.inl ⟨j, listed, bound⟩))
    · rw [conditionValues_getD] at bound
      exact (condition v bound).imp_left nofun
    · exact .inl (mem_values.mpr (.inr rest))
  · exact .inl member

theorem sourced_filter {f : Option Condition}
    (condition : ∀ v ∈ conditionValues f, Sourced (conditionValues s.filter) attempts v) :
    ∀ v ∈ values { s with filter := f }, Sourced s.values attempts v := by
  intro v member
  rcases mem_values.mp member with joined | filtered | rest
  · exact .inl (mem_values.mpr (.inl joined))
  · exact (condition v filtered).imp_left fun early => mem_values.mpr (.inr (.inl early))
  · exact .inl (mem_values.mpr (.inr (.inr rest)))

theorem sourced_having {f : Option Condition}
    (condition : ∀ v ∈ conditionValues f, Sourced (conditionValues s.having) attempts v) :
    ∀ v ∈ values { s with having := f }, Sourced s.values attempts v := by
  intro v member
  rcases mem_values.mp member with joined | filtered | having | rest
  · exact .inl (mem_values.mpr (.inl joined))
  · exact .inl (mem_values.mpr (.inr (.inl filtered)))
  · exact (condition v having).imp_left fun early => mem_values.mpr (.inr (.inr (.inl early)))
  · exact .inl (mem_values.mpr (.inr (.inr (.inr rest))))

theorem sourced_addUnion {all : Bool} {query : Outcome Select}
    (built : ∀ v ∈ query.state.values, Sourced [] attempts v) :
    ∀ v ∈ (s.addUnion all query).state.values, Sourced s.values attempts v := by
  intro v member
  rcases addUnion_eq s all query with ⟨sql, _, rendered, ran⟩ | ⟨e, ran⟩
  · rw [ran] at member
    rcases mem_values.mp member with joined | filtered | having | ⟨u, listed, bound⟩
    · exact .inl (mem_values.mpr (.inl joined))
    · exact .inl (mem_values.mpr (.inr (.inl filtered)))
    · exact .inl (mem_values.mpr (.inr (.inr (.inl having))))
    · rcases List.mem_append.mp listed with early | last
      · exact .inl (mem_values.mpr (.inr (.inr (.inr ⟨u, early, bound⟩))))
      · rw [List.mem_singleton.mp last] at bound
        have inside : v ∈ query.state.values := values_of_render rendered ▸ bound
        exact (built v inside).imp_left nofun
  · rw [ran] at member
    exact .inl member

end Select

mutual

/-- What a condition binds after a call was bound before, or was given in its course. -/
theorem ConditionCall.sourced_run (o : Owner) : ∀ (call : ConditionCall) (c : Condition),
    ∀ v ∈ (call.run o c).state.values,
      Sourced c.values (.condition o call c :: call.within o c) v
  | .raw fragment values, c => by
    apply Condition.sourced_ofExcept rfl
    intro d ok v member
    obtain ⟨text, _, scalar, rfl⟩ := Condition.addRaw_eq_ok.mp ok
    rw [Condition.values_push] at member
    refine (List.mem_append.mp member).imp_right fun bound => ?_
    have given : v ∈ values := by simpa [Token.sql, Piece.values] using bound
    exact ⟨scalar v given, given⟩
  | .compare s w, c => by
    apply Condition.sourced_ofExcept rfl
    intro d ok
    obtain ⟨column, _, accepted, rfl⟩ := Condition.compareWith_eq_ok.mp ok
    exact Condition.bound_compare (Condition.bound_one rfl accepted)
  | .like w, c => by
    apply Condition.sourced_ofExcept rfl
    intro d ok
    obtain ⟨column, _, accepted, rfl⟩ := Condition.compareWith_eq_ok.mp ok
    exact Condition.bound_compare
      (Condition.bound_one rfl (Condition.isOperand_of_isTextOperand accepted))
  | .between low high, c => by
    apply Condition.sourced_ofExcept rfl
    intro d ok
    obtain ⟨column, _, first, second, rfl⟩ := Condition.between_eq_ok.mp ok
    apply Condition.bound_compare
    intro v member
    simp only [Sql.values_cons, Sql.values_nil, Piece.values, List.nil_append, List.append_nil,
      List.mem_append] at member
    rcases member with least | greatest
    · obtain ⟨scalar, rfl⟩ := Condition.scalar_of_operand first least
      exact ⟨scalar, List.mem_cons_self⟩
    · obtain ⟨scalar, rfl⟩ := Condition.scalar_of_operand second greatest
      exact ⟨scalar, List.mem_cons_of_mem low (List.mem_singleton_self v)⟩
  | .oneOf values, c => by
    apply Condition.sourced_ofExcept rfl
    intro d ok
    obtain ⟨column, _, _, accepted, rfl⟩ := Condition.oneOf_eq_ok.mp ok
    exact Condition.bound_compare (Condition.bound_oneOf accepted)
  | .isNull, c => by
    apply Condition.sourced_ofExcept rfl
    intro d ok
    obtain ⟨column, _, rfl⟩ := Condition.isNull_eq_ok.mp ok
    exact Condition.bound_compare nofun
  | .col name, c => by
    apply Condition.sourced_ofExcept rfl
    intro d ok v member
    obtain ⟨column, _, rfl⟩ := Condition.select_eq_ok.mp ok
    exact .inl member
  | .check, c => by
    apply Condition.sourced_ofExcept rfl
    intro d ok v member
    obtain ⟨_, _, rfl⟩ := Except.map_eq_ok.mp ok
    exact .inl member
  | .inPart part w, c => Condition.sourced_runPart
  | .inSubquery query, c => by
    intro v member
    simp only [ConditionCall.run, ConditionCall.within] at member ⊢
    cases selected : c.column with
    | none =>
      rw [selected] at member
      exact .inl member
    | some column =>
      rw [selected] at member
      exact (query.sourced_compareIn o c (fun sql => by simp [Sql.enclosed, Piece.values]) v
        member).cons
  | .existsIn query, c => fun v member =>
    (query.sourced_compareIn o c (fun sql => by simp [Sql.enclosed, Piece.values]) v member).cons
  | .quantified quantifier operator query, c => by
    intro v member
    simp only [ConditionCall.run, ConditionCall.within] at member ⊢
    cases selected : c.column with
    | none =>
      rw [selected] at member
      exact .inl member
    | some column =>
      rw [selected] at member
      dsimp only at member
      split at member
      · exact (query.sourced_compareIn o c (fun sql => by simp [Sql.enclosed, Piece.values]) v
          member).cons
      · exact .inl member
  | .apply predicate, c => fun v member => (predicate.sourced_apply o c v member).cons
  | .attempt call, c => fun v member => (call.sourced_run o c v member).cons
  | .openGroup, c => .of_same Condition.values_openGroup
  | .closeGroup, c => .of_same Condition.values_closeGroup
  | .toggleGroup, c => .of_same Condition.values_toggleGroup
  | .connect w, c => .of_same (Condition.values_connect w)
  | .negate, c | .values, c | .unknown _, c | .abort .., c => .of_same rfl

theorem ConditionCall.sourced_runAll (o : Owner) :
    ∀ (calls : List ConditionCall) (held : Bool) (c : Condition),
      ∀ v ∈ (ConditionCall.runAll o held calls c).state.values,
        Sourced c.values (ConditionCall.attempts o held calls c) v
  | [], held, c => by
    intro v member
    simp only [ConditionCall.runAll] at member
    exact .inl member
  | call :: rest, held, c => by
    simp only [ConditionCall.runAll, ConditionCall.attempts]
    split
    · exact Sourced.andThen Condition.values (call.sourced_run o c)
        (ConditionCall.sourced_runAll o rest true _)
    · exact fun v member => .inl member

theorem Predicate.sourced_apply (o : Owner) : ∀ (predicate : Predicate) (c : Condition),
    ∀ v ∈ (predicate.apply o c).state.values, Sourced c.values (predicate.attempts o c) v
  | .callback _ calls, c => by
    simp only [Predicate.apply, Predicate.attempts]
    exact ConditionCall.sourced_runAll o calls _ c
  | .other _, c => .of_same rfl

theorem Predicate.sourced_extend (driver : Driver) (clause : Clause) :
    ∀ (predicate : Predicate) (f : Option Condition),
      ∀ v ∈ Select.conditionValues (predicate.extend driver clause f).state,
        Sourced (Select.conditionValues f)
          (predicate.attempts ⟨driver, none⟩ (f.getD .blank)) v
  | .callback _ calls, f => by
    intro v member
    have ran := ConditionCall.sourced_runAll ⟨driver, none⟩ calls
    simp only [Predicate.extend, Predicate.attempts] at member ⊢
    rw [← Select.conditionValues_getD]
    cases f with
    | some c => exact ran _ c v member
    | none =>
      simp only [settle, Outcome.commit] at member
      split at member
      · exact ran _ .blank v member
      · cases member
  | .other _, f => .of_same rfl

theorem Subquery.sourced_compareIn (o : Owner) :
    ∀ (query : Subquery) (c : Condition) {wrap : Sql → Sql},
      (∀ sql, (wrap sql).values = sql.values) →
      ∀ v ∈ (query.compareIn o c wrap).state.values, Sourced c.values (query.attempts o) v
  | .other _, c, _, _ => .of_same rfl
  | .callback calls, c, wrap, wraps => by
    intro v member
    simp only [Subquery.compareIn, Subquery.attempts] at member ⊢
    cases offered : o.provider with
    | some other =>
      rw [offered] at member
      exact .inl member
    | none =>
      rw [offered] at member
      dsimp only at member ⊢
      -- a subquery starts with nothing bound, so all that it brings in was given inside of it
      rcases Condition.embed_eq c wrap (SelectCall.runAll o.driver calls .empty) with
        ⟨sql, _, rendered, ran⟩ | ⟨e, ran⟩
      · rw [ran, Condition.values_compare, wraps, Select.values_of_render rendered] at member
        rcases List.mem_append.mp member with early | inside
        · exact .inl early
        · exact (SelectCall.sourced_runAll o.driver calls .empty v inside).imp_left nofun
      · rw [ran] at member
        exact .inl member

theorem FilterCall.sourced_run (driver : Driver) (kind : StatementKind) :
    ∀ (call : FilterCall) (f : Option Condition),
      ∀ v ∈ Select.conditionValues (call.run driver kind f).state,
        Sourced (Select.conditionValues f) (call.within driver f) v
  | .extend predicate, f => predicate.sourced_extend driver _ f
  | .connect w, some _ => .of_same (Condition.values_connect w)
  | .openGroup, f => .of_same
    (Condition.values_openGroup.trans (Select.conditionValues_getD f))
  | .closeGroup, some _ => .of_same Condition.values_closeGroup
  | .toggleGroup, f => .of_same
    (Condition.values_toggleGroup.trans (Select.conditionValues_getD f))
  | .connect _, none | .closeGroup, none => .of_same rfl

theorem SelectCall.sourced_run (driver : Driver) : ∀ (call : SelectCall) (s : Select),
    ∀ v ∈ (call.run driver s).state.values,
      Sourced s.values (.statement driver (.select call) (.select s) :: call.within driver s) v
  | .join kind table on, s => by
    intro v member
    simp only [SelectCall.run, SelectCall.within] at member ⊢
    cases named : table.fullString? with
    | none =>
      rw [named] at member
      exact .inl member
    | some name =>
      rw [named] at member
      exact (Select.sourced_addJoin (on.sourced_extend driver .join none) v member).cons
  | .filter call, s => fun v member =>
    (Select.sourced_filter (call.sourced_run driver .select s.filter) v member).cons
  | .having predicate, s => fun v member =>
    (Select.sourced_having (predicate.sourced_extend driver .having s.having) v member).cons
  | .union all query, s => fun v member => (query.sourced_addTo driver all s v member).cons
  | .attempt call, s => fun v member => (call.sourced_run driver s v member).cons
  | .reset, s => nofun
  | .table name, s => by
    apply Select.sourced_ofExcept
    intro t ok
    unfold Select.setTable at ok
    split at ok <;> cases ok
    rfl
  | .columns names, s => Select.sourced_map fun _ => rfl
  | .limit count, s => Select.sourced_map fun _ => rfl
  | .offset count, s => Select.sourced_map fun _ => rfl
  | .groupBy columns, s => Select.sourced_map fun _ => rfl
  | .orderBy column order, s => by
    apply Select.sourced_ofExcept
    intro t ok
    unfold Select.addOrder at ok
    split at ok
    · cases ok
    · split at ok <;> cases ok
      rfl
  | .check, s => Select.sourced_map fun _ => rfl
  | .logSql, s => by
    intro v member
    simp only [SelectCall.run] at member
    split at member <;> exact .inl member
  | .parse, s => .of_same (congrArg Select.values Select.parsed_state)
  | .property p, s => .of_same (congrArg Select.values Select.callProperty_state)
  | .distinct, s | .logValues, s | .idle, s | .unknown _, s | .abort _, s => .of_same rfl

theorem Subquery.sourced_addTo (driver : Driver) (all : Bool) :
    ∀ (query : Subquery) (s : Select),
      ∀ v ∈ (query.addTo driver all s).state.values,
        Sourced s.values (query.attempts ⟨driver, none⟩) v
  | .other _, s => .of_same rfl
  | .callback calls, s => by
    simp only [Subquery.addTo, Subquery.attempts]
    exact Select.sourced_addUnion (SelectCall.sourced_runAll driver calls .empty)

theorem SelectCall.sourced_runAll (driver : Driver) : ∀ (calls : List SelectCall) (s : Select),
    ∀ v ∈ (SelectCall.runAll driver calls s).state.values,
      Sourced s.values (SelectCall.attempts driver calls s) v
  | [], s => by
    intro v member
    simp only [SelectCall.runAll] at member
    exact .inl member
  | call :: rest, s => by
    simp only [SelectCall.runAll, SelectCall.attempts]
    exact Sourced.andThen Select.values (call.sourced_run driver s)
      (SelectCall.sourced_runAll driver rest _)

end

end SqlBuilder
