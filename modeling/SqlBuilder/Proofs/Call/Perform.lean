import SqlBuilder.Call.Perform
import SqlBuilder.Proofs.Call.Interruption
import SqlBuilder.Proofs.Condition.Refinement
import SqlBuilder.Proofs.Statement.Rendering

set_option autoImplicit false

namespace SqlBuilder

open Condition (Parts Work WorkM)
open Condition.Work

section

variable (o : Owner)

/-- A subquery binds its values when nothing of it can fail any more. -/
theorem Subquery.atomic_text (query : Subquery) : Atomic (query.text o) := by
  unfold text
  split
  · exact (steady_throw _).atomic
  · split
    · exact (steady_throw _).atomic
    · exact (steady_notify _).bind_atomic fun _ => (steady_ofExcept _).bind_atomic fun _ =>
        (steady_ofExcept _).bind_atomic fun _ =>
          Certain.atomic (.bind (certain_update _) fun _ => certain_pure _)

/-- The dialect is selected before the operand is bound. -/
theorem Condition.Work.atomic_comparePart (part : DatePart) (v : Value) :
    Atomic (comparePart o part v) := by
  refine steady_requireColumn.bind_atomic fun _ => (steady_require _ _).bind_atomic fun _ =>
    (steady_ofExcept _).bind_atomic fun _ => (steady_notify _).bind_atomic fun _ => ?_
  exact Certain.atomic (.bind (certain_bindOperand v) fun _ => certain_push _)

/-- A call that runs no callback on the condition changes none of its parts when it fails. -/
theorem ConditionCall.atomic_perform {call : ConditionCall} (step : call.IsStep) :
    Atomic (call.perform o) := by
  cases call with
  | apply predicate =>
    cases predicate with
    | callback parameters calls => exact step.elim
    | other v => exact (steady_throw _).atomic
  | col name => exact atomic_select name
  | raw fragment values => exact atomic_addRaw fragment values
  | negate => exact (certain_update _).atomic
  | openGroup => exact certain_openGroup.atomic
  | closeGroup => exact certain_closeGroup.atomic
  | toggleGroup => exact certain_toggleGroup.atomic
  | connect k => exact (certain_append _).atomic
  | compare s v => exact atomic_compareWith _ _ _ v
  | like v => exact atomic_compareWith _ _ _ v
  | between low high => exact atomic_between low high
  | oneOf values => exact atomic_oneOf values
  | isNull => exact atomic_isNull
  | inPart part v => exact atomic_comparePart o part v
  | inSubquery query =>
    exact steady_requireColumn.bind_atomic fun _ =>
      (query.atomic_text o).bind_certain fun _ => certain_push _
  | existsIn query => exact (query.atomic_text o).bind_certain fun _ => certain_push _
  | quantified quantifier operator query =>
    rw [perform]
    refine steady_requireColumn.bind_atomic fun _ => ?_
    split
    · exact (query.atomic_text o).bind_certain fun _ => certain_push _
    · exact (steady_throw _).atomic
  | attempt call =>
    rw [perform]
    exact (certain_catch _).atomic
  | check => exact steady_check.atomic
  | values => exact (Steady.bind steady_get fun _ => steady_throw _).atomic
  | unknown name => exact (steady_throw _).atomic
  | abort selecting reason => exact (steady_throw _).atomic

mutual

/-- A call performs its steps. -/
theorem ConditionCall.perform_steps : ∀ call : ConditionCall,
    call.perform o = call.steps.forM (ConditionCall.perform o)
  | .apply predicate => by
    rw [ConditionCall.perform, ConditionCall.steps]
    exact predicate.perform_steps
  | .col .. | .raw .. | .negate | .openGroup | .closeGroup | .toggleGroup | .connect _
  | .compare .. | .like _ | .between .. | .oneOf _ | .isNull | .inPart .. | .inSubquery _
  | .existsIn _ | .quantified .. | .attempt _ | .check | .values | .unknown _ | .abort .. => by
    rw [ConditionCall.steps]
    · exact (forM_singleton _ _).symm
    · nofun

theorem ConditionCall.performAll_steps : ∀ (held : Bool) (calls : List ConditionCall),
    ConditionCall.performAll o held calls =
      (ConditionCall.allSteps held calls).forM (ConditionCall.perform o)
  | held, [] => by
    rw [ConditionCall.allSteps, ConditionCall.performAll]
    rfl
  | held, call :: rest => by
    rw [ConditionCall.performAll, ConditionCall.allSteps]
    split
    · rw [forM_append, ← call.perform_steps, ← ConditionCall.performAll_steps true rest]
    · rw [forM_singleton, ConditionCall.perform]

theorem Predicate.perform_steps : ∀ predicate : Predicate,
    predicate.perform o = predicate.steps.forM (ConditionCall.perform o)
  | .callback parameters calls => by
    rw [Predicate.perform, Predicate.steps]
    exact ConditionCall.performAll_steps (acceptsCondition parameters) calls
  | .other v => by
    rw [Predicate.steps, forM_singleton, ConditionCall.perform]

end

variable {o}

/-- Pushing what is made of a finished subquery is to compare it. -/
theorem Subquery.mirrors_compareIn {w : Work} {c : Condition} (refines : w.parts.Refines c)
    (query : Subquery) (opening : String) :
    w.Mirrors (query.text o >>= fun sql => push (opening ++ sql ++ ")"))
      (query.compareIn o c (Sql.enclosed opening)) := by
  unfold text compareIn
  cases query with
  | other v => exact .fail refines rfl
  | callback calls =>
    dsimp only
    cases o.provider with
    | some v => exact .fail refines rfl
    | none =>
      -- What the callback gave notice of stays noted, whether the rest of it fails or not.
      have noted : notify (SelectCall.runAll o.driver calls .empty).notices w = .ok ()
          ⟨w.parts, w.notices ++ (SelectCall.runAll o.driver calls .empty).notices⟩ := rfl
      unfold Condition.embed Outcome.result
      dsimp only
      cases (SelectCall.runAll o.driver calls .empty).failure with
      | some e =>
        refine .of_error refines ?_
        rw [bind_assoc, bind_apply_of_ok noted]
        rfl
      | none =>
        have built : (MonadExcept.ofExcept (.ok (SelectCall.runAll o.driver calls .empty).state) :
            WorkM Select)
              ⟨w.parts, w.notices ++ (SelectCall.runAll o.driver calls .empty).notices⟩ =
          .ok (SelectCall.runAll o.driver calls .empty).state
            ⟨w.parts, w.notices ++ (SelectCall.runAll o.driver calls .empty).notices⟩ := rfl
        rw [bind_assoc]
        cases rendered : (SelectCall.runAll o.driver calls .empty).state.render with
        | error e =>
          refine .of_error refines ?_
          rw [bind_apply_of_ok noted, bind_assoc, bind_apply_of_ok built, rendered]
          rfl
        | ok sql =>
          refine .compared_of_notices refines (opening ++ sql.text ++ ")")
            (SelectCall.runAll o.driver calls .empty).state.values ?_ ?_ ?_
          · simp [Sql.enclosed, Piece.text, String.append_assoc]
          · simp [Sql.enclosed, Piece.values, Select.values_of_render rendered]
          · rw [bind_apply_of_ok noted, bind_assoc, bind_apply_of_ok built, rendered]
            rfl

/-- The parts go the way of the tokens. -/
theorem Condition.Work.mirrors_comparePart {w : Work} {c : Condition} (refines : w.parts.Refines c)
    (part : DatePart) (v : Value) : w.Mirrors (comparePart o part v) (c.runPart o part v) := by
  unfold comparePart Condition.runPart
  cases chosen : c.column with
  | none => exact .fail refines (bind_apply_of_error (requireColumn_none refines chosen))
  | some column =>
    have first := requireColumn_some refines chosen
    dsimp only
    cases Condition.acceptsPart part v with
    | false =>
      refine .fail refines ?_
      rw [bind_apply_of_ok first]
      rfl
    | true =>
      rw [Bool.not_true, if_neg Bool.false_ne_true]
      cases resolved : o.driver.kind with
      | error e =>
        refine .fail refines ?_
        rw [bind_apply_of_ok first, bind_apply_of_ok (require_true _ w)]
        rfl
      | ok kind =>
        refine .compared_of_notices refines
          (kind.extract part column ++ " = " ++ (Condition.operand v).text)
          (Condition.operand v).values ?_ ?_ ?_
        · simp [Piece.text, String.append_assoc]
        · simp [Piece.values]
        · have asked : (MonadExcept.ofExcept (.ok kind) : WorkM DriverKind) w = .ok kind w := rfl
          have noted : notify [.dialect kind] w =
              .ok () ⟨w.parts, w.notices ++ [.dialect kind]⟩ := rfl
          rw [bind_apply_of_ok first, bind_apply_of_ok (require_true _ w), bind_apply_of_ok asked,
            bind_apply_of_ok noted, bind_apply_of_ok (bindOperand_apply v _)]

mutual

/-- A call does to the parts of a condition what it does to its tokens. -/
theorem ConditionCall.mirrors_perform : ∀ (call : ConditionCall) {w : Work} {c : Condition},
    w.parts.Refines c → w.Mirrors (call.perform o) (call.run o c)
  | .col name, _, _, refines => mirrors_select refines name
  | .raw fragment values, _, _, refines => mirrors_addRaw refines fragment values
  | .negate, _, _, refines => .done refines.negated rfl
  | .openGroup, _, _, refines => mirrors_openGroup refines
  | .closeGroup, _, _, refines => mirrors_closeGroup refines
  | .toggleGroup, _, _, refines => mirrors_toggleGroup refines
  | .connect k, _, _, refines => mirrors_connect refines k
  | .compare s v, _, _, refines => mirrors_compareWith refines _ _ _ v
  | .like v, _, _, refines => mirrors_compareWith refines _ _ _ v
  | .between low high, _, _, refines => mirrors_between refines low high
  | .oneOf values, _, _, refines => mirrors_oneOf refines values
  | .isNull, _, _, refines => mirrors_isNull refines
  | .inPart part v, _, _, refines => mirrors_comparePart refines part v
  | .inSubquery query, w, c, refines => by
    rw [ConditionCall.perform, ConditionCall.run]
    cases chosen : c.column with
    | none => exact .fail refines (bind_apply_of_error (requireColumn_none refines chosen))
    | some column =>
      exact (query.mirrors_compareIn refines (column ++ " IN (")).of_same
        (bind_apply_of_ok (requireColumn_some refines chosen))
  | .existsIn query, _, _, refines => query.mirrors_compareIn refines "EXISTS ("
  | .quantified quantifier operator query, w, c, refines => by
    rw [ConditionCall.perform, ConditionCall.run]
    cases chosen : c.column with
    | none => exact .fail refines (bind_apply_of_error (requireColumn_none refines chosen))
    | some column =>
      refine Mirrors.of_same ?_ (bind_apply_of_ok (requireColumn_some refines chosen))
      cases operator with
      | text sign =>
        cases sign with
        | operator sign => exact query.mirrors_compareIn refines _
        | _ => exact .fail refines rfl
      | _ => exact .fail refines rfl
  | .apply predicate, _, _, refines => by
    rw [ConditionCall.perform, ConditionCall.run]
    exact predicate.mirrors_perform refines
  | .attempt call, _, _, refines => by
    rw [ConditionCall.perform, ConditionCall.run]
    exact (call.mirrors_perform refines).caught
  | .check, _, _, refines => mirrors_check refines
  | .values, _, _, refines => .fail refines rfl
  | .unknown name, _, _, refines => .fail refines rfl
  | .abort selecting reason, _, _, refines => .fail refines rfl

theorem ConditionCall.mirrors_performAll : ∀ (held : Bool) (calls : List ConditionCall) {w : Work}
    {c : Condition}, w.parts.Refines c →
    w.Mirrors (ConditionCall.performAll o held calls) (ConditionCall.runAll o held calls c)
  | held, [], _, _, refines => by
    rw [ConditionCall.performAll, ConditionCall.runAll]
    exact .done refines rfl
  | held, call :: rest, _, _, refines => by
    rw [ConditionCall.performAll, ConditionCall.runAll]
    split
    · exact (call.mirrors_perform refines).andThen fun v later =>
        ConditionCall.mirrors_performAll true rest later
    · exact .fail refines rfl

theorem Predicate.mirrors_perform : ∀ (predicate : Predicate) {w : Work} {c : Condition},
    w.parts.Refines c → w.Mirrors (predicate.perform o) (predicate.apply o c)
  | .callback parameters calls, _, _, refines => by
    rw [Predicate.perform, Predicate.apply]
    exact ConditionCall.mirrors_performAll (acceptsCondition parameters) calls refines
  | .other v, _, _, refines => .fail refines rfl

end

end

/-- Steps fail on a condition, and make `p` of its parts before they do. -/
theorem ConditionCall.forM_failed_iff (o : Owner) (w : Work) {steps : List ConditionCall}
    (plain : ∀ step ∈ steps, step.IsStep) (p : Parts) (e : Error) :
    failureOf (steps.forM (perform o)) w = some e ∧
        (stateAfter (steps.forM (perform o)) w).parts = p ↔
      ∃ completed step rest, steps = completed ++ step :: rest ∧
        failureOf (completed.forM (perform o)) w = none ∧
        (stateAfter (completed.forM (perform o)) w).parts = p ∧
        failureOf (step.perform o) (stateAfter (completed.forM (perform o)) w) = some e := by
  constructor
  · rintro ⟨failed, rfl⟩
    obtain ⟨completed, step, rest, shape, succeeded, stops, left⟩ := failing_forM failed
    have member : step ∈ steps := shape ▸ List.mem_append_right _ List.mem_cons_self
    have kept := atomic_perform o (plain step member) _ e stops
    exact ⟨completed, step, rest, shape, succeeded, by rw [left, kept], stops⟩
  · -- The step that fails leaves what it found, which is what the steps before it have made.
    rintro ⟨completed, step, rest, rfl, succeeded, rfl, stops⟩
    have member : step ∈ completed ++ step :: rest :=
      List.mem_append_right _ List.mem_cons_self
    have kept := atomic_perform o (plain step member) _ e stops
    obtain ⟨failed, left⟩ := stopped_forM rest succeeded stops
    exact ⟨failed, by rw [left, kept]⟩

/-- A subquery that binds a value before it asks for fewer rows than none. -/
def Subquery.boundInVain : Subquery :=
  .callback [.table (.str "u"),
    .filter (.extend (.callback none [.col (.str "b"), .compare .equal (.int 7)])),
    .limit (.int (-1))]

/-- A callback whose last step, in a callback of its own, is a negated test of that subquery. -/
def Predicate.negatedInVain : Predicate :=
  .callback (some [.rest]) [.col (.str "a"), .compare .equal (.int 3), .connect .and, .negate,
    .apply (.callback (some [.positional, .positional]) [.existsIn .boundInVain])]

end SqlBuilder
