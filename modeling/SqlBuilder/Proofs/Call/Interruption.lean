import SqlBuilder.Proofs.Condition.Operation
import SqlBuilder.Proofs.Outcome

set_option autoImplicit false

namespace SqlBuilder

mutual

/-- The steps of a call: those of the callback that it runs, or else the call itself. -/
def ConditionCall.steps : ConditionCall → List ConditionCall
  | .apply predicate => predicate.steps
  | call => [call]

/-- A callback that calls a condition which it has not been given fails there by itself. -/
def ConditionCall.allSteps : Bool → List ConditionCall → List ConditionCall
  | _, [] => []
  | held, call :: rest =>
    if held || call.standsAlone then call.steps ++ ConditionCall.allSteps true rest
    else [.abort false .noCondition]

def Predicate.steps : Predicate → List ConditionCall
  | .callback parameters calls => ConditionCall.allSteps (acceptsCondition parameters) calls
  | .other v => [.apply (.other v)]

end

/-- The call runs no callback on the condition. -/
def ConditionCall.IsStep : ConditionCall → Prop
  | .apply (.callback ..) => False
  | _ => True

namespace Outcome

variable {σ : Type}

theorem andThen_done_right (o : Outcome σ) : o.andThen done = o := by
  obtain ⟨state, notices, failure⟩ := o
  cases failure with
  | some e => rfl
  | none => simp [andThen, done]

theorem andThen_assoc (o : Outcome σ) (next last : σ → Outcome σ) :
    (o.andThen next).andThen last = o.andThen fun s => (next s).andThen last := by
  obtain ⟨state, notices, failure⟩ := o
  cases failure with
  | some e => rfl
  | none =>
    cases failed : (next state).failure with
    | some e => simp [andThen, failed]
    | none => simp [andThen, failed]

/-- A step that changes the state only when it succeeds keeps it when it fails. -/
theorem ofExcept_refused {s : σ} {x : Except Error σ} {e : Error}
    (failed : (ofExcept s x).failure = some e) : (ofExcept s x).state = s := by
  cases x with
  | ok t => cases failed
  | error e => rfl

end Outcome

section

variable (o : Owner)

namespace ConditionCall

theorem runAll_cons (call : ConditionCall) (rest : List ConditionCall) (c : Condition) :
    runAll o true (call :: rest) c = (call.run o c).andThen (runAll o true rest) := by
  rw [runAll, Bool.true_or, if_pos rfl]

theorem runAll_singleton (call : ConditionCall) (c : Condition) :
    runAll o true [call] c = call.run o c := by
  have stop : runAll o true [] = Outcome.done := by
    funext c
    rw [runAll]
  rw [runAll_cons, stop, Outcome.andThen_done_right]

theorem runAll_append (front back : List ConditionCall) (c : Condition) :
    runAll o true (front ++ back) c = (runAll o true front c).andThen (runAll o true back) := by
  induction front generalizing c with
  | nil => rw [List.nil_append, runAll, Outcome.andThen_done]
  | cons call rest ih =>
    have later : runAll o true (rest ++ back) =
        fun d => (runAll o true rest d).andThen (runAll o true back) := funext ih
    rw [List.cons_append, runAll_cons, later, runAll_cons, Outcome.andThen_assoc]

end ConditionCall

mutual

/-- A call does what its steps do. -/
theorem ConditionCall.run_steps : ∀ (call : ConditionCall) (c : Condition),
    call.run o c = ConditionCall.runAll o true call.steps c
  | .apply predicate, c => by
    rw [ConditionCall.run, ConditionCall.steps]
    exact predicate.apply_steps c
  | .col .., c | .raw .., c | .negate, c | .openGroup, c | .closeGroup, c | .toggleGroup, c
  | .connect _, c | .compare .., c | .like _, c | .between .., c | .oneOf _, c | .isNull, c
  | .inPart .., c | .inSubquery _, c | .existsIn _, c | .quantified .., c | .attempt _, c
  | .check, c | .values, c | .unknown _, c | .abort .., c => by
    rw [ConditionCall.steps, ConditionCall.runAll_singleton]
    nofun

theorem ConditionCall.runAll_steps : ∀ (held : Bool) (calls : List ConditionCall) (c : Condition),
    ConditionCall.runAll o held calls c =
      ConditionCall.runAll o true (ConditionCall.allSteps held calls) c
  | held, [], c => by simp only [ConditionCall.allSteps, ConditionCall.runAll]
  | held, call :: rest, c => by
    rw [ConditionCall.runAll, ConditionCall.allSteps]
    split
    · have later : ConditionCall.runAll o true rest =
          ConditionCall.runAll o true (ConditionCall.allSteps true rest) :=
        funext (ConditionCall.runAll_steps true rest)
      rw [ConditionCall.runAll_append, ← call.run_steps, ← later]
    · rw [ConditionCall.runAll_singleton, ConditionCall.run]

theorem Predicate.apply_steps : ∀ (predicate : Predicate) (c : Condition),
    predicate.apply o c = ConditionCall.runAll o true predicate.steps c
  | .callback parameters calls, c => by
    rw [Predicate.apply, Predicate.steps]
    exact ConditionCall.runAll_steps (acceptsCondition parameters) calls c
  | .other v, c => by
    rw [Predicate.steps, ConditionCall.runAll_singleton, ConditionCall.run]

end

mutual

theorem ConditionCall.isStep_steps : ∀ call : ConditionCall, ∀ step ∈ call.steps, step.IsStep
  | .apply predicate => by
    rw [ConditionCall.steps]
    exact predicate.isStep_steps
  | .col .. | .raw .. | .negate | .openGroup | .closeGroup | .toggleGroup | .connect _
  | .compare .. | .like _ | .between .. | .oneOf _ | .isNull | .inPart .. | .inSubquery _
  | .existsIn _ | .quantified .. | .attempt _ | .check | .values | .unknown _ | .abort .. => by
    intro step member
    rw [ConditionCall.steps, List.mem_singleton] at member
    · rw [member]
      trivial
    · nofun

theorem ConditionCall.isStep_allSteps : ∀ (held : Bool) (calls : List ConditionCall),
    ∀ step ∈ ConditionCall.allSteps held calls, step.IsStep
  | held, [] => by
    rw [ConditionCall.allSteps]
    nofun
  | held, call :: rest => by
    rw [ConditionCall.allSteps]
    split
    · intro step member
      rcases List.mem_append.mp member with first | later
      · exact call.isStep_steps step first
      · exact ConditionCall.isStep_allSteps true rest step later
    · intro step member
      rw [List.mem_singleton.mp member]
      trivial

theorem Predicate.isStep_steps : ∀ predicate : Predicate, ∀ step ∈ predicate.steps, step.IsStep
  | .callback parameters calls => by
    rw [Predicate.steps]
    exact ConditionCall.isStep_allSteps (acceptsCondition parameters) calls
  | .other v => by
    intro step member
    rw [Predicate.steps, List.mem_singleton] at member
    rw [member]
    trivial

end

variable {o}

theorem Subquery.compareIn_refused {query : Subquery} {c : Condition} {wrap : Sql → Sql} {e : Error}
    (failed : (query.compareIn o c wrap).failure = some e) :
    (query.compareIn o c wrap).state = c := by
  cases query with
  | other v =>
    rw [compareIn]
    rfl
  | callback calls =>
    rw [compareIn] at failed ⊢
    split at failed
    · rfl
    · rcases Condition.embed_eq c wrap (SelectCall.runAll o.driver calls .empty) with
        ⟨_, _, _, ran⟩ | ⟨_, ran⟩
      · rw [ran] at failed
        cases failed
      · rw [ran]

/-- A step that fails leaves the condition as it was. -/
theorem ConditionCall.run_refused {call : ConditionCall} (step : call.IsStep) {c : Condition}
    {e : Error} (failed : (call.run o c).failure = some e) : (call.run o c).state = c := by
  cases call with
  | apply predicate =>
    cases predicate with
    | callback parameters calls => exact step.elim
    | other v => rfl
  | negate => cases failed
  | openGroup => cases failed
  | closeGroup => cases failed
  | toggleGroup => cases failed
  | connect k => cases failed
  | attempt call =>
    rw [run] at failed
    cases failed
  | inPart part v =>
    rcases Condition.runPart_eq c o part v with ⟨_, _, _, _, _, ran⟩ | ⟨_, ran⟩
    · rw [run, ran] at failed
      cases failed
    · rw [run, ran]
      rfl
  | inSubquery query =>
    rw [run] at failed ⊢
    split at failed
    · rfl
    · exact query.compareIn_refused failed
  | existsIn query => exact query.compareIn_refused failed
  | quantified quantifier operator query =>
    rw [run] at failed ⊢
    split at failed
    · rfl
    · split at failed
      · exact query.compareIn_refused failed
      · rfl
  | values => rfl
  | unknown name => rfl
  | abort selecting reason => rfl
  | _ => exact Outcome.ofExcept_refused failed

/-- Steps that fail have succeeded up to the one that fails, and have stopped there. -/
theorem ConditionCall.exists_failing {steps : List ConditionCall} {c : Condition} {e : Error}
    (failed : (runAll o true steps c).failure = some e) :
    ∃ completed step rest, steps = completed ++ step :: rest ∧
      (runAll o true completed c).failure = none ∧
      (step.run o (runAll o true completed c).state).failure = some e ∧
      (runAll o true steps c).state = (step.run o (runAll o true completed c).state).state := by
  induction steps generalizing c with
  | nil =>
    rw [runAll] at failed
    cases failed
  | cons call rest ih =>
    rw [runAll_cons] at failed ⊢
    cases first : (call.run o c).failure with
    | some reason =>
      rw [Outcome.andThen_of_failure _ _ reason first] at failed ⊢
      refine ⟨[], call, rest, rfl, ?_, ?_, ?_⟩ <;> rw [runAll]
      · rfl
      · exact failed
      · rfl
    | none =>
      obtain ⟨state, failure⟩ := Outcome.andThen_of_success _ (runAll o true rest) first
      rw [failure] at failed
      obtain ⟨completed, step, later, shape, succeeded, stops, left⟩ := ih failed
      obtain ⟨state', failure'⟩ := Outcome.andThen_of_success _ (runAll o true completed) first
      refine ⟨call :: completed, step, later, by rw [shape, List.cons_append], ?_, ?_, ?_⟩
      · rw [runAll_cons, failure', succeeded]
      · rw [runAll_cons, state', stops]
      · rw [runAll_cons, state, state', left]

/-- The callback fails on `c` with `e` and leaves `d`: the steps before the one that fails have
succeeded and made `d` of `c`. -/
def Predicate.Interrupted (o : Owner) (predicate : Predicate) (c d : Condition) (e : Error) :
    Prop :=
  ∃ completed step rest, predicate.steps = completed ++ step :: rest ∧
    (ConditionCall.runAll o true completed c).failure = none ∧
    (ConditionCall.runAll o true completed c).state = d ∧ (step.run o d).failure = some e

theorem Predicate.apply_failed {predicate : Predicate} {c : Condition} {e : Error}
    (failed : (predicate.apply o c).failure = some e) :
    predicate.Interrupted o c (predicate.apply o c).state e := by
  rw [predicate.apply_steps] at failed ⊢
  obtain ⟨completed, step, rest, shape, succeeded, stops, left⟩ :=
    ConditionCall.exists_failing failed
  have plain : step.IsStep := predicate.isStep_steps step (by simp [shape])
  rw [ConditionCall.run_refused plain stops] at left
  exact ⟨completed, step, rest, shape, succeeded, left.symm, left ▸ stops⟩

end

section

variable {driver : Driver} {clause : Clause} {kind : StatementKind} {f : Option Condition}

/-- A clause that is extended in vain is as before, or has the condition that its callback left. -/
theorem Predicate.extend_failed {predicate : Predicate} {e : Error}
    (failed : (predicate.extend driver clause f).failure = some e) :
    (predicate.extend driver clause f).state = f ∨
      ∃ c d, f = some c ∧ (predicate.extend driver clause f).state = some d ∧
        predicate.Interrupted ⟨driver, none⟩ c d e := by
  cases predicate with
  | other v =>
    rw [extend]
    exact .inl rfl
  | callback parameters calls =>
    cases f with
    | none =>
      rw [extend] at failed ⊢
      have refused : (ConditionCall.runAll ⟨driver, none⟩ (acceptsCondition parameters) calls
          .blank).failure = some e := failed
      refine .inl ?_
      simp [settle, Outcome.commit, Outcome.succeeded, refused]
    | some c =>
      rw [extend] at failed ⊢
      have stopped : (Predicate.callback parameters calls).Interrupted ⟨driver, none⟩ c
          ((Predicate.callback parameters calls).apply ⟨driver, none⟩ c).state e :=
        Predicate.apply_failed failed
      exact .inr ⟨c, _, rfl, rfl, stopped⟩

/-- The callback by which a call extends a clause. -/
def FilterCall.extension? : FilterCall → Option Predicate
  | .extend predicate => some predicate
  | _ => none

theorem FilterCall.run_failed {call : FilterCall} {e : Error}
    (failed : (call.run driver kind f).failure = some e) :
    (call.run driver kind f).state = f ∨
      ∃ predicate c d, call.extension? = some predicate ∧ f = some c ∧
        (call.run driver kind f).state = some d ∧
        predicate.Interrupted ⟨driver, none⟩ c d e := by
  cases call with
  | extend predicate =>
    rw [run] at failed ⊢
    rcases Predicate.extend_failed failed with same | ⟨c, d, before, after, stopped⟩
    · exact .inl same
    · exact .inr ⟨predicate, c, d, rfl, before, after, stopped⟩
  | connect k =>
    cases f with
    | none => exact .inl rfl
    | some c => cases failed
  | openGroup => cases failed
  | closeGroup =>
    cases f with
    | none => exact .inl rfl
    | some c => cases failed
  | toggleGroup => cases failed

end

end SqlBuilder
