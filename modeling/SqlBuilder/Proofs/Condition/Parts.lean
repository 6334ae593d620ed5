import SqlBuilder.Condition.Parts
import SqlBuilder.Proofs.Action
import SqlBuilder.Proofs.Condition.Operation

set_option autoImplicit false

namespace SqlBuilder.Condition.Work

variable {α β : Type}

/-- The action changes no part of a condition, whether it fails or not. -/
def Steady (action : WorkM α) : Prop := ∀ w, (stateAfter action w).parts = w.parts

/-- The action does not fail. -/
def Certain (action : WorkM α) : Prop := ∀ w, failureOf action w = none

/-- The action changes no part of a condition when it fails. -/
def Atomic (action : WorkM α) : Prop :=
  ∀ w e, failureOf action w = some e → (stateAfter action w).parts = w.parts

theorem Steady.atomic {action : WorkM α} (steady : Steady action) : Atomic action :=
  fun w _ _ => steady w

theorem Certain.atomic {action : WorkM α} (certain : Certain action) : Atomic action := by
  intro w e failed
  rw [certain w] at failed
  cases failed

theorem Steady.bind {x : WorkM α} {next : α → WorkM β} (first : Steady x)
    (second : ∀ a, Steady (next a)) : Steady (x >>= next) := by
  intro w
  have kept : Keeps (fun v : Work => v.parts = w.parts) (x >>= next) :=
    .bind (fun v same => (first v).trans same) fun a v same => (second a v).trans same
  exact kept w rfl

theorem Certain.bind {x : WorkM α} {next : α → WorkM β} (first : Certain x)
    (second : ∀ a, Certain (next a)) : Certain (x >>= next) := by
  intro w
  have sure := first w
  unfold failureOf at sure ⊢
  cases ran : x w with
  | ok a v =>
    rw [bind_apply_of_ok ran]
    exact second a v
  | error e v =>
    rw [ran] at sure
    cases sure

/-- What only looks at the parts may come first. -/
theorem Steady.bind_atomic {x : WorkM α} {next : α → WorkM β} (first : Steady x)
    (second : ∀ a, Atomic (next a)) : Atomic (x >>= next) := by
  intro w e failed
  have same := first w
  unfold failureOf stateAfter at *
  cases ran : x w with
  | ok a v =>
    rw [ran] at same
    rw [bind_apply_of_ok ran] at failed ⊢
    exact (second a v e failed).trans same
  | error e v =>
    rw [ran] at same
    rw [bind_apply_of_error ran]
    exact same

/-- What cannot fail may come last. -/
theorem Atomic.bind_certain {x : WorkM α} {next : α → WorkM β} (first : Atomic x)
    (second : ∀ a, Certain (next a)) : Atomic (x >>= next) := by
  intro w e failed
  have same := first w
  unfold failureOf stateAfter at *
  cases ran : x w with
  | ok a v =>
    have sure := second a v
    rw [bind_apply_of_ok ran] at failed
    unfold failureOf at sure
    rw [failed] at sure
    cases sure
  | error e v =>
    rw [ran] at same
    rw [bind_apply_of_error ran]
    exact same e rfl

theorem steady_pure (a : α) : Steady (pure a) := fun _ => rfl

theorem steady_get : Steady get := fun _ => rfl

theorem steady_throw (e : Error) : Steady (throw e : WorkM α) := fun _ => rfl

theorem steady_ofExcept (x : Except Error α) : Steady (MonadExcept.ofExcept x) := by
  intro w
  cases x <;> rfl

theorem steady_require (accepted : Bool) (e : Error) : Steady (require accepted e) := by
  cases accepted with
  | true => exact steady_pure _
  | false => exact steady_throw e

theorem steady_requireColumn : Steady requireColumn := by
  refine .bind steady_get fun w => ?_
  dsimp only
  split
  · exact steady_pure _
  · exact steady_throw _

theorem steady_notify (notices : List Notice) : Steady (notify notices) := fun _ => rfl

theorem steady_forM {values : List Value} {action : Value → WorkM Unit}
    (each : ∀ v, Steady (action v)) : Steady (values.forM action) := by
  induction values with
  | nil => exact steady_pure _
  | cons v rest ih => exact (each v).bind fun _ => ih

theorem certain_pure (a : α) : Certain (pure a) := fun _ => rfl

theorem certain_get : Certain get := fun _ => rfl

theorem certain_update (f : Parts → Parts) : Certain (update f) := fun _ => rfl

theorem certain_bindOperand (v : Value) : Certain (bindOperand v) := by
  unfold bindOperand
  split
  · exact certain_pure _
  · exact .bind (certain_update _) fun _ => certain_pure _

theorem certain_mapM {values : List Value} {action : Value → WorkM String}
    (each : ∀ v, Certain (action v)) : Certain (values.mapM action) := by
  induction values with
  | nil => exact certain_pure _
  | cons v rest ih =>
    rw [List.mapM_cons]
    exact .bind (each v) fun _ => .bind ih fun _ => certain_pure _

theorem certain_catch (action : WorkM Unit) : Certain (tryCatch action fun _ => pure ()) := by
  intro w
  rw [failureOf, tryCatch_apply]
  cases action w <;> rfl

theorem certain_append (fragment : String) : Certain (append fragment) := certain_update _

theorem certain_push (fragment : String) : Certain (push fragment) :=
  .bind certain_get fun _ => .bind (certain_append _) fun _ => certain_update _

theorem certain_openGroup : Certain openGroup :=
  .bind (certain_append _) fun _ => certain_update _

theorem certain_closeGroup : Certain closeGroup :=
  .bind (certain_append _) fun _ => certain_update _

theorem certain_toggleGroup : Certain toggleGroup := by
  refine .bind certain_get fun w => ?_
  split
  · exact certain_openGroup
  · exact certain_closeGroup

theorem atomic_select (name : Value) : Atomic (select name) := by
  unfold select
  split
  · exact (certain_update _).atomic
  · exact (steady_throw _).atomic

/-- The values are bound when all of them have been looked at. -/
theorem atomic_addRaw (fragment : Value) (values : List Value) :
    Atomic (addRaw fragment values) := by
  unfold addRaw
  split
  · exact (steady_throw _).atomic
  · refine (steady_forM fun v => steady_require _ _).bind_atomic fun _ => ?_
    exact Certain.atomic (.bind (certain_update _) fun _ => certain_append _)

theorem atomic_compareWith (sign : String) (part : Part) (accepts : Value → Bool) (v : Value) :
    Atomic (compareWith sign part accepts v) := by
  refine steady_requireColumn.bind_atomic fun _ => (steady_require _ _).bind_atomic fun _ => ?_
  exact Certain.atomic (.bind (certain_bindOperand v) fun _ => certain_push _)

theorem atomic_between (low high : Value) : Atomic (between low high) := by
  refine steady_requireColumn.bind_atomic fun _ => (steady_require _ _).bind_atomic fun _ =>
    (steady_require _ _).bind_atomic fun _ => Certain.atomic ?_
  exact .bind (certain_bindOperand low) fun _ => .bind (certain_bindOperand high) fun _ =>
    certain_push _

theorem atomic_oneOf (values : List Value) : Atomic (oneOf values) := by
  refine steady_requireColumn.bind_atomic fun _ => (steady_require _ _).bind_atomic fun _ =>
    (steady_forM fun v => steady_require _ _).bind_atomic fun _ => Certain.atomic ?_
  exact .bind (certain_mapM certain_bindOperand) fun _ => certain_push _

theorem atomic_isNull : Atomic isNull :=
  steady_requireColumn.bind_atomic fun _ => (certain_push _).atomic

theorem steady_check : Steady check :=
  .bind steady_get fun _ => .bind (steady_ofExcept _) fun _ => steady_pure _

end SqlBuilder.Condition.Work
