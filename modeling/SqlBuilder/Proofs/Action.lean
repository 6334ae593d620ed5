set_option autoImplicit false

namespace SqlBuilder

variable {ε σ α β : Type}

/-- The state that an action leaves, whether it returns or fails. -/
def stateAfter (action : EStateM ε σ α) (s : σ) : σ :=
  match action s with
  | .ok _ t => t
  | .error _ t => t

/-- The failure that an action ends with, if it does. -/
def failureOf (action : EStateM ε σ α) (s : σ) : Option ε :=
  match action s with
  | .ok _ _ => none
  | .error e _ => some e

theorem get_bind_apply (next : σ → EStateM ε σ α) (s : σ) :
    ((MonadState.get : EStateM ε σ σ) >>= next) s = next s s := rfl

theorem bind_apply_of_ok {x : EStateM ε σ α} {next : α → EStateM ε σ β} {s t : σ} {a : α}
    (ran : x s = .ok a t) : (x >>= next) s = next a t := by
  simp only [Bind.bind, EStateM.bind, ran]

theorem bind_apply_of_error {x : EStateM ε σ α} {next : α → EStateM ε σ β} {s t : σ} {e : ε}
    (failed : x s = .error e t) : (x >>= next) s = .error e t := by
  simp only [Bind.bind, EStateM.bind, failed]

/-- A failure that is caught does not take back what was done. -/
theorem tryCatch_apply (action : EStateM ε σ α) (handler : ε → EStateM ε σ α) (s : σ) :
    (tryCatch action handler : EStateM ε σ α) s =
      match action s with
      | .ok a t => .ok a t
      | .error e t => handler e t := by
  change EStateM.tryCatch action handler s = _
  delta EStateM.tryCatch
  dsimp only
  cases action s <;> rfl

/-- An invariant of the state that an action keeps, also when it fails. -/
def Keeps (I : σ → Prop) (action : EStateM ε σ α) : Prop :=
  ∀ s, I s → I (stateAfter action s)

namespace Keeps

variable {I : σ → Prop}

theorem pure (a : α) : Keeps I (pure a : EStateM ε σ α) := fun _ holds => holds

theorem throw (e : ε) : Keeps I (throw e : EStateM ε σ α) := fun _ holds => holds

theorem get : Keeps I (get : EStateM ε σ σ) := fun _ holds => holds

theorem ofExcept (x : Except ε α) : Keeps I (MonadExcept.ofExcept x : EStateM ε σ α) := by
  intro s holds
  cases x with
  | ok a => exact holds
  | error e => exact holds

theorem modify {f : σ → σ} (kept : ∀ s, I s → I (f s)) :
    Keeps I (modify f : EStateM ε σ PUnit) := fun s holds => kept s holds

theorem bind {x : EStateM ε σ α} {next : α → EStateM ε σ β} (first : Keeps I x)
    (second : ∀ a, Keeps I (next a)) : Keeps I (x >>= next) := by
  intro s holds
  have between := first s holds
  simp only [stateAfter, Bind.bind, EStateM.bind] at between ⊢
  cases ran : x s with
  | ok a t =>
    rw [ran] at between
    exact second a t between
  | error e t =>
    rw [ran] at between
    exact between

/-- The continuation may rely on the state that is read. -/
theorem get_bind {next : σ → EStateM ε σ β}
    (second : ∀ s, I s → I (stateAfter (next s) s)) : Keeps I (MonadState.get >>= next) :=
  fun s holds => second s holds

end Keeps

theorem forM_singleton (x : α) (action : α → EStateM ε σ PUnit) : [x].forM action = action x := by
  funext s
  have opened : [x].forM action = action x >>= fun _ => pure PUnit.unit := rfl
  rw [opened]
  cases ran : action x s with
  | ok a t => rw [bind_apply_of_ok ran]; rfl
  | error e t => rw [bind_apply_of_error ran]

theorem forM_append (front back : List α) (action : α → EStateM ε σ PUnit) :
    (front ++ back).forM action = front.forM action >>= fun _ => back.forM action :=
  List.forM_append

/-- A loop that fails has succeeded up to an element, on which the action fails. -/
theorem failing_forM {action : α → EStateM ε σ PUnit} {xs : List α} {s : σ} {e : ε}
    (failed : failureOf (xs.forM action) s = some e) :
    ∃ front x back, xs = front ++ x :: back ∧ failureOf (front.forM action) s = none ∧
      failureOf (action x) (stateAfter (front.forM action) s) = some e ∧
      stateAfter (xs.forM action) s = stateAfter (action x) (stateAfter (front.forM action) s) := by
  induction xs generalizing s with
  | nil => cases failed
  | cons x rest ih =>
    have opened : ∀ ys : List α, (x :: ys).forM action = action x >>= fun _ => ys.forM action :=
      fun _ => rfl
    rw [opened] at failed ⊢
    cases ran : action x s with
    | error f t =>
      refine ⟨[], x, rest, rfl, rfl, ?_, ?_⟩
      · rw [failureOf, bind_apply_of_error ran] at failed
        have here : stateAfter ([].forM action) s = s := rfl
        rw [here, failureOf, ran]
        exact failed
      · have here : stateAfter ([].forM action) s = s := rfl
        rw [here, stateAfter, bind_apply_of_error ran, stateAfter, ran]
    | ok a t =>
      have later : failureOf (rest.forM action) t = some e := by
        rw [failureOf, bind_apply_of_ok ran] at failed
        exact failed
      obtain ⟨front, y, back, shape, succeeded, stops, left⟩ := ih later
      have first : ∀ ys : List α, (x :: ys).forM action s = ys.forM action t := by
        intro ys
        rw [opened, bind_apply_of_ok ran]
      refine ⟨x :: front, y, back, by rw [shape, List.cons_append], ?_, ?_, ?_⟩
      · rw [failureOf, first, ← failureOf]
        exact succeeded
      · rw [stateAfter, first, ← stateAfter]
        exact stops
      · rw [stateAfter, bind_apply_of_ok ran, ← stateAfter, left]
        congr 1
        rw [stateAfter, stateAfter, first]

/-- A loop stops at the first element on which the action fails. -/
theorem stopped_forM {action : α → EStateM ε σ PUnit} {front : List α} {x : α} {s : σ} {e : ε}
    (back : List α) (succeeded : failureOf (front.forM action) s = none)
    (stops : failureOf (action x) (stateAfter (front.forM action) s) = some e) :
    failureOf ((front ++ x :: back).forM action) s = some e ∧
      stateAfter ((front ++ x :: back).forM action) s =
        stateAfter (action x) (stateAfter (front.forM action) s) := by
  have opened : (x :: back).forM action = action x >>= fun _ => back.forM action := rfl
  unfold failureOf stateAfter at *
  rw [forM_append, opened]
  cases ran : front.forM action s with
  | error f t =>
    rw [ran] at succeeded
    cases succeeded
  | ok a t =>
    rw [ran] at stops
    rw [bind_apply_of_ok ran]
    dsimp only at stops ⊢
    cases failed : action x t with
    | ok b u =>
      rw [failed] at stops
      cases stops
    | error f u =>
      rw [failed] at stops
      rw [bind_apply_of_error failed]
      exact ⟨stops, rfl⟩

end SqlBuilder
