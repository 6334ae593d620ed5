import Mathlib.Data.List.Forall2
import SqlBuilder.Outcome

set_option autoImplicit false

namespace SqlBuilder

section

variable {ε α β : Type}

theorem Except.map_eq_ok {f : α → β} {x : Except ε α} {b : β} :
    x.map f = .ok b ↔ ∃ a, x = .ok a ∧ f a = b := by
  cases x <;> simp [Except.map]

theorem Except.bind_eq_ok {f : α → Except ε β} {x : Except ε α} {b : β} :
    (x >>= f) = .ok b ↔ ∃ a, x = .ok a ∧ f a = .ok b := by
  cases x <;> simp [bind, Except.bind]

theorem Except.map_eq_error {f : α → β} {x : Except ε α} {e : ε} :
    x.map f = .error e ↔ x = .error e := by
  cases x <;> simp [Except.map]

theorem Except.bind_eq_error {f : α → Except ε β} {x : Except ε α} {e : ε} :
    (x >>= f) = .error e ↔ x = .error e ∨ ∃ a, x = .ok a ∧ f a = .error e := by
  cases x <;> simp [bind, Except.bind]

/-- A list is gone through without failure when each element is. -/
theorem Except.mapM_eq_ok {f : α → Except ε β} {xs : List α} {ys : List β} :
    xs.mapM f = .ok ys ↔ List.Forall₂ (fun x y => f x = .ok y) xs ys := by
  induction xs generalizing ys with
  | nil => simp [pure, Except.pure, eq_comm]
  | cons x rest ih =>
    simp only [List.mapM_cons, Except.bind_eq_ok, List.forall₂_cons_left_iff, pure, Except.pure,
      Except.ok.injEq]
    constructor
    · rintro ⟨y, first, later, others, rfl⟩
      exact ⟨y, later, first, ih.mp others, rfl⟩
    · rintro ⟨y, later, first, others, rfl⟩
      exact ⟨y, first, later, ih.mpr others, rfl⟩

/-- Going through a list fails with the failure of one of its elements. -/
theorem Except.mapM_eq_error {f : α → Except ε β} {xs : List α} {e : ε}
    (failed : xs.mapM f = .error e) : ∃ x ∈ xs, f x = .error e := by
  induction xs with
  | nil => simp [pure, Except.pure] at failed
  | cons x rest ih =>
    rw [List.mapM_cons, Except.bind_eq_error] at failed
    rcases failed with first | ⟨_, _, later⟩
    · exact ⟨x, List.mem_cons_self, first⟩
    · rcases Except.bind_eq_error.mp later with others | ⟨_, _, done⟩
      · obtain ⟨y, member, refused⟩ := ih others
        exact ⟨y, List.mem_cons_of_mem x member, refused⟩
      · cases done

end

namespace Outcome

variable {σ : Type} {P : σ → Prop} {s : σ}

/-- What holds of the state before and of every result holds of the state after. -/
theorem ofExcept_state {x : Except Error σ} (before : P s) (after : ∀ t, x = .ok t → P t) :
    P (ofExcept s x).state := by
  cases x with
  | error e => exact before
  | ok t => exact after t rfl

/-- The same beside what is kept for the case of success and for that of failure. -/
theorem ofExcept_either {τ : Type} {R : σ → τ → Prop} {x : Except Error σ} {before after : τ}
    (kept : R s before) (added : ∀ t, x = .ok t → R t after) :
    R (ofExcept s x).state (if (ofExcept s x).succeeded then after else before) := by
  cases x with
  | error e => exact kept
  | ok t => exact added t rfl

theorem andThen_state {o : Outcome σ} {next : σ → Outcome σ} (first : P o.state)
    (second : P (next o.state).state) : P (o.andThen next).state := by
  cases failed : o.failure with
  | some e =>
    rw [andThen_of_failure o next e failed]
    exact first
  | none =>
    rw [(andThen_of_success o next failed).1]
    exact second

end Outcome

end SqlBuilder
