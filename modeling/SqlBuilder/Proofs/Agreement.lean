import Mathlib.Data.Option.Basic
import SqlBuilder.Proofs.Outcome

set_option autoImplicit false

namespace SqlBuilder

section

variable {α β γ δ : Type} {S : α → β → Prop} {T : γ → δ → Prop} {xs : List α} {ys : List β}

theorem forall₂_map {f : α → γ} {g : β → δ} (pairs : List.Forall₂ S xs ys)
    (each : ∀ a b, S a b → T (f a) (g b)) : List.Forall₂ T (xs.map f) (ys.map g) := by
  rw [List.forall₂_map_left_iff, List.forall₂_map_right_iff]
  exact pairs.imp each

theorem isEmpty_of_forall₂ (pairs : List.Forall₂ S xs ys) : ys.isEmpty = xs.isEmpty := by
  cases pairs <;> rfl

end

section

variable {ε α β γ δ : Type} {E : ε → ε → Prop} {S : α → β → Prop} {T : γ → δ → Prop}

/-- Both give results, which are related, or both fail, with related errors. -/
def Except.Agree (E : ε → ε → Prop) (S : α → β → Prop) : Except ε α → Except ε β → Prop
  | .ok a, .ok b => S a b
  | .error e, .error f => E e f
  | _, _ => False

theorem Except.Agree.imp {F : ε → ε → Prop} {U : α → β → Prop} {x : Except ε α} {y : Except ε β}
    (agree : Except.Agree E S x y) (errors : ∀ e f, E e f → F e f)
    (results : ∀ a b, S a b → U a b) : Except.Agree F U x y := by
  cases x <;> cases y
  case ok.ok a b => exact results a b agree
  case error.error e f => exact errors e f agree
  all_goals cases agree

theorem Except.Agree.map {x : Except ε α} {y : Except ε β} {f : α → γ} {g : β → δ}
    (agree : Except.Agree E S x y) (mapped : ∀ a b, S a b → T (f a) (g b)) :
    Except.Agree E T (x.map f) (y.map g) := by
  cases x <;> cases y
  case ok.ok a b => exact mapped a b agree
  all_goals exact agree

theorem Except.Agree.bind {x : Except ε α} {y : Except ε β} {f : α → Except ε γ}
    {g : β → Except ε δ} (agree : Except.Agree E S x y)
    (next : ∀ a b, S a b → Except.Agree E T (f a) (g b)) :
    Except.Agree E T (x >>= f) (y >>= g) := by
  cases x <;> cases y
  case ok.ok a b => exact next a b agree
  case error.error e f => exact agree
  all_goals cases agree

theorem Except.Agree.mapM {xs : List α} {ys : List β} {f : α → Except ε γ} {g : β → Except ε δ}
    (pairs : List.Forall₂ S xs ys) (each : ∀ a b, S a b → Except.Agree E T (f a) (g b)) :
    Except.Agree E (List.Forall₂ T) (xs.mapM f) (ys.mapM g) := by
  induction pairs with
  | nil => exact .nil
  | cons first _ ih =>
    rw [List.mapM_cons, List.mapM_cons]
    exact (each _ _ first).bind fun c d one => ih.bind fun cs ds others => .cons one others

theorem Except.Agree.refl {x : Except ε α} : Except.Agree Eq Eq x x := by
  cases x <;> rfl

/-- Failures that are the same, and results that are, make the same computation. -/
theorem Except.Agree.eq {x y : Except ε α} (agree : Except.Agree Eq Eq x y) : x = y := by
  cases x <;> cases y
  case ok.ok => exact congrArg _ agree
  case error.error => exact congrArg _ agree
  all_goals cases agree

end

/-- Related states, and the same success or related failures. -/
structure Outcome.Agree {σ τ : Type} (E : Error → Error → Prop) (S : σ → τ → Prop)
    (o : Outcome σ) (p : Outcome τ) : Prop where
  state : S o.state p.state
  failure : Option.Rel E o.failure p.failure

namespace Outcome

variable {σ τ σ' τ' : Type} {E : Error → Error → Prop} {S : σ → τ → Prop} {T : σ' → τ' → Prop}
  {s : σ} {t : τ} {o : Outcome σ} {p : Outcome τ}

theorem Agree.done (same : S s t) : Agree E S (done s) (done t) := ⟨same, .none⟩

theorem Agree.fail {e f : Error} (same : S s t) (failure : E e f) :
    Agree E S (fail e s) (fail f t) := ⟨same, .some failure⟩

theorem Agree.ofExcept {x : Except Error σ} {y : Except Error τ} (same : S s t)
    (agree : Except.Agree E S x y) : Agree E S (ofExcept s x) (ofExcept t y) := by
  cases x <;> cases y
  case ok.ok => exact .done agree
  case error.error => exact .fail same agree
  all_goals cases agree

theorem Agree.failures (agree : Agree E S o p) :
    (o.failure = none ∧ p.failure = none) ∨
      ∃ e f, o.failure = some e ∧ p.failure = some f ∧ E e f := by
  have failures := agree.failure
  cases failed : o.failure <;> cases failed' : p.failure <;> rw [failed, failed'] at failures
  case none.none => exact .inl ⟨rfl, rfl⟩
  case some.some e f =>
    cases failures with
    | some related => exact .inr ⟨e, f, rfl, rfl, related⟩
  all_goals cases failures

theorem Agree.succeeded (agree : Agree E S o p) : o.succeeded = p.succeeded := by
  unfold Outcome.succeeded
  rcases agree.failures with ⟨none, none'⟩ | ⟨e, f, failed, failed', _⟩
  · rw [none, none']
  · rw [failed, failed']
    rfl

theorem Agree.andThen {next : σ → Outcome σ} {next' : τ → Outcome τ} (agree : Agree E S o p)
    (second : ∀ s t, S s t → Agree E S (next s) (next' t)) :
    Agree E S (o.andThen next) (p.andThen next') := by
  rcases agree.failures with ⟨none, none'⟩ | ⟨e, f, failed, failed', _⟩
  · have later := second o.state p.state agree.state
    unfold Outcome.andThen
    rw [none, none']
    exact ⟨later.state, later.failure⟩
  · rw [andThen_of_failure o next e failed, andThen_of_failure p next' f failed']
    exact agree

theorem Agree.caught (agree : Agree E S o p) : Agree E S o.caught p.caught :=
  ⟨agree.state, .none⟩

theorem Agree.map {f : σ → σ'} {g : τ → τ'} (agree : Agree E S o p)
    (mapped : ∀ s t, S s t → T (f s) (g t)) : Agree E T (o.map f) (p.map g) :=
  ⟨mapped _ _ agree.state, agree.failure⟩

theorem Agree.commit {s' : σ'} {t' : τ'} {f : σ → σ'} {g : τ → τ'} (agree : Agree E S o p)
    (before : T s' t') (mapped : ∀ s t, S s t → T (f s) (g t)) :
    Agree E T (o.commit s' f) (p.commit t' g) := by
  refine ⟨?_, agree.failure⟩
  simp only [Outcome.commit, agree.succeeded]
  split
  · exact mapped _ _ agree.state
  · exact before

end Outcome

section

variable {ε σ α β γ δ : Type}

/-- Both results are values or both are failures, related, with related states. -/
def ResultsAgree (S : σ → σ → Prop) (E : ε → ε → Prop) (A : α → β → Prop) :
    EStateM.Result ε σ α → EStateM.Result ε σ β → Prop
  | .ok a s, .ok b t => A a b ∧ S s t
  | .error e s, .error f t => E e f ∧ S s t
  | _, _ => False

/-- Two actions from related states end alike, in related states. -/
def Agrees (S : σ → σ → Prop) (E : ε → ε → Prop) (A : α → β → Prop) (x : EStateM ε σ α)
    (y : EStateM ε σ β) : Prop :=
  ∀ s t, S s t → ResultsAgree S E A (x s) (y t)

variable {S : σ → σ → Prop} {E : ε → ε → Prop} {A : α → β → Prop} {B : γ → δ → Prop}

theorem ResultsAgree.bind {x : EStateM ε σ α} {y : EStateM ε σ β} {next : α → EStateM ε σ γ}
    {next' : β → EStateM ε σ δ} {s t : σ} (first : ResultsAgree S E A (x s) (y t))
    (second : ∀ a b, A a b → Agrees S E B (next a) (next' b)) :
    ResultsAgree S E B ((x >>= next) s) ((y >>= next') t) := by
  simp only [Bind.bind, EStateM.bind]
  cases ran : x s <;> cases ran' : y t <;> rw [ran, ran'] at first
  case ok.ok a s b t => exact second a b first.1 s t first.2
  case error.error => exact first
  all_goals cases first

namespace Agrees

theorem pure {a : α} {b : β} (same : A a b) :
    Agrees S E A (pure a : EStateM ε σ α) (pure b) := fun _ _ states => ⟨same, states⟩

theorem throw {e f : ε} (same : E e f) :
    Agrees S E A (throw e : EStateM ε σ α) (throw f) := fun _ _ states => ⟨same, states⟩

theorem modify {f g : σ → σ} (kept : ∀ s t, S s t → S (f s) (g t)) :
    Agrees S E Eq (modify f : EStateM ε σ PUnit) (modify g) := fun s t states =>
  ⟨rfl, kept s t states⟩

theorem set {s t : σ} (states : S s t) :
    Agrees S E Eq (set s : EStateM ε σ PUnit) (set t) := fun _ _ _ => ⟨rfl, states⟩

/-- Computations without state that agree. -/
theorem ofExcept {x : Except ε α} {y : Except ε β} (agree : Except.Agree E A x y) :
    Agrees S E A (MonadExcept.ofExcept x : EStateM ε σ α) (MonadExcept.ofExcept y) := by
  intro s t states
  cases x <;> cases y
  case ok.ok => exact ⟨agree, states⟩
  case error.error => exact ⟨agree, states⟩
  all_goals cases agree

theorem bind {x : EStateM ε σ α} {y : EStateM ε σ β} {next : α → EStateM ε σ γ}
    {next' : β → EStateM ε σ δ} (first : Agrees S E A x y)
    (second : ∀ a b, A a b → Agrees S E B (next a) (next' b)) :
    Agrees S E B (x >>= next) (y >>= next') :=
  fun s t states => (first s t states).bind second

/-- Values that are made of related results are returned. -/
theorem returning {x : EStateM ε σ α} {y : EStateM ε σ β} {f : α → γ} {g : β → δ}
    (first : Agrees S E A x y) (related : ∀ a b, A a b → B (f a) (g b)) :
    Agrees S E B (x >>= fun a => Pure.pure (f a)) (y >>= fun b => Pure.pure (g b)) :=
  first.bind fun a b both => .pure (related a b both)

/-- The continuations may rely on the states that are read. -/
theorem get_bind {next : σ → EStateM ε σ γ} {next' : σ → EStateM ε σ δ}
    (second : ∀ s t, S s t → ResultsAgree S E B (next s s) (next' t t)) :
    Agrees S E B (MonadState.get >>= next) (MonadState.get >>= next') :=
  fun s t states => second s t states

end Agrees

end

end SqlBuilder
