import SqlBuilder.Proofs.Agreement
import SqlBuilder.Proofs.Builder.Step

set_option autoImplicit false

namespace SqlBuilder

section

variable {α β : Type} {E : Error → Error → Prop} {A : α → β → Prop}

theorem Session.withinScope_related {T : Session → Session → Prop} {action : SessionM α}
    {other : SessionM β} (inside : Agrees T E A action other)
    (entered : ∀ s t, T s t → T s.entered t.entered)
    (left : ∀ s t, T s t → ∀ s' t', T s' t' →
      T (s'.leave s.opening.token) (t'.leave t.opening.token)) :
    Agrees T E A (withinScope action) (withinScope other) := by
  intro s t related
  have ran := inside s.entered t.entered (entered s t related)
  unfold withinScope
  cases first : action s.entered <;> cases second : other t.entered <;> rw [first, second] at ran
  case ok.ok => exact ⟨ran.1, left s t related _ _ ran.2⟩
  case error.error => exact ⟨ran.1, left s t related _ _ ran.2⟩
  all_goals cases ran

namespace Builder

variable {S : Builder → Builder → Prop}

theorem inSession_related {T : Session → Session → Prop} {action : SessionM α}
    {other : SessionM β} (inside : Agrees T E A action other)
    (session : ∀ b c, S b c → T b.session c.session)
    (back : ∀ b c, S b c → ∀ s t, T s t → S { b with session := s } { c with session := t }) :
    Agrees S E A (inSession action) (inSession other) := by
  intro b c related
  have ran := inside b.session c.session (session b c related)
  unfold inSession
  cases first : action b.session <;> cases second : other c.session <;> rw [first, second] at ran
  case ok.ok => exact ⟨ran.1, back b c related _ _ ran.2⟩
  case error.error => exact ⟨ran.1, back b c related _ _ ran.2⟩
  all_goals cases ran

theorem withinScope_related {action : BuilderM α} {other : BuilderM β}
    (inside : Agrees S E A action other)
    (entered : ∀ b c, S b c → S { b with session := b.session.entered }
      { c with session := c.session.entered })
    (left : ∀ b c, S b c → ∀ b' c', S b' c' →
      S { b' with session := b'.session.leave b.session.opening.token }
        { c' with session := c'.session.leave c.session.opening.token }) :
    Agrees S E A (withinScope action) (withinScope other) := by
  intro b c related
  have ran := inside _ _ (entered b c related)
  unfold withinScope
  cases first : action { b with session := b.session.entered } <;>
    cases second : other { c with session := c.session.entered } <;> rw [first, second] at ran
  case ok.ok => exact ⟨ran.1, left b c related _ _ ran.2⟩
  case error.error => exact ⟨ran.1, left b c related _ _ ran.2⟩
  all_goals cases ran

/-- Related results are announced alike when builders stay related as the notices are taken. -/
theorem announce_related {x : Except Error α} {y : Except Error β} {notice : α → Notice}
    {other : β → Notice} (agree : Except.Agree E A x y)
    (observed : ∀ a a', A a a' → ∀ b c, S b c →
      S { b with session := b.session.observe (notice a) }
        { c with session := c.session.observe (other a') }) :
    Agrees S E A (announce x notice) (announce y other) := by
  refine .bind (.ofExcept agree) fun a a' related => ?_
  have taken : Agrees S E Eq (inSession (modify fun s => s.observe (notice a)))
      (inSession (modify fun s => s.observe (other a'))) :=
    fun b c same => ⟨rfl, observed a a' related b c same⟩
  exact taken.bind fun _ _ _ => .pure related

end Builder

end

namespace Builder

variable {S : Builder → Builder → Prop} {E : Error → Error → Prop} {A : Reply → Reply → Prop}
  {operation other : Operation} {b c : Builder}

theorem reply_of_agree (ran : ResultsAgree S E A (run operation b) (run other c)) :
    Except.Agree E A (b.reply operation) (c.reply other) := by
  unfold reply
  cases first : run operation b <;> cases second : run other c <;> rw [first, second] at ran
  case ok.ok => exact ran.1
  case error.error => exact ran.1
  all_goals cases ran

theorem next_of_agree (ran : ResultsAgree S E A (run operation b) (run other c)) :
    S (b.next operation) (c.next other) := by
  unfold next stateAfter
  cases first : run operation b <;> cases second : run other c <;> rw [first, second] at ran
  case ok.ok => exact ran.2
  case error.error => exact ran.2
  all_goals cases ran

end Builder

end SqlBuilder
