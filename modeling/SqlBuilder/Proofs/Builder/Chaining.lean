import SqlBuilder.Proofs.Builder.Atomicity
import SqlBuilder.Proofs.Call.Groups

set_option autoImplicit false

namespace SqlBuilder

namespace Outcome

variable {σ : Type} {o : Outcome σ} {next : σ → Outcome σ}

theorem andThen_unfailed :
    (o.andThen next).failure = none ↔ o.failure = none ∧ (next o.state).failure = none := by
  cases failed : o.failure with
  | some e => rw [andThen_of_failure o next e failed, failed]; simp
  | none => rw [(andThen_of_success o next failed).2]; simp

end Outcome

theorem Session.observeAll_append (s : Session) (front back : List Notice) :
    s.observeAll (front ++ back) = (s.observeAll front).observeAll back :=
  List.foldl_append

/-- How the kinds of statements that have a `WHERE` clause are called on it. -/
def StatementKind.filtering? : StatementKind → Option (FilterCall → Call)
  | .select => some fun call => .select (.filter call)
  | .insert => none
  | .update => some fun call => .update (.filter call)
  | .delete => some fun call => .delete (.filter call)

namespace FilterCall

/-- The steps that a call stands for: those of its callback, or the one that it is. -/
def spelled : FilterCall → List ConditionCall
  | .extend (.callback _ calls) => calls
  | call => [call.onCondition]

/-- A callback that the call has receives the condition. -/
def Receives : FilterCall → Prop
  | .extend (.callback parameters _) => acceptsCondition parameters = true
  | .extend (.other _) => False
  | _ => True

/-- The call is refused where the clause has no condition. -/
def needsCondition : FilterCall → Bool
  | .connect _ | .closeGroup => true
  | _ => false

variable {driver : Driver} {kind : StatementKind} {call : FilterCall} {f : Option Condition}

/-- A call whose steps succeed takes just those on the condition, which is new if there is none. -/
theorem run_spelled (receives : call.Receives)
    (present : call.needsCondition = true → f.isSome = true)
    (succeed : (ConditionCall.runAll ⟨driver, none⟩ true call.spelled
      (f.getD .blank)).failure = none) :
    call.run driver kind f =
      (ConditionCall.runAll ⟨driver, none⟩ true call.spelled (f.getD .blank)).map some := by
  have single : ∀ step c, (ConditionCall.runAll ⟨driver, none⟩ true [step] c).map some =
      (step.run ⟨driver, none⟩ c).map some :=
    fun step c => by rw [ConditionCall.runAll_singleton]
  cases call with
  | extend predicate =>
    cases predicate with
    | other v => exact receives.elim
    | callback parameters calls =>
      rw [spelled] at succeed ⊢
      rw [run, Predicate.extend, receives]
      cases f with
      | some c => rfl
      | none => simp only [settle, Outcome.commit, Outcome.succeeded, succeed, Outcome.map,
          Option.isNone_none, ↓reduceIte]
  | openGroup => exact (single .openGroup _).symm
  | toggleGroup => exact (single .toggleGroup _).symm
  | connect w =>
    obtain ⟨c, rfl⟩ := Option.isSome_iff_exists.mp (present rfl)
    exact (single (.connect w) c).symm
  | closeGroup =>
    obtain ⟨c, rfl⟩ := Option.isSome_iff_exists.mp (present rfl)
    exact (single .closeGroup c).symm

end FilterCall

namespace Statement

variable {s : Statement} {call : FilterCall → Call}

theorem kind_withCondition (c : Condition) (k : Compartment) :
    (s.withCondition c k).kind = s.kind := by
  cases k <;> cases s <;> rfl

theorem withCondition_withCondition (c d : Condition) :
    (s.withCondition c .filter).withCondition d .filter = s.withCondition d .filter := by
  cases s <;> rfl

theorem condition?_withCondition (filtering : s.kind.filtering? = some call) (c : Condition) :
    (s.withCondition c .filter).condition? .filter = some c := by
  cases s with
  | insert s => cases filtering
  | _ => rfl

/-- A call on the clause whose steps succeed changes the condition there, and nothing else. -/
theorem apply_spelled {driver : Driver} {c : FilterCall}
    (filtering : s.kind.filtering? = some call) (receives : c.Receives)
    (present : c.needsCondition = true → (s.condition? .filter).isSome = true)
    (succeed : (ConditionCall.runAll ⟨driver, none⟩ true c.spelled
      ((s.condition? .filter).getD .blank)).failure = none) :
    s.apply driver (call c) =
      (ConditionCall.runAll ⟨driver, none⟩ true c.spelled
        ((s.condition? .filter).getD .blank)).map fun d => s.withCondition d .filter := by
  have ran : c.run driver s.kind (s.condition? .filter) =
      (ConditionCall.runAll ⟨driver, none⟩ true c.spelled
        ((s.condition? .filter).getD .blank)).map some :=
    c.run_spelled receives present succeed
  cases s with
  | insert s => cases filtering
  | select s =>
    cases filtering
    rw [apply, SelectCall.run]
    exact congrArg _ (congrArg _ ran)
  | update s =>
    cases filtering
    rw [apply, UpdateCall.run]
    exact congrArg _ (congrArg _ ran)
  | delete s =>
    cases filtering
    rw [apply, DeleteCall.run]
    exact congrArg _ (congrArg _ ran)

end Statement

namespace Builder

variable {b : Builder} {call : FilterCall → Call}

/-- The steps on the condition of the clause, from what the clause holds. -/
def steps (b : Builder) (calls : List ConditionCall) : Outcome Condition :=
  ConditionCall.runAll ⟨b.session.driver, none⟩ true calls
    ((b.statement.condition? .filter).getD .blank)

/-- The builder with what steps have made of the condition. -/
def filtered (b : Builder) (o : Outcome Condition) : Builder :=
  ⟨b.statement.withCondition o.state .filter, b.session.observeAll o.notices⟩

theorem filtered_filtered (o p : Outcome Condition) :
    (b.filtered o).filtered p = b.filtered ⟨p.state, o.notices ++ p.notices, p.failure⟩ := by
  rw [filtered, filtered, filtered, Statement.withCondition_withCondition,
    Session.observeAll_append]

/-- Further steps go on from the condition that the ones before have made. -/
theorem steps_filtered (filtering : b.statement.kind.filtering? = some call)
    (o : Outcome Condition) (calls : List ConditionCall) :
    (b.filtered o).steps calls =
      ConditionCall.runAll ⟨b.session.driver, none⟩ true calls o.state := by
  rw [steps, filtered, Session.driver_eq_of_peer (Session.peer_observeAll _ _),
    Statement.condition?_withCondition filtering, Option.getD_some]

/-- What two lists of steps make of a builder in turn, their concatenation makes at once. -/
theorem filtered_append (filtering : b.statement.kind.filtering? = some call)
    {front back : List ConditionCall} (first : (b.steps front).failure = none) :
    (b.filtered (b.steps front)).filtered ((b.filtered (b.steps front)).steps back) =
      b.filtered (b.steps (front ++ back)) := by
  have joined : b.steps (front ++ back) = (b.steps front).andThen
      (ConditionCall.runAll ⟨b.session.driver, none⟩ true back) :=
    ConditionCall.runAll_append _ front back _
  rw [joined, steps_filtered filtering, filtered_filtered]
  simp only [Outcome.andThen, first]

theorem steps_append_unfailed (filtering : b.statement.kind.filtering? = some call)
    {front back : List ConditionCall} :
    (b.steps (front ++ back)).failure = none ↔
      (b.steps front).failure = none ∧
        ((b.filtered (b.steps front)).steps back).failure = none := by
  rw [steps_filtered filtering, steps, ConditionCall.runAll_append, Outcome.andThen_unfailed]
  rfl

/-- A call on the clause replies with the builder when its steps succeed, which are its effect. -/
theorem next_spelled {c : FilterCall} (filtering : b.statement.kind.filtering? = some call)
    (receives : c.Receives)
    (present : c.needsCondition = true → (b.statement.condition? .filter).isSome = true)
    (succeed : (b.steps c.spelled).failure = none) :
    b.reply (.call (call c)) = .ok .itself ∧
      b.next (.call (call c)) = b.filtered (b.steps c.spelled) := by
  have applied := Statement.apply_spelled filtering receives present succeed
  rw [reply_call, next_call_eq, applied]
  simp only [Outcome.map]
  rw [steps] at succeed
  rw [succeed]
  exact ⟨rfl, rfl⟩

/-- The calls of a chain succeed when their steps do, one after the other, and have their effect. -/
theorem after_spelled {first : FilterCall} {rest : List FilterCall}
    (filtering : b.statement.kind.filtering? = some call)
    (receives : ∀ c ∈ first :: rest, c.Receives)
    (present : first.needsCondition = true → (b.statement.condition? .filter).isSome = true)
    (succeed : (b.steps ((first :: rest).flatMap FilterCall.spelled)).failure = none) :
    (∀ r ∈ trace ((first :: rest).map fun c => .call (call c)) b, r.2 = .ok .itself) ∧
      b.after ((first :: rest).map fun c => .call (call c)) =
        b.filtered (b.steps ((first :: rest).flatMap FilterCall.spelled)) := by
  induction rest generalizing b first with
  | nil =>
    rw [List.flatMap_singleton] at succeed ⊢
    obtain ⟨replies, next⟩ :=
      next_spelled filtering (receives first List.mem_cons_self) present succeed
    exact ⟨List.forall_mem_singleton.mpr replies, next⟩
  | cons second rest ih =>
    obtain ⟨receive, others⟩ := List.forall_mem_cons.mp receives
    rw [List.flatMap_cons] at succeed ⊢
    obtain ⟨front, back⟩ := (steps_append_unfailed filtering).mp succeed
    obtain ⟨replies, next⟩ := next_spelled filtering receive present front
    -- Only the first call can be without a condition: behind it there is one, whatever it was.
    have kept : (b.filtered (b.steps first.spelled)).statement.kind.filtering? = some call := by
      rw [filtered, Statement.kind_withCondition, filtering]
    have there : second.needsCondition = true →
        ((b.filtered (b.steps first.spelled)).statement.condition? .filter).isSome = true := by
      rw [filtered, Statement.condition?_withCondition filtering]
      exact fun _ => rfl
    obtain ⟨later, total⟩ := ih kept others there back
    rw [List.map_cons, trace, List.forall_mem_cons, after, List.foldl_cons, next,
      ← filtered_append filtering front]
    exact ⟨⟨replies, later⟩, total⟩

/-- A list of steps that succeed on the condition of a `WHERE` clause may be cut into callbacks that
receive the condition, and any connective or parenthesis in it may be left to the builder, if there
is a condition whenever a connective or a closing parenthesis is. All calls then succeed and leave
the builder that a single callback with the whole list leaves, so its text, or the refusal to give
one, and its values are the same. -/
theorem chained_eq_single {b : Builder} {call : FilterCall → Call}
    (filtering : b.statement.kind.filtering? = some call) {chain : List FilterCall}
    {calls : List ConditionCall} {parameters : Option (List Parameter)} (several : chain ≠ [])
    (cut : chain.flatMap FilterCall.spelled = calls) (receives : ∀ c ∈ chain, c.Receives)
    (receive : acceptsCondition parameters = true)
    (present : ∀ c ∈ chain.head?, c.needsCondition = true →
      (b.statement.condition? .filter).isSome = true)
    (succeed : (ConditionCall.runAll ⟨b.session.driver, none⟩ true calls
      ((b.statement.condition? .filter).getD .blank)).failure = none) :
    let chained : List Operation := chain.map fun c => .call (call c)
    let single : Operation := .call (call (.extend (.callback parameters calls)))
    (∀ r ∈ trace chained b, r.2 = .ok .itself) ∧ b.reply single = .ok .itself ∧
      b.after chained = b.next single ∧
      (b.after chained).reply .toSql = (b.next single).reply .toSql ∧
      (b.after chained).reply .values = (b.next single).reply .values := by
  obtain ⟨first, rest, rfl⟩ := List.exists_cons_of_ne_nil several
  subst cut
  intro chained single
  obtain ⟨replies, left⟩ := after_spelled filtering receives (present first rfl) succeed
  obtain ⟨reply, next⟩ := next_spelled (c := .extend (.callback parameters _)) filtering receive
    nofun succeed
  have same : b.after chained = b.next single := left.trans next.symm
  exact ⟨replies, reply, same, by rw [same], by rw [same]⟩

/-- A callback that receives the condition. -/
def receiving (calls : List ConditionCall) : FilterCall :=
  .extend (.callback (some [.positional, .positional]) calls)

/-- A group that the builder opens and closes, around a negation in one callback and the comparison
that it is for in another, with an empty callback between them. -/
def gradual : List FilterCall :=
  [.openGroup, receiving [.col (.str "a"), .negate], receiving [],
    receiving [.compare .equal (.int 1)], .closeGroup]

theorem chained_eq_single_gradual :
    let b := after ⟨.empty .delete, .sample⟩ [.call (.delete (.table (.str "t")))]
    let calls : List ConditionCall := [.openGroup, .col (.str "a"), .negate,
      .compare .equal (.int 1), .closeGroup]
    let chained := b.after (gradual.map fun c => .call (.delete (.filter c)))
    gradual.flatMap FilterCall.spelled = calls ∧
      chained = b.next (.call (.delete (.filter (receiving calls)))) ∧
      chained.statement = .delete ⟨some "t", some ⟨[.opening,
        .comparison true [.literal "a = ", .slot (.int 1)], .closing], false, some "a"⟩⟩ := by
  intro b calls chained
  have receives : ∀ c ∈ gradual, c.Receives := by
    intro c member
    simp only [gradual, List.mem_cons, List.not_mem_nil, or_false] at member
    rcases member with rfl | rfl | rfl | rfl | rfl <;> trivial
  have present : ∀ c ∈ gradual.head?, c.needsCondition = true →
      (b.statement.condition? .filter).isSome = true := by
    rintro _ ⟨⟩ needed
    cases needed
  have succeed : (ConditionCall.runAll ⟨b.session.driver, none⟩ true calls
      ((b.statement.condition? .filter).getD .blank)).failure = none := rfl
  have filtering : b.statement.kind.filtering? = some fun c => .delete (.filter c) := rfl
  have several : gradual ≠ [] := nofun
  have cut : gradual.flatMap FilterCall.spelled = calls := rfl
  have receive : acceptsCondition (some [.positional, .positional]) = true := rfl
  obtain ⟨_, _, same, _⟩ :=
    chained_eq_single filtering several cut receives receive present succeed
  exact ⟨cut, same, (congrArg Builder.statement same).trans rfl⟩

end Builder

end SqlBuilder
