import SqlBuilder.Proofs.Builder.Step
import SqlBuilder.Proofs.Statement.Compartment

set_option autoImplicit false

namespace SqlBuilder.Builder

variable {b c : Builder} {operation : Operation} {k : Compartment}

/-- What a call replies is whether it succeeds on the statement. -/
theorem reply_call (b : Builder) (call : Call) :
    b.reply (.call call) =
      match (b.statement.apply b.session.driver call).failure with
      | none => .ok .itself
      | some e => .error e := by
  cases failed : (b.statement.apply b.session.driver call).failure with
  | none =>
    have settled : settle (b.statement.apply b.session.driver call) b = .ok ()
        ⟨(b.statement.apply b.session.driver call).state,
          b.session.observeAll
            (b.statement.apply b.session.driver call).notices⟩ := by
      rw [settle, failed]
    rw [reply, run, get_bind_apply]
    dsimp only
    rw [bind_apply_of_ok settled]
    rfl
  | some e =>
    have settled : settle (b.statement.apply b.session.driver call) b = .error e
        ⟨(b.statement.apply b.session.driver call).state,
          b.session.observeAll
            (b.statement.apply b.session.driver call).notices⟩ := by
      rw [settle, failed]
    rw [reply, run, get_bind_apply]
    dsimp only
    rw [bind_apply_of_error settled]

/-- What the operations on a clause see of a builder: the clause and the driver. -/
def view (k : Compartment) (b : Builder) : Statement × Driver :=
  (b.statement.only k, b.session.driver)

/-- Two builders with the same clause reply alike to an operation on it, and keep it the same. -/
theorem view_next_of_own (placed : operation.compartment? = some k) (same : b.view k = c.view k) :
    b.reply operation = c.reply operation ∧
      (b.next operation).view k = (c.next operation).view k := by
  cases operation with
  | call call =>
    obtain ⟨clause, driver⟩ := Prod.mk.inj same
    have left := Statement.map_apply b.session.driver placed b.statement
    have right := Statement.map_apply b.session.driver placed c.statement
    rw [← clause, ← left] at right
    have outcomes := congrArg Outcome.failure right
    have failures : (b.statement.apply b.session.driver call).failure =
        (c.statement.apply b.session.driver call).failure := outcomes.symm
    have states := congrArg Outcome.state right
    constructor
    · rw [reply_call, reply_call, ← driver, failures]
    · rw [view, view, next_call, next_call, next_driver, next_driver, ← driver]
      exact congrArg (·, _) states.symm
  | _ => cases placed

/-- An operation on another clause leaves this one as it was. -/
theorem view_next_of_other {other : Compartment} (placed : operation.compartment? = some other)
    (apart : k ≠ other) : (b.next operation).view k = b.view k := by
  cases operation with
  | call call =>
    rw [view, view, next_call, next_driver, Statement.only_apply _ placed apart]
  | _ => cases placed

/-- All operations of a run are on clauses. -/
def OnClauses (operations : List Operation) : Prop :=
  ∀ operation ∈ operations, operation.compartment?.isSome

/-- The operations on one clause. -/
def on (k : Compartment) (operations : List Operation) : List Operation :=
  operations.filter fun operation => operation.compartment? = some k

/-- What a run leaves in a clause, and what the operations on that clause reply, is told by a run of
those operations alone. -/
theorem run_on (operations : List Operation) (clauses : OnClauses operations)
    (same : b.view k = c.view k) :
    (b.after operations).view k = (c.after (on k operations)).view k ∧
      ((trace operations b).filter fun reply => reply.1.compartment? = some k) =
        trace (on k operations) c := by
  induction operations generalizing b c with
  | nil => exact ⟨same, rfl⟩
  | cons operation rest ih =>
    have later : OnClauses rest := fun o member => clauses o (List.mem_cons_of_mem _ member)
    obtain ⟨place, placed⟩ := Option.isSome_iff_exists.mp (clauses operation List.mem_cons_self)
    by_cases own : place = k
    · subst own
      obtain ⟨replies, views⟩ := view_next_of_own placed same
      obtain ⟨state, answers⟩ := ih later views
      have kept : on place (operation :: rest) = operation :: on place rest :=
        List.filter_cons_of_pos (by simpa using placed)
      rw [kept, trace, trace, List.filter_cons_of_pos (by simpa using placed), answers, replies]
      exact ⟨state, rfl⟩
    · have apart : operation.compartment? ≠ some k := by
        rw [placed]
        exact fun equal => own (Option.some.inj equal)
      have views : (b.next operation).view k = c.view k := by
        rw [view_next_of_other placed (Ne.symm own), same]
      obtain ⟨state, answers⟩ := ih later views
      have dropped : on k (operation :: rest) = on k rest :=
        List.filter_cons_of_neg (by simpa using apart)
      rw [dropped, trace, List.filter_cons_of_neg (by simpa using apart)]
      exact ⟨state, answers⟩

theorem reply_toSql (b : Builder) :
    b.reply .toSql = b.statement.toSql.map fun sql => Reply.value (.str sql) := by
  rw [reply, run, get_bind_apply]
  dsimp only
  cases b.statement.toSql <;> rfl

theorem reply_values (b : Builder) :
    b.reply .values = .ok (.value (.list b.statement.values)) := rfl

/-- Two runs on fresh builders of one kind, on connections with the same driver, that have the same
operations in the same order for each clause: each operation has the same outcome in both, and the
statements that they end with have the same text, or the same error, and the same values. -/
theorem toSql_of_same_clauses (kind : StatementKind) (session session' : Session)
    (driver : session.driver = session'.driver)
    (operations operations' : List Operation)
    (clauses : OnClauses operations) (clauses' : OnClauses operations')
    (same : ∀ k, on k operations = on k operations') :
    let b : Builder := ⟨.empty kind, session⟩
    let c : Builder := ⟨.empty kind, session'⟩
    (∀ k, ((trace operations b).filter fun reply => reply.1.compartment? = some k) =
        (trace operations' c).filter fun reply => reply.1.compartment? = some k) ∧
      (b.after operations).statement = (c.after operations').statement ∧
      (b.after operations).reply .toSql = (c.after operations').reply .toSql ∧
      (b.after operations).reply .values = (c.after operations').reply .values := by
  intro b c
  have start : ∀ k, b.view k = c.view k := fun k => congrArg (_, ·) driver
  have statements : (b.after operations).statement = (c.after operations').statement := by
    apply Statement.eq_of_only
    intro k
    have left := (run_on operations clauses (start k)).1
    have right := (run_on operations' clauses' (rfl : c.view k = c.view k)).1
    rw [same k, ← right] at left
    exact (Prod.mk.inj left).1
  refine ⟨fun k => ?_, statements, ?_, ?_⟩
  · have left := (run_on operations clauses (start k)).2
    have right := (run_on operations' clauses' (rfl : c.view k = c.view k)).2
    rw [left, right, same k]
  · rw [reply_toSql, reply_toSql, statements]
  · rw [reply_values, reply_values, statements]

/-- A comparison of one column in a clause. -/
def comparing (column : String) (n : Int) : Predicate :=
  .callback none [.col (.str column), .compare .equal (.int n)]

/-- The condition comes in two calls, and a limit is refused. -/
def tableFirst : List Operation :=
  [.call (.select (.table (.str "t"))),
    .call (.select (.filter (.extend (comparing "a" 1)))),
    .call (.select (.filter (.connect .or))),
    .call (.select (.limit (.int (-1)))),
    .call (.select (.filter (.extend (comparing "b" 2)))),
    .call (.select (.having (comparing "c" 3)))]

def tableLast : List Operation :=
  [.call (.select (.having (comparing "c" 3))),
    .call (.select (.limit (.int (-1)))),
    .call (.select (.filter (.extend (comparing "a" 1)))),
    .call (.select (.filter (.connect .or))),
    .call (.select (.filter (.extend (comparing "b" 2)))),
    .call (.select (.table (.str "t")))]

theorem toSql_of_same_clauses_tableLast :
    OnClauses tableFirst ∧ OnClauses tableLast ∧ (∀ k, on k tableFirst = on k tableLast) ∧
      (after ⟨.empty .select, .sample⟩ tableLast).reply .toSql =
        .ok (.value (.str "SELECT * FROM t WHERE a = ? OR b = ? HAVING c = ?;")) ∧
      (after ⟨.empty .select, .sample⟩ tableLast).reply .values =
        .ok (.value (.list [.int 1, .int 2, .int 3])) := by
  have clauses : OnClauses tableFirst := by
    unfold OnClauses
    decide
  have clauses' : OnClauses tableLast := by
    unfold OnClauses
    decide
  have same : ∀ k, on k tableFirst = on k tableLast := fun k => by cases k <;> rfl
  obtain ⟨_, _, text, values⟩ :=
    toSql_of_same_clauses .select .sample .sample rfl tableFirst tableLast clauses clauses' same
  exact ⟨clauses, clauses', same, text.symm.trans rfl, values.symm.trans rfl⟩

end SqlBuilder.Builder
