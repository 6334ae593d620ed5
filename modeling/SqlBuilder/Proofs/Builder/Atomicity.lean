import SqlBuilder.Proofs.Builder.ClauseOrder
import SqlBuilder.Proofs.Call.Interruption

set_option autoImplicit false

namespace SqlBuilder

/-- The clause that a call extends by a callback, and the callback. -/
def Call.extension? : Call → Option (Compartment × Predicate)
  | .select (.filter call) => call.extension?.map fun predicate => (.filter, predicate)
  | .select (.having predicate) => some (.having, predicate)
  | .update (.filter call) => call.extension?.map fun predicate => (.filter, predicate)
  | .delete (.filter call) => call.extension?.map fun predicate => (.filter, predicate)
  | _ => none

namespace Statement

/-- The condition of a clause. -/
def condition? : Compartment → Statement → Option Condition
  | .filter, .select s => s.filter
  | .having, .select s => s.having
  | .filter, .update s => s.filter
  | .filter, .delete s => s.filter
  | _, _ => none

/-- The statement with another condition in a clause, and all else as it is. -/
def withCondition (c : Condition) : Compartment → Statement → Statement
  | .filter, .select s => .select { s with filter := some c }
  | .having, .select s => .select { s with having := some c }
  | .filter, .update s => .update { s with filter := some c }
  | .filter, .delete s => .delete { s with filter := some c }
  | _, s => s

end Statement

/-- What a call that fails on `s` may leave: `s` itself, or, when the call extends a condition that
is there, the same with the condition that the callback has left. -/
def Call.Leaves (driver : Driver) (call : Call) (e : Error) (s t : Statement) : Prop :=
  t = s ∨ ∃ k predicate c d, call.extension? = some (k, predicate) ∧ s.condition? k = some c ∧
    t = s.withCondition d k ∧ predicate.Interrupted ⟨driver, none⟩ c d e

variable {driver : Driver} {e : Error}

theorem Call.Leaves.refl {call : Call} {s : Statement} : call.Leaves driver e s s := .inl rfl

/-- A call on the `WHERE` clause, as part of a statement: `put` sets the condition there. -/
theorem Call.leaves_filter {call : Call} {clauseCall : FilterCall} {kind : StatementKind}
    {s : Statement} (put : Option Condition → Statement)
    (extension : call.extension? = clauseCall.extension?.map fun predicate => (.filter, predicate))
    (same : put (s.condition? .filter) = s)
    (replaced : ∀ d, put (some d) = s.withCondition d .filter)
    (failed : (clauseCall.run driver kind (s.condition? .filter)).failure = some e) :
    call.Leaves driver e s (put (clauseCall.run driver kind (s.condition? .filter)).state) := by
  rcases FilterCall.run_failed failed with
    unchanged | ⟨predicate, c, d, extended, before, after, stopped⟩
  · exact .inl (by rw [unchanged, same])
  · refine .inr ⟨.filter, predicate, c, d, ?_, before, ?_, stopped⟩
    · rw [extension, extended]
      rfl
    · rw [after, replaced]

theorem Select.addJoin_failed {s : Select} {kind : JoinKind} {table : String}
    {on : Outcome (Option Condition)} (failed : (s.addJoin kind table on).failure = some e) :
    (s.addJoin kind table on).state = s := by
  have refused : on.failure = some e := failed
  simp [addJoin, Outcome.commit, Outcome.succeeded, refused]

theorem Subquery.addTo_failed {query : Subquery} {all : Bool} {s : Select}
    (failed : (query.addTo driver all s).failure = some e) :
    (query.addTo driver all s).state = s := by
  cases query with
  | other v =>
    rw [addTo]
    rfl
  | callback calls =>
    rw [addTo] at failed ⊢
    rcases Select.addUnion_eq s all (SelectCall.runAll driver calls .empty) with
      ⟨_, _, _, ran⟩ | ⟨_, ran⟩
    · rw [ran] at failed
      cases failed
    · rw [ran]

theorem SelectCall.run_failed {call : SelectCall} {s : Select}
    (failed : (call.run driver s).failure = some e) :
    (Call.select call).Leaves driver e (.select s) (.select (call.run driver s).state) := by
  have unchanged : (call.run driver s).state = s →
      (Call.select call).Leaves driver e (.select s) (.select (call.run driver s).state) :=
    fun same => .inl (congrArg Statement.select same)
  cases call with
  | distinct => cases failed
  | join kind table on =>
    apply unchanged
    rw [run] at failed ⊢
    split at failed
    · rfl
    · exact Select.addJoin_failed failed
  | filter call =>
    exact Call.leaves_filter (fun f => .select { s with filter := f }) rfl rfl
      (fun _ => rfl) failed
  | having predicate =>
    rcases Predicate.extend_failed failed with same | ⟨c, d, before, after, stopped⟩
    · apply unchanged
      rw [run, Outcome.map, same]
    · refine .inr ⟨.having, predicate, c, d, rfl, before, ?_, stopped⟩
      rw [run, Outcome.map, after]
      rfl
  | union all query => exact unchanged (query.addTo_failed failed)
  | attempt call =>
    rw [run] at failed
    cases failed
  | reset => cases failed
  | logSql =>
    apply unchanged
    rw [run]
    split <;> rfl
  | logValues => cases failed
  | parse => exact unchanged Select.parsed_state
  | idle => cases failed
  | property p => exact unchanged Select.callProperty_state
  | unknown name => exact .refl
  | abort reason => exact .refl
  | _ => exact unchanged (Outcome.ofExcept_refused failed)

theorem InsertCall.run_failed {call : InsertCall} {s : Insert}
    (failed : (call.run s).failure = some e) : (call.run s).state = s := by
  cases call with
  | reset => cases failed
  | _ => exact Outcome.ofExcept_refused failed

theorem UpdateCall.run_failed {call : UpdateCall} {s : Update}
    (failed : (call.run driver s).failure = some e) :
    (Call.update call).Leaves driver e (.update s) (.update (call.run driver s).state) := by
  cases call with
  | filter call =>
    exact Call.leaves_filter (fun f => .update { s with filter := f }) rfl rfl
      (fun _ => rfl) failed
  | reset => cases failed
  | _ => exact .inl (congrArg Statement.update (Outcome.ofExcept_refused failed))

theorem DeleteCall.run_failed {call : DeleteCall} {s : Delete}
    (failed : (call.run driver s).failure = some e) :
    (Call.delete call).Leaves driver e (.delete s) (.delete (call.run driver s).state) := by
  cases call with
  | filter call =>
    exact Call.leaves_filter (fun f => .delete { s with filter := f }) rfl rfl
      (fun _ => rfl) failed
  | reset => cases failed
  | _ => exact .inl (congrArg Statement.delete (Outcome.ofExcept_refused failed))

theorem Statement.apply_failed {call : Call} {s : Statement}
    (failed : (s.apply driver call).failure = some e) :
    call.Leaves driver e s (s.apply driver call).state := by
  cases call <;> cases s
  case select.select call s => exact SelectCall.run_failed failed
  case insert.insert call s =>
    exact .inl (congrArg Statement.insert (InsertCall.run_failed failed))
  case update.update call s => exact UpdateCall.run_failed failed
  case delete.delete call s => exact DeleteCall.run_failed failed
  all_goals exact .refl

namespace Builder

/-- A deletion that has a condition. -/
def deleteOne : Builder := after ⟨.empty .delete, .sample⟩
  [.call (.delete (.table (.str "t"))), .call (.delete (.filter (.extend (comparing "a" 1))))]

/-- A callback that lets another callback connect the condition, and then selects no column. -/
def connectingFirst : Predicate :=
  .callback (some [.positional, .positional])
    [.apply (.callback (some [.rest]) [.connect .or]), .col (.str "")]

end Builder

end SqlBuilder
