import SqlBuilder.Proofs.Builder.Atomicity
import SqlBuilder.Proofs.Call.History

set_option autoImplicit false

namespace SqlBuilder

/-- The call that is made in the end, when it is only attempted. -/
def SelectCall.made : SelectCall → SelectCall
  | .attempt call => call.made
  | call => call

theorem SelectCall.made_made : ∀ call : SelectCall, call.made.made = call.made
  | .attempt call => call.made_made
  | .table _ | .columns _ | .distinct | .limit _ | .offset _ | .join .. | .filter _ | .groupBy _
  | .having _ | .orderBy .. | .union .. | .reset | .logSql | .logValues | .check | .parse | .idle
  | .property _ | .unknown _ | .abort _ => rfl

theorem SelectCall.made_ne_attempt : ∀ call attempted : SelectCall, call.made ≠ .attempt attempted
  | .attempt call, attempted => call.made_ne_attempt attempted
  | .table _, _ | .columns _, _ | .distinct, _ | .limit _, _ | .offset _, _ | .join .., _
  | .filter _, _ | .groupBy _, _ | .having _, _ | .orderBy .., _ | .union .., _ | .reset, _
  | .logSql, _ | .logValues, _ | .check, _ | .parse, _ | .idle, _ | .property _, _
  | .unknown _, _ | .abort _, _ => nofun

/-- An attempt leaves what the call leaves. -/
theorem SelectCall.state_made (driver : Driver) : ∀ (call : SelectCall) (s : Select),
    (call.made.run driver s).state = (call.run driver s).state
  | .attempt call, s => call.state_made driver s
  | .table _, _ | .columns _, _ | .distinct, _ | .limit _, _ | .offset _, _ | .join .., _
  | .filter _, _ | .groupBy _, _ | .having _, _ | .orderBy .., _ | .union .., _ | .reset, _
  | .logSql, _ | .logValues, _ | .check, _ | .parse, _ | .idle, _ | .property _, _
  | .unknown _, _ | .abort _, _ => rfl

namespace Call

/-- The call that is made in the end, when it is only attempted. -/
def made : Call → Call
  | .select call => .select call.made
  | call => call

/-- The kind of the statements that a call is for; others refuse it. -/
def kind : Call → StatementKind
  | .select _ => .select
  | .insert _ => .insert
  | .update _ => .update
  | .delete _ => .delete

def resets : Call → Bool
  | .select .reset | .insert .reset | .update .reset | .delete .reset => true
  | _ => false

/-- What a call does to the condition of a clause, if it is for that clause. -/
def onClause? : Compartment → Call → Option FilterCall
  | .filter, .select (.filter call) => some call
  | .having, .select (.having predicate) => some (.extend predicate)
  | .filter, .update (.filter call) => some call
  | .filter, .delete (.filter call) => some call
  | _, _ => none

/-- The join that a call adds. Its condition is made by the callback of the call from nothing. -/
def join? (driver : Driver) : Call → Option Join
  | .select (.join kind table on) =>
    match table.fullString?, (Track.after driver .select [.extend on]).condition with
    | some table, some c => some ⟨kind, table, c⟩
    | _, _ => none
  | _ => none

/-- The union that a call adds. Its query is made by the callback of the call from nothing. -/
def union? (driver : Driver) : Call → Option Union
  | .select (.union all (.callback calls)) =>
    match (SelectCall.runAll driver calls .empty).failure,
      (SelectCall.runAll driver calls .empty).state.render with
    | none, .ok sql => some ⟨all, sql⟩
    | _, _ => none
  | _ => none

/-- The calls that a statement of some kind is made by: those for that kind since the last reset. -/
def current (kind : StatementKind) (calls : List Call) : List Call :=
  ((calls.map made).filter fun call => call.kind = kind).rtakeWhile fun call => !call.resets

variable {kind : StatementKind} {call : Call}

theorem made_made (call : Call) : call.made.made = call.made := by
  cases call with
  | select call => exact congrArg Call.select call.made_made
  | _ => rfl

theorem kind_made (call : Call) : call.made.kind = call.kind := by
  cases call <;> rfl

theorem current_concat_own (calls : List Call) (own : call.kind = kind) :
    current kind (calls ++ [call]) =
      if call.made.resets then [] else current kind calls ++ [call.made] := by
  have kept : [call.made].filter (fun call => call.kind = kind) = [call.made] :=
    List.filter_cons_of_pos (by simpa using call.kind_made.trans own)
  rw [current, List.map_append, List.map_singleton, List.filter_append, kept,
    List.rtakeWhile_concat]
  cases call.made.resets <;> rfl

theorem current_concat_other (calls : List Call) (other : call.kind ≠ kind) :
    current kind (calls ++ [call]) = current kind calls := by
  have dropped : [call.made].filter (fun call => call.kind = kind) = [] :=
    List.filter_cons_of_neg (by simpa [call.kind_made] using other)
  rw [current, List.map_append, List.map_singleton, List.filter_append, dropped, List.append_nil,
    current]

end Call

namespace Statement

def joins : Statement → List Join
  | .select s => s.joins
  | _ => []

def unions : Statement → List Union
  | .select s => s.unions
  | _ => []

/-- The condition of each clause, each join and each union of the statement come from the calls that
are for it, and from nothing else. -/
structure MadeBy (driver : Driver) (calls : List Call) (s : Statement) : Prop where
  clauses : ∀ k, s.condition? k =
    (Track.after driver s.kind (calls.filterMap (Call.onClause? k))).condition
  joins : s.joins = calls.filterMap (Call.join? driver)
  unions : s.unions = calls.filterMap (Call.union? driver)

end Statement

section

variable {driver : Driver}

theorem SelectCall.run_unplaced {call : SelectCall} {s : Select}
    (bare : ∀ attempted, call ≠ .attempt attempted) (placed : call.compartment? = none)
    (kept : (Call.select call).resets = false) : (call.run driver s).state = s := by
  cases call with
  | attempt call => exact absurd rfl (bare call)
  | reset => cases kept
  | logSql => rw [run]; split <;> rfl
  | check =>
    apply Outcome.ofExcept_state (P := fun t => t = s) rfl
    intro t ok
    obtain ⟨_, _, same⟩ := Except.map_eq_ok.mp ok
    exact same.symm
  | parse => exact Select.parsed_state
  | property p => exact Select.callProperty_state
  | logValues => rfl
  | idle => rfl
  | unknown name => rfl
  | abort reason => rfl
  | _ => cases placed

/-- What is read off a clause stays as it was in every call that is neither for that clause nor a
reset. -/
theorem SelectCall.run_of_other {α : Type} {call : SelectCall} {k : Compartment} {s : Select}
    (read : Select → α) (within : ∀ s : Select, read (s.only k) = read s)
    (bare : ∀ attempted, call ≠ .attempt attempted)
    (apart : call.compartment? ≠ some k) (kept : (Call.select call).resets = false) :
    read (call.run driver s).state = read s := by
  cases placed : call.compartment? with
  | none => rw [run_unplaced bare placed kept]
  | some other =>
    have same : k ≠ other := fun same => apart (placed.trans (congrArg some same.symm))
    rw [← within, call.only_run driver placed same, within]

theorem SelectCall.run_condition? {call : SelectCall} (s : Select) (k : Compartment)
    (bare : ∀ attempted, call ≠ .attempt attempted) (kept : (Call.select call).resets = false) :
    (Statement.select (call.run driver s).state).condition? k =
      match (Call.select call).onClause? k with
      | some c => (c.run driver .select ((Statement.select s).condition? k)).state
      | none => (Statement.select s).condition? k := by
  cases k with
  | filter =>
    by_cases placed : call.compartment? = some .filter
    · cases call <;> cases placed
      rfl
    · have none : (Call.select call).onClause? .filter = none := by
        cases call <;> first | rfl | exact absurd rfl placed
      rw [none]
      exact run_of_other Select.filter (fun _ => rfl) bare placed kept
  | having =>
    by_cases placed : call.compartment? = some .having
    · cases call <;> cases placed
      next predicate => cases predicate <;> rfl
    · have none : (Call.select call).onClause? .having = none := by
        cases call <;> first | rfl | exact absurd rfl placed
      rw [none]
      exact run_of_other Select.having (fun _ => rfl) bare placed kept
  | _ => cases call <;> rfl

theorem Outcome.commit_isSome {σ : Type} (o : Outcome σ) :
    (o.commit none some).succeeded = (o.commit none some).state.isSome := by
  obtain ⟨state, notices, failure⟩ := o
  cases failure <;> rfl

/-- A callback makes a condition from nothing exactly when it succeeds. -/
theorem Predicate.extend_none (driver : Driver) (predicate : Predicate) (clause : Clause) :
    (predicate.extend driver clause none).succeeded =
      (predicate.extend driver clause none).state.isSome := by
  cases predicate with
  | other v => rfl
  | callback parameters calls =>
    rw [extend]
    exact Outcome.commit_isSome _

theorem SelectCall.run_joins {call : SelectCall} (s : Select)
    (bare : ∀ attempted, call ≠ .attempt attempted) (kept : (Call.select call).resets = false) :
    (call.run driver s).state.joins = s.joins ++ ((Call.select call).join? driver).toList := by
  by_cases placed : call.compartment? = some .joins
  · cases call <;> cases placed
    next kind table on =>
    have made : (on.extend driver .join none).state =
        (Track.after driver .select [.extend on]).condition := by
      rw [← List.nil_append [FilterCall.extend on], Track.after_concat, Track.condition_take]
      cases on <;> rfl
    rw [run, Call.join?, ← made]
    cases table.fullString? with
    | none => simp [Outcome.fail]
    | some table =>
      have settled := on.extend_none driver .join
      simp only [Select.addJoin, Outcome.commit, settled]
      cases (on.extend driver .join none).state <;> simp
  · have none : (Call.select call).join? driver = none := by
      cases call <;> first | rfl | exact absurd rfl placed
    rw [none, Option.toList_none, List.append_nil]
    exact run_of_other Select.joins (fun _ => rfl) bare placed kept

theorem SelectCall.run_unions {call : SelectCall} (s : Select)
    (bare : ∀ attempted, call ≠ .attempt attempted) (kept : (Call.select call).resets = false) :
    (call.run driver s).state.unions = s.unions ++ ((Call.select call).union? driver).toList := by
  by_cases placed : call.compartment? = some .unions
  · cases call <;> cases placed
    next all query =>
    cases query with
    | other v => simp [run, Subquery.addTo, Outcome.fail, Call.union?]
    | callback calls =>
      rw [run, Subquery.addTo, Select.addUnion, Call.union?]
      cases (SelectCall.runAll driver calls .empty).failure with
      | some e => simp
      | none => cases (SelectCall.runAll driver calls .empty).state.render <;> simp
  · have none : (Call.select call).union? driver = none := by
      cases call <;> first | rfl | exact absurd rfl placed
    rw [none, Option.toList_none, List.append_nil]
    exact run_of_other Select.unions (fun _ => rfl) bare placed kept

namespace Statement

variable {s : Statement} {calls : List Call} {call : Call}

/-- A call that the statement takes changes what it is for, and nothing else. -/
theorem apply_parts (driver : Driver) (bare : call.made = call) (own : call.kind = s.kind)
    (kept : call.resets = false) :
    (∀ k, (s.apply driver call).state.condition? k =
      match call.onClause? k with
      | some c => (c.run driver s.kind (s.condition? k)).state
      | none => s.condition? k) ∧
      (s.apply driver call).state.joins = s.joins ++ (call.join? driver).toList ∧
      (s.apply driver call).state.unions = s.unions ++ (call.union? driver).toList := by
  cases s with
  | select s =>
    cases call <;> cases own
    next call =>
    have bare : ∀ attempted, call ≠ .attempt attempted := by
      rw [← Call.select.inj bare]
      exact call.made_ne_attempt
    exact ⟨fun k => call.run_condition? s k bare kept, call.run_joins s bare kept,
      call.run_unions s bare kept⟩
  | insert s =>
    cases call <;> cases own
    exact ⟨fun k => by cases k <;> rfl, rfl, rfl⟩
  | update s =>
    cases call <;> cases own
    next call =>
    refine ⟨fun k => ?_, rfl, rfl⟩
    have other : ∀ place, call.compartment? = some place → .filter ≠ place →
        (call.run driver s).state.filter = s.filter := by
      intro place placed apart
      have same := congrArg Update.filter (call.only_run driver placed apart s)
      exact same
    cases call with
    | filter call => cases k <;> rfl
    | reset => cases kept
    | table name => cases k <;> first | rfl | exact other .table rfl nofun
    | assign row => cases k <;> first | rfl | exact other .assignments rfl nofun
  | delete s =>
    cases call <;> cases own
    next call =>
    refine ⟨fun k => ?_, rfl, rfl⟩
    have other : ∀ place, call.compartment? = some place → .filter ≠ place →
        (call.run driver s).state.filter = s.filter := by
      intro place placed apart
      have same := congrArg Delete.filter (call.only_run driver placed apart s)
      exact same
    cases call with
    | filter call => cases k <;> rfl
    | reset => cases kept
    | table name => cases k <;> first | rfl | exact other .table rfl nofun

theorem madeBy_empty (kind : StatementKind) : (empty kind).MadeBy driver [] where
  clauses k := by cases kind <;> cases k <;> rfl
  joins := by cases kind <;> rfl
  unions := by cases kind <;> rfl

theorem kind_apply : (s.apply driver call).state.kind = s.kind := by
  cases call <;> cases s <;> rfl

theorem apply_other (other : call.kind ≠ s.kind) : (s.apply driver call).state = s := by
  cases call <;> cases s <;> first | rfl | exact absurd rfl other

theorem apply_reset (own : call.kind = s.kind) (resets : call.resets = true) :
    (s.apply driver call).state = empty s.kind := by
  cases s <;> cases call <;> cases own
  all_goals
    next call =>
    cases call <;> first | rfl | cases resets

theorem state_made (call : Call) (s : Statement) :
    (s.apply driver call.made).state = (s.apply driver call).state := by
  cases call <;> cases s
  case select.select call s => exact congrArg Statement.select (call.state_made driver s)
  all_goals rfl

theorem MadeBy.apply (made : s.MadeBy driver calls) (bare : call.made = call)
    (own : call.kind = s.kind) (kept : call.resets = false) :
    (s.apply driver call).state.MadeBy driver (calls ++ [call]) := by
  obtain ⟨clauses, joins, unions⟩ := apply_parts driver bare own kept
  constructor
  · intro k
    rw [clauses k, kind_apply, List.filterMap_append]
    cases placed : call.onClause? k with
    | none =>
      rw [List.filterMap_cons_none placed, List.filterMap_nil, List.append_nil]
      exact made.clauses k
    | some c =>
      rw [List.filterMap_cons_some placed, List.filterMap_nil, Track.after_concat,
        Track.condition_take, ← made.clauses k]
  · rw [joins, List.filterMap_append, made.joins]
    cases added : call.join? driver <;> simp [added]
  · rw [unions, List.filterMap_append, made.unions]
    cases added : call.union? driver <;> simp [added]

/-- Every call keeps a statement made by the current calls for its kind. -/
theorem MadeBy.apply_current (made : s.MadeBy driver (Call.current s.kind calls)) (call : Call) :
    (s.apply driver call).state.MadeBy driver (Call.current s.kind (calls ++ [call])) := by
  by_cases own : call.kind = s.kind
  · rw [Call.current_concat_own calls own, ← state_made]
    have own : call.made.kind = s.kind := call.kind_made.trans own
    cases resets : call.made.resets with
    | true =>
      rw [apply_reset own resets]
      exact madeBy_empty s.kind
    | false => exact made.apply call.made_made own resets
  · rw [Call.current_concat_other calls own, apply_other own]
    exact made

end Statement

/-- The statement that calls for a query leave is made by those that were reached. -/
theorem SelectCall.runAll_madeBy (calls : List SelectCall) {s : Select} {past : List Call}
    (made : (Statement.select s).MadeBy driver (Call.current .select past)) :
    ∃ reached, reached <+: calls ∧
      ((SelectCall.runAll driver calls s).failure = none → reached = calls) ∧
      (Statement.select (SelectCall.runAll driver calls s).state).MadeBy driver
        (Call.current .select (past ++ reached.map .select)) := by
  induction calls generalizing s past with
  | nil =>
    refine ⟨[], List.prefix_refl [], fun _ => rfl, ?_⟩
    rw [runAll, List.map_nil, List.append_nil]
    exact made
  | cons call rest ih =>
    have next : (Statement.select (call.run driver s).state).MadeBy driver
        (Call.current .select (past ++ [.select call])) :=
      Statement.MadeBy.apply_current (s := .select s) made (.select call)
    rw [runAll]
    cases failed : (call.run driver s).failure with
    | some e =>
      rw [Outcome.andThen_of_failure _ _ e failed]
      refine ⟨[call], List.prefix_append [call] rest, fun done => ?_, next⟩
      rw [failed] at done
      cases done
    | none =>
      obtain ⟨state, failure⟩ :=
        Outcome.andThen_of_success _ (fun s => runAll driver rest s) failed
      obtain ⟨reached, front, all, later⟩ := ih next
      refine ⟨call :: reached, List.cons_prefix_cons.mpr ⟨rfl, front⟩, fun done => ?_, ?_⟩
      · rw [all (failure.symm.trans done)]
      · rw [state, List.map_cons, ← List.singleton_append, ← List.append_assoc]
        exact later

end

/-- The call that an operation makes on the statement. -/
def Operation.call? : Operation → Option Call
  | .call c => some c
  | _ => none

namespace Builder

variable {b : Builder} {driver : Driver}

/-- The window of rows has no part in any condition. -/
theorem SameClauses.madeBy {s t : Statement} {calls : List Call} (same : SameClauses s t)
    (made : t.MadeBy driver calls) : s.MadeBy driver calls := by
  rcases same with rfl | ⟨query, limit, offset, rfl, rfl⟩
  · exact made
  · refine ⟨fun k => ?_, made.joins, made.unions⟩
    have clause := made.clauses k
    cases k <;> exact clause

theorem next_madeBy {calls : List Call} (operation : Operation)
    (peer : b.session.driver = driver)
    (made : b.statement.MadeBy driver (Call.current b.statement.kind calls)) :
    (b.next operation).session.driver = driver ∧
      (b.next operation).statement.MadeBy driver
        (Call.current b.statement.kind (calls ++ operation.call?.toList)) := by
  by_cases call : ∃ c, operation = .call c
  · obtain ⟨c, rfl⟩ := call
    rw [next_driver, next_call, peer]
    exact ⟨rfl, made.apply_current c⟩
  · have unwritten : operation.call? = none := by
      cases operation with
      | call c => exact absurd ⟨c, rfl⟩ call
      | _ => rfl
    obtain ⟨_, same⟩ := next_unchanged b fun c same => call ⟨c, same⟩
    rw [unwritten, Option.toList_none, List.append_nil]
    exact ⟨(next_driver b operation).trans peer, same.madeBy made⟩

theorem after_madeBy {calls : List Call} (operations : List Operation)
    (peer : b.session.driver = driver)
    (made : b.statement.MadeBy driver (Call.current b.statement.kind calls)) :
    (b.after operations).statement.MadeBy driver
      (Call.current b.statement.kind (calls ++ operations.filterMap Operation.call?)) := by
  induction operations generalizing b calls with
  | nil =>
    rw [List.filterMap_nil, List.append_nil]
    exact made
  | cons operation rest ih =>
    obtain ⟨connection, later⟩ := next_madeBy operation peer made
    rw [← next_kind b operation] at later ⊢
    have all := ih connection later
    rw [List.append_assoc] at all
    have listed : operation.call?.toList ++ rest.filterMap Operation.call? =
        (operation :: rest).filterMap Operation.call? := by
      cases found : operation.call? <;> simp [found]
    rw [listed] at all
    exact all

/-- Negation and column follow the calls on each condition and stay inside it. The condition of a
clause comes from the calls on that clause since the last reset, that of a join from the callback of
the join, and the query of a union from the callback of the union; it is the same in a query that a
callback builds, at any depth, up to where that stops. Wherever calls on a clause leave a condition,
each comparison that succeeded has pushed one fragment, which names the column last selected before
it, behind `NOT` exactly when a negation was asked for since the last comparison that succeeded. -/
theorem negation_of_run (kind : StatementKind) (session : Session) (operations : List Operation) :
    let b := after ⟨.empty kind, session⟩ operations
    let driver := session.driver
    b.statement.MadeBy driver (Call.current kind (operations.filterMap Operation.call?)) ∧
      (∀ calls : List SelectCall, ∃ reached, reached <+: calls ∧
        ((SelectCall.runAll driver calls .empty).failure = none → reached = calls) ∧
        (Statement.select (SelectCall.runAll driver calls .empty).state).MadeBy driver
          (Call.current .select (reached.map .select))) ∧
      ∀ (kind : StatementKind) (calls : List FilterCall) (c : Condition),
        (Track.after driver kind calls).condition = some c →
          c.Follows driver (Track.after driver kind calls).history := by
  intro b driver
  have start : Statement.kind (.empty kind) = kind := by cases kind <;> rfl
  refine ⟨?_, fun calls => ?_, fun kind calls c left => Track.follows_of_after left⟩
  · have made : (Statement.empty kind).MadeBy driver
        (Call.current (Statement.empty kind).kind []) := Statement.madeBy_empty kind
    have all := after_madeBy (b := ⟨.empty kind, session⟩) operations rfl made
    rw [List.nil_append, start] at all
    exact all
  · have made : (Statement.select .empty).MadeBy driver (Call.current .select []) :=
      Statement.madeBy_empty .select
    exact SelectCall.runAll_madeBy calls made

end Builder

end SqlBuilder
