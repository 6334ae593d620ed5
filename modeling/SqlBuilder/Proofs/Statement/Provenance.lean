import SqlBuilder.Proofs.Builder.Atomicity
import SqlBuilder.Proofs.Call.Provenance
import SqlBuilder.Proofs.Statement.Diction
import SqlBuilder.Proofs.Statement.Exchange

set_option autoImplicit false

namespace SqlBuilder

namespace Value

variable {v : Value}

theorem isCell_of_isScalar (scalar : v.isScalar = true) : v.isCell = true := by
  cases v with
  | text t => rfl
  | int n => rfl
  | float x => rfl
  | _ => cases scalar

theorem isCell_of_isBindable (bindable : v.isBindable = true) (bound : v.isNull = false) :
    v.isCell = true := by
  rw [isBindable_eq, bound, Bool.false_or] at bindable
  exact bindable

/-- What a condition binds is a text that is not empty, or a number. -/
theorem scalar_cases (scalar : v.isScalar = true) :
    (∃ t : Text, v = .text t ∧ t.chars ≠ "") ∨ (∃ n, v = .int n) ∨ ∃ x, v = .float x := by
  cases v with
  | text t =>
    refine .inl ⟨t, rfl, fun empty => ?_⟩
    simp [isScalar, isFullText, fullText?, empty, isNumber] at scalar
  | int n => exact .inr (.inl ⟨n, rfl⟩)
  | float x => exact .inr (.inr ⟨x, rfl⟩)
  | _ => cases scalar

/-- What a row binds is a text or a number. -/
theorem cell_cases (cell : v.isCell = true) :
    (∃ t, v = .text t) ∨ (∃ n, v = .int n) ∨ ∃ x, v = .float x := by
  cases v with
  | text t => exact .inl ⟨t, rfl⟩
  | int n => exact .inr (.inl ⟨n, rfl⟩)
  | float x => exact .inr (.inr ⟨x, rfl⟩)
  | _ => cases cell

end Value

namespace Insert

variable {v : Value}

theorem mem_of_get? {entries : Entries} {key : Value} (found : entries.get? key = some v) :
    v ∈ entries.values := by
  obtain ⟨entry, first, rfl⟩ := Option.map_eq_some_iff.mp found
  exact List.mem_map.mpr ⟨entry, List.mem_of_find?_eq_some first, rfl⟩

/-- The vector of a row holds values of the row, in the order of the columns, and nulls. -/
theorem mem_of_reorder {row : Value} {entries : Entries} {columns vector : List Value}
    (ordered : reorder row entries columns = .ok vector) (member : v ∈ vector)
    (bound : v.isNull = false) : v ∈ entries.values := by
  unfold reorder at ordered
  split at ordered
  · cases ordered
  · cases ordered
    obtain ⟨key, _, rfl⟩ := List.mem_map.mp member
    cases found : entries.get? key with
    | none =>
      rw [found] at bound
      cases bound
    | some w => exact mem_of_get? found

theorem cell_of_rowVector {row : Value} {established : Option (List Value)}
    {columns vector : List Value} (accepted : rowVector row established = .ok (columns, vector))
    (member : v ∈ vector) (bound : v.isNull = false) : v.isCell = true ∧ v ∈ row.cells := by
  obtain ⟨entries, read, bindable, shape⟩ := rowVector_eq_ok.mp accepted
  have listed : v ∈ entries.values := by
    cases established with
    | none =>
      obtain ⟨_, _, rfl⟩ := shape
      exact member
    | some keys => exact mem_of_reorder shape.2 member bound
  have cells : row.cells = entries.values := by rw [Value.cells, read, Option.getD_some]
  exact ⟨Value.isCell_of_isBindable (bindable v listed) bound, cells ▸ listed⟩

theorem cell_of_rowVectors {rows : List Value} {established columns : Option (List Value)}
    {vectors : List (List Value)} (accepted : rowVectors rows established = .ok (columns, vectors))
    {vector : List Value} (listed : vector ∈ vectors) (member : v ∈ vector)
    (bound : v.isNull = false) : v.isCell = true ∧ ∃ row ∈ rows, v ∈ row.cells := by
  induction rows generalizing established vectors with
  | nil =>
    cases accepted
    cases listed
  | cons row rest ih =>
    obtain ⟨⟨first, one⟩, read, later⟩ := Except.bind_eq_ok.mp accepted
    obtain ⟨⟨last, others⟩, rows, same⟩ := Except.map_eq_ok.mp later
    cases same
    rcases List.mem_cons.mp listed with rfl | listed
    · obtain ⟨cell, given⟩ := cell_of_rowVector read member bound
      exact ⟨cell, row, List.mem_cons_self, given⟩
    · obtain ⟨cell, other, given, inside⟩ := ih rows listed
      exact ⟨cell, other, List.mem_cons_of_mem row given, inside⟩

theorem mem_values {s : Insert} :
    v ∈ s.values ↔ ∃ row ∈ s.rows, v ∈ row ∧ v.isNull = false := by
  simp [values]

end Insert

/-- An insertion binds what was bound before, and cells of the rows that it accepts. -/
theorem InsertCall.values_run (call : InsertCall) (s : Insert) :
    ∀ v ∈ (call.run s).state.values, v ∈ s.values ∨
      (call.run s).succeeded = true ∧ v.isCell = true ∧ v ∈ call.operands := by
  have kept : ∀ {x : Except Error Insert}, (∀ t, x = .ok t → t.rows = s.rows) →
      ∀ v ∈ (Outcome.ofExcept s x).state.values, v ∈ s.values := by
    intro x same v member
    cases computed : x with
    | error e =>
      rw [computed] at member
      exact member
    | ok t =>
      rw [computed] at member
      obtain ⟨row, listed, bound⟩ := Insert.mem_values.mp member
      exact Insert.mem_values.mpr ⟨row, same t computed ▸ listed, bound⟩
  cases call with
  | into name =>
    refine fun v member => .inl (kept (fun t ok => ?_) v member)
    unfold Insert.setTable at ok
    split at ok <;> cases ok
    rfl
  | returning names =>
    refine fun v member => .inl (kept (fun t ok => ?_) v member)
    obtain ⟨_, _, rfl⟩ := Insert.setReturning_eq_ok.mp ok
    rfl
  | reset =>
    intro v member
    cases member
  | row entries =>
    intro v member
    cases added : s.addRow entries with
    | error e =>
      rw [run, added] at member
      exact .inl member
    | ok t =>
      obtain ⟨columns, vector, read, rfl⟩ := Insert.addRow_eq_ok.mp added
      rw [run, added] at member ⊢
      obtain ⟨row, listed, inside, bound⟩ := Insert.mem_values.mp member
      rcases List.mem_append.mp listed with early | last
      · exact .inl (Insert.mem_values.mpr ⟨row, early, inside, bound⟩)
      · rw [List.mem_singleton.mp last] at inside
        exact .inr ⟨rfl, Insert.cell_of_rowVector read inside bound⟩
  | rows items =>
    intro v member
    cases added : s.addRows items with
    | error e =>
      rw [run, added] at member
      exact .inl member
    | ok t =>
      obtain ⟨rows, columns, vectors, given, _, _, read, rfl⟩ := Insert.addRows_eq_ok.mp added
      rw [run, added] at member ⊢
      obtain ⟨row, listed, inside, bound⟩ := Insert.mem_values.mp member
      rcases List.mem_append.mp listed with early | last
      · exact .inl (Insert.mem_values.mpr ⟨row, early, inside, bound⟩)
      · obtain ⟨cell, other, among, held⟩ := Insert.cell_of_rowVectors read last inside bound
        refine .inr ⟨rfl, cell, ?_⟩
        rw [operands, given]
        exact List.mem_flatMap.mpr ⟨other, among, held⟩

theorem Update.mem_values {s : Update} {v : Value} :
    v ∈ s.values ↔ (v ∈ s.assignments.values ∧ v.isNull = false) ∨
      v ∈ Select.conditionValues s.filter := by
  simp [values]

/-- An update assigns what was assigned before, or cells of the row that it accepts. -/
theorem UpdateCall.assigned_run (driver : Driver) (call : UpdateCall) (s : Update) :
    ∀ v ∈ (call.run driver s).state.assignments.values, v.isNull = false →
      v ∈ s.assignments.values ∨
        (call.run driver s).succeeded = true ∧ v.isCell = true ∧ v ∈ call.operands := by
  intro v member bound
  cases call with
  | table name =>
    rw [run] at member
    cases named : s.setTable name with
    | error e =>
      rw [named] at member
      exact .inl member
    | ok t =>
      rw [named] at member
      unfold Update.setTable at named
      split at named <;> cases named
      exact .inl member
  | assign row =>
    cases assigned : s.assign row with
    | error e =>
      rw [run, assigned] at member
      exact .inl member
    | ok t =>
      obtain ⟨entries, read, bindable, rfl⟩ := Update.assign_eq_ok.mp assigned
      rw [run, assigned] at member ⊢
      have cells : row.cells = entries.values := by rw [Value.cells, read, Option.getD_some]
      refine .inr ⟨rfl, Value.isCell_of_isBindable (bindable v member) bound, ?_⟩
      rw [operands, cells]
      exact member
  | filter call => exact .inl member
  | reset => cases member

theorem UpdateCall.sourced_run (driver : Driver) (call : UpdateCall) (s : Update) :
    ∀ v ∈ Select.conditionValues (call.run driver s).state.filter,
      Sourced (Select.conditionValues s.filter)
        ((Call.update call).attempts driver (.update s)) v := by
  have kept : ∀ {x : Except Error Update}, (∀ t : Update, x = .ok t → t.filter = s.filter) →
      (Outcome.ofExcept s x).state.filter = s.filter := fun same =>
    Outcome.ofExcept_state (P := fun t : Update => t.filter = s.filter) rfl same
  cases call with
  | table name =>
    refine .of_same (congrArg Select.conditionValues (kept fun t ok => ?_))
    unfold Update.setTable at ok
    split at ok <;> cases ok
    rfl
  | assign row =>
    refine .of_same (congrArg Select.conditionValues (kept fun t ok => ?_))
    obtain ⟨_, _, _, rfl⟩ := Update.assign_eq_ok.mp ok
    rfl
  | filter call => exact fun v member => (call.sourced_run driver .update s.filter v member).cons
  | reset =>
    intro v member
    cases member

theorem DeleteCall.sourced_run (driver : Driver) (call : DeleteCall) (s : Delete) :
    ∀ v ∈ (call.run driver s).state.values,
      Sourced s.values ((Call.delete call).attempts driver (.delete s)) v := by
  cases call with
  | table name =>
    intro v member
    rw [run] at member
    cases named : s.setTable name with
    | error e =>
      rw [named] at member
      exact .inl member
    | ok t =>
      rw [named] at member
      unfold Delete.setTable at named
      split at named <;> cases named
      exact .inl member
  | filter call => exact fun v member => (call.sourced_run driver .delete s.filter v member).cons
  | reset =>
    intro v member
    cases member

/-- Every value that the statement binds is a text or a number, and was given in the attempts. What
a condition or a query binds is no empty text. -/
structure Statement.Supplied (attempts : List Attempt) (s : Statement) : Prop where
  values : ∀ v ∈ s.values, v.isCell = true ∧ Given attempts v
  query : s.kind = .select → ∀ v ∈ s.values, v.isScalar = true
  conditions : ∀ k c, s.condition? k = some c → ∀ v ∈ c.values, v.isScalar = true

namespace Statement

variable {attempts more : List Attempt} {driver : Driver}

theorem supplied_empty (kind : StatementKind) (attempts : List Attempt) :
    (empty kind).Supplied attempts where
  values := by cases kind <;> exact nofun
  query := by cases kind <;> exact fun _ => nofun
  conditions k c := by cases kind <;> cases k <;> exact nofun

theorem supplied_select {s : Select} :
    (select s).Supplied attempts ↔ ∀ v ∈ s.values, v.isScalar = true ∧ Given attempts v := by
  constructor
  · intro supplied v member
    exact ⟨supplied.query rfl v member, (supplied.values v member).2⟩
  · intro bound
    refine ⟨fun v member => ?_, fun _ v member => (bound v member).1, fun k c held v member => ?_⟩
    · exact ⟨Value.isCell_of_isScalar (bound v member).1, (bound v member).2⟩
    · cases k with
      | filter =>
        have filter : s.filter = some c := held
        refine (bound v (Select.mem_values.mpr (.inr (.inl ?_)))).1
        rw [filter]
        exact member
      | having =>
        have having : s.having = some c := held
        refine (bound v (Select.mem_values.mpr (.inr (.inr (.inl ?_))))).1
        rw [having]
        exact member
      | _ => cases held

theorem supplied_insert {s : Insert} :
    (insert s).Supplied attempts ↔ ∀ v ∈ s.values, v.isCell = true ∧ Given attempts v :=
  ⟨fun supplied => supplied.values, fun bound => ⟨bound, nofun, fun k c => by cases k <;> nofun⟩⟩

theorem supplied_update {s : Update} :
    (update s).Supplied attempts ↔
      (∀ v ∈ s.assignments.values, v.isNull = false → v.isCell = true ∧ Given attempts v) ∧
        ∀ v ∈ Select.conditionValues s.filter, v.isScalar = true ∧ Given attempts v := by
  constructor
  · intro supplied
    refine ⟨fun v member bound => supplied.values v (Update.mem_values.mpr (.inl ⟨member, bound⟩)),
      fun v member => ⟨?_, (supplied.values v (Update.mem_values.mpr (.inr member))).2⟩⟩
    cases filter : s.filter with
    | none =>
      rw [filter] at member
      cases member
    | some c =>
      rw [filter] at member
      exact supplied.conditions .filter c filter v member
  · rintro ⟨assigned, filtered⟩
    refine ⟨fun v member => ?_, nofun, fun k c held v member => ?_⟩
    · rcases Update.mem_values.mp member with ⟨listed, bound⟩ | listed
      · exact assigned v listed bound
      · exact ⟨Value.isCell_of_isScalar (filtered v listed).1, (filtered v listed).2⟩
    · cases k with
      | filter =>
        have filter : s.filter = some c := held
        refine (filtered v ?_).1
        rw [filter]
        exact member
      | _ => cases held

theorem supplied_delete {s : Delete} :
    (delete s).Supplied attempts ↔ ∀ v ∈ s.values, v.isScalar = true ∧ Given attempts v := by
  constructor
  · intro supplied v member
    refine ⟨?_, (supplied.values v member).2⟩
    cases filter : s.filter with
    | none =>
      have none : v ∈ Select.conditionValues s.filter := member
      rw [filter] at none
      cases none
    | some c =>
      have some : v ∈ Select.conditionValues s.filter := member
      rw [filter] at some
      exact supplied.conditions .filter c filter v some
  · intro bound
    refine ⟨fun v member => ?_, nofun, fun k c held v member => ?_⟩
    · exact ⟨Value.isCell_of_isScalar (bound v member).1, (bound v member).2⟩
    · cases k with
      | filter =>
        have filter : s.filter = some c := held
        refine (bound v ?_).1
        rw [Delete.values, filter]
        exact member
      | _ => cases held

/-- A call keeps a statement supplied, with what the call attempts. -/
theorem Supplied.apply {s : Statement} (supplied : s.Supplied attempts) (call : Call) :
    (s.apply driver call).state.Supplied (attempts ++ call.attempts driver s) := by
  have sourced : ∀ {before : List Value} {v : Value},
      (∀ v ∈ before, v.isScalar = true ∧ Given attempts v) →
      Sourced before (call.attempts driver s) v →
      v.isScalar = true ∧ Given (attempts ++ call.attempts driver s) v := by
    intro before v early now
    rcases now with member | ⟨scalar, given⟩
    · exact ⟨(early v member).1, (early v member).2.mono (List.subset_append_left _ _)⟩
    · exact ⟨scalar, given.mono (List.subset_append_right _ _)⟩
  have same : s.Supplied (attempts ++ call.attempts driver s) :=
    ⟨fun v member => ⟨(supplied.values v member).1,
      (supplied.values v member).2.mono (List.subset_append_left _ _)⟩,
      supplied.query, supplied.conditions⟩
  cases call <;> cases s
  case select.select call s =>
    exact supplied_select.mpr fun v member =>
      sourced (supplied_select.mp supplied) (call.sourced_run driver s v member)
  case insert.insert call s =>
    refine supplied_insert.mpr fun v member => ?_
    rcases call.values_run s v member with early | ⟨succeeded, cell, operand⟩
    · exact supplied_insert.mp same v early
    · refine ⟨cell, .statement driver (.insert call) (.insert s), ?_, succeeded, operand⟩
      exact List.mem_append_right _ List.mem_cons_self
  case update.update call s =>
    refine supplied_update.mpr ⟨fun v member bound => ?_, fun v member =>
      sourced (supplied_update.mp supplied).2 (call.sourced_run driver s v member)⟩
    rcases call.assigned_run driver s v member bound with early | ⟨succeeded, cell, operand⟩
    · exact (supplied_update.mp same).1 v early bound
    · refine ⟨cell, .statement driver (.update call) (.update s), ?_, succeeded, operand⟩
      exact List.mem_append_right _ List.mem_cons_self
  case delete.delete call s =>
    exact supplied_delete.mpr fun v member =>
      sourced (supplied_delete.mp supplied) (call.sourced_run driver s v member)
  all_goals exact same

end Statement

end SqlBuilder
