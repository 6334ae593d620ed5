import SqlBuilder.Proofs.Statement.Diction

set_option autoImplicit false

namespace SqlBuilder

inductive Compartment
  | table
  | columns
  | distinct
  | limit
  | offset
  | joins
  | filter
  | groups
  | having
  | orders
  | unions
  | assignments
  | rows
  | returning
  deriving DecidableEq

def SelectCall.compartment? : SelectCall → Option Compartment
  | .table _ => some .table
  | .columns _ => some .columns
  | .distinct => some .distinct
  | .limit _ => some .limit
  | .offset _ => some .offset
  | .join .. => some .joins
  | .filter _ => some .filter
  | .groupBy _ => some .groups
  | .having _ => some .having
  | .orderBy .. => some .orders
  | .union .. => some .unions
  | _ => none

def InsertCall.compartment? : InsertCall → Option Compartment
  | .into _ => some .table
  | .row _ => some .rows
  | .rows _ => some .rows
  | .returning _ => some .returning
  | .reset => none

def UpdateCall.compartment? : UpdateCall → Option Compartment
  | .table _ => some .table
  | .assign _ => some .assignments
  | .filter _ => some .filter
  | .reset => none

def DeleteCall.compartment? : DeleteCall → Option Compartment
  | .table _ => some .table
  | .filter _ => some .filter
  | .reset => none

def Call.compartment? : Call → Option Compartment
  | .select call => call.compartment?
  | .insert call => call.compartment?
  | .update call => call.compartment?
  | .delete call => call.compartment?

/-- Only calls write a statement; reading or sending it belongs to no clause. -/
def Operation.compartment? : Operation → Option Compartment
  | .call c => c.compartment?
  | _ => none

section

variable (k : Compartment)

/-- The query with nothing in any other clause. -/
def Select.only (s : Select) : Select where
  table := if k = .table then s.table else none
  columns := if k = .columns then s.columns else []
  distinct := if k = .distinct then s.distinct else false
  joins := if k = .joins then s.joins else []
  filter := if k = .filter then s.filter else none
  having := if k = .having then s.having else none
  groups := if k = .groups then s.groups else []
  orders := if k = .orders then s.orders else []
  limit := if k = .limit then s.limit else none
  offset := if k = .offset then s.offset else none
  unions := if k = .unions then s.unions else []

/-- The established columns come with the rows that establish them. -/
def Insert.only (s : Insert) : Insert where
  table := if k = .table then s.table else none
  columns := if k = .rows then s.columns else none
  rows := if k = .rows then s.rows else []
  returning := if k = .returning then s.returning else []

def Update.only (s : Update) : Update where
  table := if k = .table then s.table else none
  assignments := if k = .assignments then s.assignments else []
  filter := if k = .filter then s.filter else none

def Delete.only (s : Delete) : Delete where
  table := if k = .table then s.table else none
  filter := if k = .filter then s.filter else none

/-- The statement with nothing in any other compartment. -/
def Statement.only : Statement → Statement
  | .select s => .select (s.only k)
  | .insert s => .insert (s.only k)
  | .update s => .update (s.only k)
  | .delete s => .delete (s.only k)

end

theorem Statement.kind_only (k : Compartment) (s : Statement) : (s.only k).kind = s.kind := by
  cases s <;> rfl

def Select.assemble (part : Compartment → Select) : Select where
  table := (part .table).table
  columns := (part .columns).columns
  distinct := (part .distinct).distinct
  joins := (part .joins).joins
  filter := (part .filter).filter
  having := (part .having).having
  groups := (part .groups).groups
  orders := (part .orders).orders
  limit := (part .limit).limit
  offset := (part .offset).offset
  unions := (part .unions).unions

def Insert.assemble (part : Compartment → Insert) : Insert where
  table := (part .table).table
  columns := (part .rows).columns
  rows := (part .rows).rows
  returning := (part .returning).returning

def Update.assemble (part : Compartment → Update) : Update where
  table := (part .table).table
  assignments := (part .assignments).assignments
  filter := (part .filter).filter

def Delete.assemble (part : Compartment → Delete) : Delete where
  table := (part .table).table
  filter := (part .filter).filter

theorem Select.assemble_only (s : Select) : assemble (fun k => s.only k) = s := rfl

theorem Insert.assemble_only (s : Insert) : assemble (fun k => s.only k) = s := rfl

theorem Update.assemble_only (s : Update) : assemble (fun k => s.only k) = s := rfl

theorem Delete.assemble_only (s : Delete) : assemble (fun k => s.only k) = s := rfl

/-- A statement is what its compartments hold. -/
theorem Statement.eq_of_only {s t : Statement} (same : ∀ k, s.only k = t.only k) : s = t := by
  have kinds : s.kind = t.kind := by
    rw [← s.kind_only .table, same, t.kind_only]
  cases s <;> cases t <;> try cases kinds
  case select.select s t =>
    have parts := funext fun k => Statement.select.inj (same k)
    rw [← s.assemble_only, parts, t.assemble_only]
  case insert.insert s t =>
    have parts := funext fun k => Statement.insert.inj (same k)
    rw [← s.assemble_only, parts, t.assemble_only]
  case update.update s t =>
    have parts := funext fun k => Statement.update.inj (same k)
    rw [← s.assemble_only, parts, t.assemble_only]
  case delete.delete s t =>
    have parts := funext fun k => Statement.delete.inj (same k)
    rw [← s.assemble_only, parts, t.assemble_only]

section

variable {σ τ : Type}

theorem Except.map_map {ε α : Type} (g : σ → τ) (f : α → σ) (x : Except ε α) :
    (x.map f).map g = x.map fun a => g (f a) := by
  cases x <;> rfl

theorem Outcome.map_ofExcept (f : σ → τ) (s : σ) (x : Except Error σ) :
    (ofExcept s x).map f = ofExcept (f s) (x.map f) := by
  cases x <;> rfl

end

namespace Select

variable (s : Select)

theorem map_addOrder (column order : Value) :
    (s.addOrder column order).map (only .orders) = (s.only .orders).addOrder column order := by
  unfold addOrder
  cases column.fullString? with
  | none => rfl
  | some column =>
    dsimp only
    split <;> rfl

theorem map_addJoin (kind : JoinKind) (table : String) (on : Outcome (Option Condition)) :
    (s.addJoin kind table on).map (only .joins) = (s.only .joins).addJoin kind table on := by
  unfold addJoin Outcome.commit
  cases on.succeeded <;> rfl

theorem map_addUnion (all : Bool) (query : Outcome Select) :
    (s.addUnion all query).map (only .unions) = (s.only .unions).addUnion all query := by
  unfold addUnion
  cases query.failure with
  | some e => rfl
  | none =>
    dsimp only
    cases query.state.render <;> rfl

end Select

theorem Insert.map_addRows (s : Insert) (rows : Value) :
    (s.addRows rows).map (only .rows) = (s.only .rows).addRows rows := by
  unfold addRows
  cases rows.items? with
  | none => rfl
  | some items =>
    dsimp only
    split
    · rfl
    · split
      · rfl
      · exact Except.map_map _ _ _

/-- A call on a clause of a query works on its compartment. -/
theorem SelectCall.map_run (driver : Driver) {call : SelectCall} {k : Compartment}
    (placed : call.compartment? = some k) (s : Select) :
    (call.run driver s).map (Select.only k) = call.run driver (s.only k) := by
  cases call <;> cases placed
  case table name =>
    simp only [SelectCall.run, Outcome.map_ofExcept, Select.setTable]
    cases name.fullString? <;> rfl
  case columns names =>
    simp only [SelectCall.run, Outcome.map_ofExcept, Select.setColumns, Except.map_map]
    rfl
  case distinct => rfl
  case limit count =>
    simp only [SelectCall.run, Outcome.map_ofExcept, Select.setLimit, Except.map_map]
    rfl
  case offset count =>
    simp only [SelectCall.run, Outcome.map_ofExcept, Select.setOffset, Except.map_map]
    rfl
  case join kind table on =>
    simp only [SelectCall.run]
    cases table.fullString? with
    | none => rfl
    | some table => exact s.map_addJoin kind table _
  case filter call => rfl
  case groupBy columns =>
    simp only [SelectCall.run, Outcome.map_ofExcept, Select.addGroups, Except.map_map]
    rfl
  case having predicate => rfl
  case orderBy column order =>
    simp only [SelectCall.run, Outcome.map_ofExcept, Select.map_addOrder]
  case union all query =>
    cases query with
    | other v => rfl
    | callback calls =>
      simp only [SelectCall.run, Subquery.addTo]
      exact s.map_addUnion all _

theorem InsertCall.map_run {call : InsertCall} {k : Compartment}
    (placed : call.compartment? = some k) (s : Insert) :
    (call.run s).map (Insert.only k) = call.run (s.only k) := by
  cases call <;> cases placed
  case into name =>
    simp only [InsertCall.run, Outcome.map_ofExcept, Insert.setTable]
    cases name.fullString? <;> rfl
  case row entries =>
    simp only [InsertCall.run, Outcome.map_ofExcept, Insert.addRow, Except.map_map]
    rfl
  case rows items =>
    simp only [InsertCall.run, Outcome.map_ofExcept, Insert.map_addRows]
  case returning names =>
    simp only [InsertCall.run, Outcome.map_ofExcept, Insert.setReturning]
    split <;> rfl

theorem Update.map_assign (s : Update) (row : Value) :
    (s.assign row).map (only .assignments) = (s.only .assignments).assign row := by
  unfold assign
  cases row.entries? with
  | none => rfl
  | some entries =>
    dsimp only
    split <;> rfl

theorem UpdateCall.map_run (driver : Driver) {call : UpdateCall} {k : Compartment}
    (placed : call.compartment? = some k) (s : Update) :
    (call.run driver s).map (Update.only k) = call.run driver (s.only k) := by
  cases call <;> cases placed
  case table name =>
    simp only [UpdateCall.run, Outcome.map_ofExcept, Update.setTable]
    cases name.fullString? <;> rfl
  case assign row =>
    simp only [UpdateCall.run, Outcome.map_ofExcept, Update.map_assign]
  case filter call => rfl

theorem DeleteCall.map_run (driver : Driver) {call : DeleteCall} {k : Compartment}
    (placed : call.compartment? = some k) (s : Delete) :
    (call.run driver s).map (Delete.only k) = call.run driver (s.only k) := by
  cases call <;> cases placed
  case table name =>
    simp only [DeleteCall.run, Outcome.map_ofExcept, Delete.setTable]
    cases name.fullString? <;> rfl
  case filter call => rfl

/-- A call does to a statement what it does to its compartment alone. -/
theorem Statement.map_apply (driver : Driver) {call : Call} {k : Compartment}
    (placed : call.compartment? = some k) (s : Statement) :
    (s.apply driver call).map (Statement.only k) = (s.only k).apply driver call := by
  cases call <;> cases s
  case select.select call s =>
    exact congrArg (Outcome.map Statement.select) (SelectCall.map_run driver placed s)
  case insert.insert call s =>
    exact congrArg (Outcome.map Statement.insert) (InsertCall.map_run placed s)
  case update.update call s =>
    exact congrArg (Outcome.map Statement.update) (UpdateCall.map_run driver placed s)
  case delete.delete call s =>
    exact congrArg (Outcome.map Statement.delete) (DeleteCall.map_run driver placed s)
  all_goals rfl

/-- What every result has in common with the state before holds of the state after. -/
theorem Outcome.image_ofExcept {σ τ : Type} {f : σ → τ} {s : σ} {x : Except Error σ}
    (kept : ∀ t, x = .ok t → f t = f s) : f (ofExcept s x).state = f s :=
  ofExcept_state (P := fun t => f t = f s) rfl kept

theorem SelectCall.only_run (driver : Driver) {call : SelectCall} {k other : Compartment}
    (placed : call.compartment? = some k) (apart : other ≠ k) (s : Select) :
    (call.run driver s).state.only other = s.only other := by
  cases call <;> cases placed
  case table name =>
    apply Outcome.image_ofExcept
    intro t ok
    unfold Select.setTable at ok
    split at ok <;> cases ok
    simp [Select.only, apart]
  case columns names =>
    apply Outcome.image_ofExcept
    intro t ok
    obtain ⟨columns, _, rfl⟩ := Except.map_eq_ok.mp ok
    simp [Select.only, apart]
  case distinct => simp [SelectCall.run, Outcome.done, Select.only, apart]
  case limit count =>
    apply Outcome.image_ofExcept
    intro t ok
    obtain ⟨n, _, rfl⟩ := Except.map_eq_ok.mp ok
    simp [Select.only, apart]
  case offset count =>
    apply Outcome.image_ofExcept
    intro t ok
    obtain ⟨n, _, rfl⟩ := Except.map_eq_ok.mp ok
    simp [Select.only, apart]
  case join kind table on =>
    simp only [SelectCall.run]
    cases table.fullString? with
    | none => rfl
    | some table =>
      simp only [Select.addJoin, Outcome.commit]
      split
      · simp [Select.only, apart]
      · rfl
  case filter call => simp [SelectCall.run, Outcome.map, Select.only, apart]
  case groupBy columns =>
    apply Outcome.image_ofExcept
    intro t ok
    obtain ⟨groups, _, rfl⟩ := Except.map_eq_ok.mp ok
    simp [Select.only, apart]
  case having predicate => simp [SelectCall.run, Outcome.map, Select.only, apart]
  case orderBy column order =>
    apply Outcome.image_ofExcept
    intro t ok
    unfold Select.addOrder at ok
    split at ok
    · cases ok
    · split at ok <;> cases ok
      simp [Select.only, apart]
  case union all query =>
    cases query with
    | other v => rfl
    | callback calls =>
      simp only [SelectCall.run, Subquery.addTo]
      rcases Select.addUnion_eq s all (SelectCall.runAll driver calls .empty) with
        ⟨sql, _, _, added⟩ | ⟨e, refused⟩
      · rw [added]
        simp [Select.only, apart]
      · rw [refused]

theorem InsertCall.only_run {call : InsertCall} {k other : Compartment}
    (placed : call.compartment? = some k) (apart : other ≠ k) (s : Insert) :
    (call.run s).state.only other = s.only other := by
  cases call <;> cases placed
  case into name =>
    apply Outcome.image_ofExcept
    intro t ok
    unfold Insert.setTable at ok
    split at ok <;> cases ok
    simp [Insert.only, apart]
  case row entries =>
    apply Outcome.image_ofExcept
    intro t ok
    obtain ⟨columns, vector, _, rfl⟩ := Insert.addRow_eq_ok.mp ok
    simp [Insert.only, apart]
  case rows items =>
    apply Outcome.image_ofExcept
    intro t ok
    obtain ⟨_, columns, vectors, _, _, _, _, rfl⟩ := Insert.addRows_eq_ok.mp ok
    simp [Insert.only, apart]
  case returning names =>
    apply Outcome.image_ofExcept
    intro t ok
    obtain ⟨_, _, rfl⟩ := Insert.setReturning_eq_ok.mp ok
    simp [Insert.only, apart]

theorem UpdateCall.only_run (driver : Driver) {call : UpdateCall} {k other : Compartment}
    (placed : call.compartment? = some k) (apart : other ≠ k) (s : Update) :
    (call.run driver s).state.only other = s.only other := by
  cases call <;> cases placed
  case table name =>
    apply Outcome.image_ofExcept
    intro t ok
    unfold Update.setTable at ok
    split at ok <;> cases ok
    simp [Update.only, apart]
  case assign row =>
    apply Outcome.image_ofExcept
    intro t ok
    obtain ⟨entries, _, _, rfl⟩ := Update.assign_eq_ok.mp ok
    simp [Update.only, apart]
  case filter call => simp [UpdateCall.run, Outcome.map, Update.only, apart]

theorem DeleteCall.only_run (driver : Driver) {call : DeleteCall} {k other : Compartment}
    (placed : call.compartment? = some k) (apart : other ≠ k) (s : Delete) :
    (call.run driver s).state.only other = s.only other := by
  cases call <;> cases placed
  case table name =>
    apply Outcome.image_ofExcept
    intro t ok
    unfold Delete.setTable at ok
    split at ok <;> cases ok
    simp [Delete.only, apart]
  case filter call => simp [DeleteCall.run, Outcome.map, Delete.only, apart]

/-- A call leaves every other compartment as it was. -/
theorem Statement.only_apply (driver : Driver) {call : Call} {k other : Compartment}
    (placed : call.compartment? = some k) (apart : other ≠ k) (s : Statement) :
    (s.apply driver call).state.only other = s.only other := by
  cases call <;> cases s
  case select.select call s =>
    exact congrArg Statement.select (SelectCall.only_run driver placed apart s)
  case insert.insert call s =>
    exact congrArg Statement.insert (InsertCall.only_run placed apart s)
  case update.update call s =>
    exact congrArg Statement.update (UpdateCall.only_run driver placed apart s)
  case delete.delete call s =>
    exact congrArg Statement.delete (DeleteCall.only_run driver placed apart s)
  all_goals rfl

end SqlBuilder
