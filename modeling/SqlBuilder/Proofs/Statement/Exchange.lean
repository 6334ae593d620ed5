import SqlBuilder.Proofs.Select.Exchange
import SqlBuilder.Proofs.Statement.Rendering

set_option autoImplicit false

namespace SqlBuilder

variable {R : Value → Value → Prop}

/-- A value that a row has accepted: nothing stays nothing, any other value is bound. -/
def Value.CellExchanged (R : Value → Value → Prop) (v w : Value) : Prop :=
  if v.isNull then w = v else w.isNull = false ∧ R v w

namespace Value

variable {v w : Value}

theorem isBindable_eq (v : Value) : v.isBindable = (v.isNull || v.isCell) :=
  Bool.or_assoc ..

theorem isNull_of_isCell (cell : v.isCell = true) : v.isNull = false := by
  cases v <;> first | rfl | cases cell

theorem Exchanged.isBindable (exchanged : v.Exchanged R isCell w) :
    w.isBindable = v.isBindable ∧ (v.isBindable = false → w = v) := by
  rw [isBindable_eq, isBindable_eq, exchanged.admitted]
  cases cell : v.isCell with
  | true => simp
  | false =>
    rw [exchanged.eq_of_refused cell]
    exact ⟨rfl, fun _ => rfl⟩

/-- Values that a row accepts are exchanged as its cells. -/
theorem Exchanged.cell (exchanged : v.Exchanged R isCell w) (bindable : v.isBindable = true) :
    v.CellExchanged R w := by
  unfold CellExchanged
  cases cell : v.isCell with
  | true =>
    rw [isNull_of_isCell cell]
    exact ⟨isNull_of_isCell (exchanged.admitted.trans cell), exchanged.related cell⟩
  | false =>
    rw [isBindable_eq, cell, Bool.or_false] at bindable
    rw [bindable]
    exact exchanged.eq_of_refused cell

theorem CellExchanged.isNull (exchanged : v.CellExchanged R w) : w.isNull = v.isNull := by
  unfold CellExchanged at exchanged
  cases null : v.isNull with
  | true =>
    rw [null] at exchanged
    rw [exchanged, null]
  | false =>
    rw [null] at exchanged
    exact exchanged.1

theorem CellExchanged.related (exchanged : v.CellExchanged R w) (bound : v.isNull = false) :
    R v w := by
  rw [CellExchanged, bound] at exchanged
  exact exchanged.2

theorem cells_exchanged {values others : List Value}
    (pairs : List.Forall₂ (Value.Exchanged R isCell) values others)
    (bindable : ∀ v ∈ values, v.isBindable = true) :
    List.Forall₂ (CellExchanged R) values others := by
  induction pairs with
  | nil => exact .nil
  | cons first _ ih =>
    obtain ⟨one, rest⟩ := List.forall_mem_cons.mp bindable
    exact .cons (first.cell one) (ih rest)

/-- The bound values of exchanged cells are related place by place. -/
theorem bound_related {values others : List Value}
    (pairs : List.Forall₂ (CellExchanged R) values others) :
    List.Forall₂ R (values.filter fun v => !v.isNull) (others.filter fun v => !v.isNull) := by
  induction pairs with
  | nil => exact .nil
  | @cons v w values others first _ ih =>
    rw [List.filter_cons, List.filter_cons, first.isNull]
    cases null : v.isNull with
    | true => exact ih
    | false => exact .cons (first.related null) ih

end Value

namespace Entries

variable {entries others : Entries}

theorem Exchanged.keys (same : Exchanged R entries others) : others.keys = entries.keys := by
  induction same with
  | nil => rfl
  | cons first _ ih => exact congrArg₂ List.cons first.1 ih

theorem Exchanged.values (same : Exchanged R entries others) :
    List.Forall₂ (Value.Exchanged R Value.isCell) entries.values others.values := by
  induction same with
  | nil => exact .nil
  | cons first _ ih => exact .cons first.2 ih

theorem Exchanged.hasKey (same : Exchanged R entries others) (key : Value) :
    others.hasKey key = entries.hasKey key := by
  unfold Entries.hasKey
  induction same with
  | nil => rfl
  | cons first _ ih => rw [List.any_cons, List.any_cons, first.1, ih]

/-- Under each key stand exchanged values, or nothing in both. -/
theorem Exchanged.get? (same : Exchanged R entries others) (key : Value) :
    ((entries.get? key).getD .null).Exchanged R Value.isCell ((others.get? key).getD .null) := by
  unfold Entries.get?
  induction same with
  | nil => exact rfl
  | @cons entry other entries others first _ ih =>
    rw [List.find?_cons, List.find?_cons, first.1]
    cases entry.1.same key with
    | true => exact first.2
    | false => exact ih

theorem bindable_get? {key : Value} (bindable : ∀ v ∈ entries.values, v.isBindable = true) :
    ((entries.get? key).getD .null).isBindable = true := by
  unfold Entries.get?
  cases found : entries.find? fun entry => entry.1.same key with
  | none => rfl
  | some entry =>
    exact bindable entry.2 (List.mem_map_of_mem (List.mem_of_find?_eq_some found))

/-- The first value that no row accepts is the same one. -/
theorem Exchanged.refused (same : Exchanged R entries others) :
    (others.values.find? fun v => !v.isBindable) =
      entries.values.find? fun v => !v.isBindable :=
  Value.find?_refused _ same.values fun _ _ exchanged => exchanged.isBindable

end Entries

/-- The same columns in the same order, with exchanged cells. -/
abbrev CellsExchanged (R : Value → Value → Prop) : Entries → Entries → Prop :=
  List.Forall₂ fun entry other => other.1 = entry.1 ∧ entry.2.CellExchanged R other.2

structure Insert.Exchanged (R : Value → Value → Prop) (s t : Insert) : Prop where
  table : t.table = s.table
  columns : t.columns = s.columns
  rows : List.Forall₂ (List.Forall₂ (Value.CellExchanged R)) s.rows t.rows
  returning : t.returning = s.returning

structure Update.Exchanged (R : Value → Value → Prop) (s t : Update) : Prop where
  table : t.table = s.table
  assignments : CellsExchanged R s.assignments t.assignments
  filter : ClauseExchanged R s.filter t.filter

structure Delete.Exchanged (R : Value → Value → Prop) (s t : Delete) : Prop where
  table : t.table = s.table
  filter : ClauseExchanged R s.filter t.filter

inductive Statement.Exchanged (R : Value → Value → Prop) : Statement → Statement → Prop
  | select {s t : Select} (same : s.Exchanged R t) : Exchanged R (.select s) (.select t)
  | insert {s t : Insert} (same : s.Exchanged R t) : Exchanged R (.insert s) (.insert t)
  | update {s t : Update} (same : s.Exchanged R t) : Exchanged R (.update s) (.update t)
  | delete {s t : Delete} (same : s.Exchanged R t) : Exchanged R (.delete s) (.delete t)

namespace Insert

theorem cell_exchanged {v w : Value} (same : v.CellExchanged R w) :
    Sql.Exchanged R (cell v) (cell w) := by
  unfold cell
  rw [same.isNull]
  cases null : v.isNull with
  | true => exact .literal "NULL"
  | false => exact ⟨rfl, .cons (same.related null) .nil⟩

theorem renderRow_exchanged {row other : List Value}
    (pairs : List.Forall₂ (Value.CellExchanged R) row other) :
    Sql.Exchanged R (renderRow row) (renderRow other) := by
  have cells : List.Forall₂ (Sql.Exchanged R) (row.map cell) (other.map cell) :=
    forall₂_map pairs fun _ _ => cell_exchanged
  exact .cons "(" ((Sql.Exchanged.joinWith cells).append (.literal ")"))

theorem Exchanged.render {s t : Insert} (same : s.Exchanged R t) :
    Except.Agree Eq (Sql.Exchanged R) s.render t.render := by
  have empty : t.rows.isEmpty = s.rows.isEmpty := isEmpty_of_forall₂ same.rows
  have returning : t.returningClause = s.returningClause := by
    unfold returningClause
    rw [same.returning]
  have returned : Sql.Exchanged R s.returningClause s.returningClause := by
    unfold returningClause
    split
    · exact .nil
    · exact .literal _
  have rows : List.Forall₂ (Sql.Exchanged R) (s.rows.map renderRow) (t.rows.map renderRow) :=
    forall₂_map same.rows fun _ _ => renderRow_exchanged
  unfold Insert.render
  rw [same.table, same.columns]
  cases s.table with
  | none => rfl
  | some table =>
    dsimp only
    split
    · rfl
    · rw [empty, returning]
      split
      · rfl
      · refine Except.Agree.map (S := Eq) .refl ?_
        rintro names _ rfl
        exact .cons _ ((Sql.Exchanged.joinWith rows).append returned)

theorem Exchanged.values {s t : Insert} (same : s.Exchanged R t) :
    List.Forall₂ R s.values t.values :=
  List.rel_flatMap same.rows fun _ _ => Value.bound_related

end Insert

namespace Update

theorem assignment_agree {entry other : Value × Value} (column : other.1 = entry.1)
    (cell : entry.2.CellExchanged R other.2) :
    Except.Agree Eq (Sql.Exchanged R) (assignment entry) (assignment other) := by
  unfold assignment
  rw [column, cell.isNull]
  refine Except.Agree.map (S := Eq) .refl ?_
  rintro name _ rfl
  cases null : entry.2.isNull with
  | true => exact .literal _
  | false => exact ⟨rfl, .cons (cell.related null) .nil⟩

theorem Exchanged.render {s t : Update} (same : s.Exchanged R t) :
    Except.Agree Eq (Sql.Exchanged R) s.render t.render := by
  have empty : t.assignments.isEmpty = s.assignments.isEmpty :=
    isEmpty_of_forall₂ same.assignments
  unfold Update.render
  rw [same.table, empty]
  cases s.table with
  | none => rfl
  | some table =>
    dsimp only
    split
    · rfl
    · have filter := same.filter
      cases first : s.filter <;> cases second : t.filter <;> rw [first, second] at filter
      case none.none => rfl
      case some.some c d =>
        cases filter with
        | some condition =>
          refine (Except.Agree.mapM same.assignments fun _ _ pair =>
            assignment_agree pair.1 pair.2).bind fun _ _ assigned => ?_
          apply condition.build.bind
          intro _ _ built
          exact .cons _ ((Sql.Exchanged.joinWith assigned).append (.cons _ built))
      all_goals cases filter

theorem Exchanged.values {s t : Update} (same : s.Exchanged R t) :
    List.Forall₂ R s.values t.values := by
  have cells : List.Forall₂ (Value.CellExchanged R) s.assignments.values t.assignments.values :=
    forall₂_map same.assignments fun _ _ pair => pair.2
  exact List.rel_append (Value.bound_related cells) (Select.conditionValues_exchanged same.filter)

end Update

namespace Delete

theorem Exchanged.render {s t : Delete} (same : s.Exchanged R t) :
    Except.Agree Eq (Sql.Exchanged R) s.render t.render := by
  unfold Delete.render
  rw [same.table]
  cases s.table with
  | none => rfl
  | some table =>
    dsimp only
    have filter := same.filter
    cases first : s.filter <;> cases second : t.filter <;> rw [first, second] at filter
    case none.none => rfl
    case some.some c d =>
      cases filter with
      | some condition => exact condition.build.map fun _ _ built => .cons _ built
    all_goals cases filter

end Delete

namespace Statement

variable {s t : Statement}

theorem empty_exchanged (kind : StatementKind) : (empty kind).Exchanged R (empty kind) := by
  cases kind
  case select => exact .select Select.empty_exchanged
  case insert => exact .insert ⟨rfl, rfl, .nil, rfl⟩
  case update => exact .update ⟨rfl, .nil, .none⟩
  case delete => exact .delete ⟨rfl, .none⟩

theorem Exchanged.kind (same : s.Exchanged R t) : t.kind = s.kind := by
  cases same <;> rfl

theorem Exchanged.render (same : s.Exchanged R t) :
    Except.Agree Eq (Sql.Exchanged R) s.render t.render := by
  cases same with
  | select same => exact same.render
  | insert same => exact same.render
  | update same => exact same.render
  | delete same => exact same.render

theorem Exchanged.toSql (same : s.Exchanged R t) : t.toSql = s.toSql := by
  refine (Except.Agree.map same.render fun a b rendered => ?_).eq.symm
  rw [rendered.text]

theorem Exchanged.values (same : s.Exchanged R t) : List.Forall₂ R s.values t.values := by
  cases same with
  | select same => exact same.values
  | insert same => exact same.values
  | update same => exact same.values
  | delete same => exact Select.conditionValues_exchanged same.filter

end Statement

end SqlBuilder
