import SqlBuilder.Proofs.Call.Noninterference
import SqlBuilder.Proofs.Statement.Exchange

set_option autoImplicit false

namespace SqlBuilder

variable {R : Value → Value → Prop}

/-- The same failure, or the refusal of one of these pairs of rows, each of which shows its own. -/
def Error.RowsAgree (pairs : List (Value × Value)) (e f : Error) : Prop :=
  e = f ∨ ∃ p ∈ pairs, e = .invalid .insertRow p.1 ∧ f = .invalid .insertRow p.2

theorem Error.RowsAgree.mono {pairs more : List (Value × Value)} {e f : Error}
    (agree : RowsAgree pairs e f) (sub : pairs ⊆ more) : RowsAgree more e f :=
  agree.imp_right fun ⟨p, member, shown⟩ => ⟨p, sub member, shown⟩

/-- What the errors of an insertion may differ in: a row that is refused, and a list of rows that is
refused as a whole, are shown as they were given. -/
def InsertCall.ErrorAgree : InsertCall → InsertCall → Error → Error → Prop
  | .row given, .row other, e, f => Error.RowsAgree [(given, other)] e f
  | .rows given, .rows other, e, f =>
    Error.RowsAgree ((given.items?.getD []).zip (other.items?.getD [])) e f ∨
      e = .invalid .insertRows given ∧ f = .invalid .insertRows other
  | _, _, e, f => e = f

namespace Insert

variable {s t : Insert}

theorem row_cases {v w : Value} (exchanged : v.RowExchanged R w) :
    (v.entries? = none ∧ w = v) ∨
      ∃ entries others, v = .map entries ∧ w = .map others ∧
        Entries.Exchanged R entries others := by
  cases v with
  | map entries =>
    obtain ⟨others, rfl, same⟩ := exchanged
    exact .inr ⟨entries, others, rfl, rfl, same⟩
  | _ => exact .inl ⟨rfl, exchanged⟩

/-- Exchanged rows are reordered alike or refused alike. -/
theorem reorder_agree {entries others : Entries} {columns : List Value}
    (same : Entries.Exchanged R entries others) :
    Except.Agree (Error.RowsAgree [(.map entries, .map others)])
      (fun vector vector' => List.Forall₂ (Value.Exchanged R Value.isCell) vector vector' ∧
        ((∀ v ∈ entries.values, v.isBindable = true) → ∀ v ∈ vector, v.isBindable = true))
      (reorder (.map entries) entries columns) (reorder (.map others) others columns) := by
  have keys : (columns.any fun key => !others.hasKey key) =
      columns.any fun key => !entries.hasKey key := by
    congr 1
    funext key
    rw [same.hasKey]
  unfold reorder
  rw [List.Forall₂.length_eq same, keys]
  split
  · exact .inr ⟨_, List.mem_singleton_self _, rfl, rfl⟩
  · refine ⟨forall₂_map (S := Eq) (List.forall₂_same.mpr fun _ _ => rfl) ?_, ?_⟩
    · rintro key _ rfl
      exact same.get? key
    · intro bindable v member
      obtain ⟨key, _, rfl⟩ := List.mem_map.mp member
      exact Entries.bindable_get? bindable

/-- The values of an accepted row become exchanged cells under the same columns. -/
theorem rowVector_agree {row other : Value} (established : Option (List Value))
    (exchanged : row.RowExchanged R other) :
    Except.Agree (Error.RowsAgree [(row, other)])
      (fun x y => y.1 = x.1 ∧ List.Forall₂ (Value.CellExchanged R) x.2 y.2)
      (rowVector row established) (rowVector other established) := by
  rcases row_cases exchanged with ⟨none, rfl⟩ | ⟨entries, others, rfl, rfl, same⟩
  · unfold rowVector
    rw [none]
    exact .inl rfl
  · unfold rowVector
    cases established with
    | some columns =>
      refine Except.Agree.bind (S := fun x y => y.1 = x.1 ∧
        List.Forall₂ (Value.Exchanged R Value.isCell) x.2 y.2 ∧
          ((∀ v ∈ Entries.values entries, v.isBindable = true) →
            ∀ v ∈ x.2, v.isBindable = true))
        ((reorder_agree same).map fun _ _ both => ⟨rfl, both⟩) ?_
      rintro ⟨columns, vector⟩ ⟨_, vector'⟩ ⟨rfl, pairs, bindable⟩
      dsimp only
      rw [same.refused]
      rcases Value.find?_not_cases Value.isBindable (Entries.values entries) with
        ⟨found, all⟩ | ⟨v, found, _⟩
      · rw [found]
        exact ⟨rfl, Value.cells_exchanged pairs (bindable all)⟩
      · rw [found]
        exact .inl rfl
    | none =>
      have empty := isEmpty_of_forall₂ same
      simp only [Value.entries?, empty]
      cases none : entries.isEmpty with
      | true =>
        rw [List.isEmpty_iff] at none
        subst none
        cases same
        exact .inl rfl
      | false =>
        simp only [Bool.false_eq_true, ↓reduceIte, bind, Except.bind]
        rw [same.keys, same.refused]
        rcases Value.find?_not_cases Value.isBindable (Entries.values entries) with
          ⟨found, all⟩ | ⟨v, found, _⟩
        · rw [found]
          exact ⟨rfl, Value.cells_exchanged same.values all⟩
        · rw [found]
          exact .inl rfl

theorem rowVectors_agree {rows others : List Value} (established : Option (List Value))
    (pairs : List.Forall₂ (Value.RowExchanged R) rows others) :
    Except.Agree (Error.RowsAgree (rows.zip others))
      (fun x y => y.1 = x.1 ∧ List.Forall₂ (List.Forall₂ (Value.CellExchanged R)) x.2 y.2)
      (rowVectors rows established) (rowVectors others established) := by
  induction pairs generalizing established with
  | nil => exact ⟨rfl, .nil⟩
  | @cons row other rows others first _ ih =>
    have here := (rowVector_agree established first).imp
      (F := Error.RowsAgree ((row, other) :: rows.zip others))
      (fun _ _ agree => agree.mono (List.cons_subset_cons _ (List.nil_subset _))) fun _ _ => id
    refine here.bind ?_
    rintro ⟨_, vector⟩ ⟨names, vector'⟩ ⟨rfl, cells⟩
    have later := (ih (some names)).imp
      (F := Error.RowsAgree ((row, other) :: rows.zip others))
      (fun _ _ agree => agree.mono (List.subset_cons_self _ _)) fun _ _ => id
    exact later.map fun x y both => ⟨both.1, .cons cells both.2⟩

theorem isMap_eq {v w : Value} (exchanged : v.RowExchanged R w) : w.isMap = v.isMap := by
  rcases row_cases exchanged with ⟨_, rfl⟩ | ⟨entries, others, rfl, rfl, _⟩
  · rfl
  · rfl

theorem Exchanged.addRow {row other : Value} (same : s.Exchanged R t)
    (exchanged : row.RowExchanged R other) :
    Except.Agree (Error.RowsAgree [(row, other)]) (Insert.Exchanged R) (s.addRow row)
      (t.addRow other) := by
  unfold Insert.addRow
  rw [same.columns]
  refine (rowVector_agree _ exchanged).map ?_
  rintro ⟨columns, vector⟩ ⟨_, vector'⟩ ⟨rfl, cells⟩
  exact ⟨same.table, rfl, List.rel_append same.rows (.cons cells .nil), same.returning⟩

theorem rows_cases {v w : Value} (exchanged : v.RowsExchanged R w) :
    (v.items? = none ∧ w = v) ∨ ∃ rows others, v.items? = some rows ∧ w.items? = some others ∧
      List.Forall₂ (Value.RowExchanged R) rows others := by
  cases v with
  | list rows =>
    obtain ⟨others, rfl, pairs⟩ := exchanged
    exact .inr ⟨rows, others, rfl, rfl, pairs⟩
  | tuple rows =>
    obtain ⟨others, rfl, pairs⟩ := exchanged
    exact .inr ⟨rows, others, rfl, rfl, pairs⟩
  | _ => exact .inl ⟨rfl, exchanged⟩

theorem Exchanged.addRows {rows other : Value} (same : s.Exchanged R t)
    (exchanged : rows.RowsExchanged R other) :
    Except.Agree
      (fun e f => Error.RowsAgree ((rows.items?.getD []).zip (other.items?.getD [])) e f ∨
        e = .invalid .insertRows rows ∧ f = .invalid .insertRows other)
      (Insert.Exchanged R) (s.addRows rows) (t.addRows other) := by
  unfold Insert.addRows
  rcases rows_cases exchanged with ⟨none, rfl⟩ | ⟨items, others, found, found', pairs⟩
  · rw [none]
    exact .inr ⟨rfl, rfl⟩
  · have maps : (others.any fun row => !row.isMap) = items.any fun row => !row.isMap := by
      clear found found'
      induction pairs with
      | nil => rfl
      | cons first _ ih => rw [List.any_cons, List.any_cons, isMap_eq first, ih]
    rw [found, found']
    dsimp only
    rw [maps, pairs.length_eq, same.columns]
    split
    · exact .inr ⟨rfl, rfl⟩
    · split
      · exact .inl (.inl rfl)
      · have added := (rowVectors_agree s.columns pairs).imp
          (F := fun e f => Error.RowsAgree (items.zip others) e f ∨
            e = .invalid .insertRows rows ∧ f = .invalid .insertRows other)
          (fun _ _ => .inl) fun _ _ => id
        refine added.map ?_
        rintro ⟨columns, vectors⟩ ⟨_, vectors'⟩ ⟨rfl, added⟩
        exact ⟨same.table, rfl, List.rel_append same.rows added, same.returning⟩

end Insert

theorem InsertCall.errorAgree_refl (call : InsertCall) {other : InsertCall}
    (exchanged : call.Exchanged R other) (e : Error) : call.ErrorAgree other e e := by
  cases call with
  | row row =>
    obtain ⟨_, rfl, _⟩ := exchanged
    exact .inl rfl
  | rows rows =>
    obtain ⟨_, rfl, _⟩ := exchanged
    exact .inl (.inl rfl)
  | _ => exact rfl

/-- A call on exchanged insertions keeps them exchanged; only a refused row tells them apart. -/
theorem InsertCall.run_agree (call : InsertCall) {other : InsertCall} {s t : Insert}
    (exchanged : call.Exchanged R other) (same : s.Exchanged R t) :
    Outcome.Agree (call.ErrorAgree other) (Insert.Exchanged R) (call.run s) (other.run t) := by
  cases call with
  | into name =>
    cases exchanged
    refine .ofExcept same ?_
    unfold Insert.setTable
    cases name.fullString? with
    | none => exact rfl
    | some table => exact ⟨rfl, same.columns, same.rows, same.returning⟩
  | row entries =>
    obtain ⟨entries', rfl, exchanged⟩ := exchanged
    exact .ofExcept same (same.addRow exchanged)
  | rows items =>
    obtain ⟨items', rfl, exchanged⟩ := exchanged
    exact .ofExcept same (same.addRows exchanged)
  | returning names =>
    cases exchanged
    refine .ofExcept same ?_
    unfold Insert.setReturning
    split
    · exact rfl
    · exact ⟨same.table, same.columns, same.rows, rfl⟩
  | reset =>
    cases exchanged
    exact .done ⟨rfl, rfl, .nil, rfl⟩

theorem Update.Exchanged.assign {s t : Update} {row other : Value} (same : s.Exchanged R t)
    (exchanged : row.RowExchanged R other) :
    Except.Agree Eq (Update.Exchanged R) (s.assign row) (t.assign other) := by
  unfold Update.assign
  rcases Insert.row_cases exchanged with ⟨none, rfl⟩ | ⟨entries, others, rfl, rfl, pairs⟩
  · rw [none]
    rfl
  · simp only [Value.entries?, pairs.refused]
    rcases Value.find?_not_cases Value.isBindable (Entries.values entries) with
      ⟨found, all⟩ | ⟨v, found, _⟩
    · have cells : CellsExchanged R entries others := by
        clear found exchanged
        induction pairs with
        | nil => exact .nil
        | cons first _ ih =>
          obtain ⟨one, rest⟩ := List.forall_mem_cons.mp all
          exact .cons ⟨first.1, first.2.cell one⟩ (ih rest)
      rw [found]
      exact ⟨same.table, cells, same.filter⟩
    · rw [found]
      rfl

theorem UpdateCall.run_agree (driver : Driver) (call : UpdateCall) {other : UpdateCall}
    {s t : Update} (exchanged : call.Exchanged R other) (same : s.Exchanged R t) :
    Outcome.Agree Eq (Update.Exchanged R) (call.run driver s) (other.run driver t) := by
  cases call with
  | table name =>
    cases exchanged
    refine .ofExcept same ?_
    unfold Update.setTable
    cases name.fullString? with
    | none => rfl
    | some table => exact ⟨rfl, same.assignments, same.filter⟩
  | assign row =>
    obtain ⟨row', rfl, exchanged⟩ := exchanged
    exact .ofExcept same (same.assign exchanged)
  | filter call =>
    obtain ⟨call', rfl, exchanged⟩ := exchanged
    exact (call.run_agree driver .update exchanged same.filter).map fun f g clause =>
      { same with filter := clause }
  | reset =>
    cases exchanged
    exact .done ⟨rfl, .nil, .none⟩

theorem DeleteCall.run_agree (driver : Driver) (call : DeleteCall) {other : DeleteCall}
    {s t : Delete} (exchanged : call.Exchanged R other) (same : s.Exchanged R t) :
    Outcome.Agree Eq (Delete.Exchanged R) (call.run driver s) (other.run driver t) := by
  cases call with
  | table name =>
    cases exchanged
    refine .ofExcept same ?_
    unfold Delete.setTable
    cases name.fullString? with
    | none => rfl
    | some table => exact ⟨rfl, same.filter⟩
  | filter call =>
    obtain ⟨call', rfl, exchanged⟩ := exchanged
    exact (call.run_agree driver .delete exchanged same.filter).map fun f g clause =>
      { same with filter := clause }
  | reset =>
    cases exchanged
    exact .done ⟨rfl, .none⟩

/-- What the errors of a call may differ in: only insertions show what they were given to bind. -/
def Call.ErrorAgree : Call → Call → Error → Error → Prop
  | .insert call, .insert other, e, f => call.ErrorAgree other e f
  | _, _, e, f => e = f

theorem Statement.apply_agree (driver : Driver) {c other : Call} {s t : Statement}
    (exchanged : c.Exchanged R other) (same : s.Exchanged R t) :
    Outcome.Agree (c.ErrorAgree other) (Statement.Exchanged R) (s.apply driver c)
      (t.apply driver other) := by
  cases c with
  | select call =>
    obtain ⟨call', rfl, exchanged⟩ := exchanged
    cases same with
    | select same => exact (call.run_agree driver exchanged same).map fun _ _ => .select
    | insert same => exact .fail (.insert same) rfl
    | update same => exact .fail (.update same) rfl
    | delete same => exact .fail (.delete same) rfl
  | insert call =>
    obtain ⟨call', rfl, exchanged⟩ := exchanged
    cases same with
    | insert same => exact (call.run_agree exchanged same).map fun _ _ => .insert
    | select same => exact .fail (.select same) (call.errorAgree_refl exchanged _)
    | update same => exact .fail (.update same) (call.errorAgree_refl exchanged _)
    | delete same => exact .fail (.delete same) (call.errorAgree_refl exchanged _)
  | update call =>
    obtain ⟨call', rfl, exchanged⟩ := exchanged
    cases same with
    | update same => exact (call.run_agree driver exchanged same).map fun _ _ => .update
    | select same => exact .fail (.select same) rfl
    | insert same => exact .fail (.insert same) rfl
    | delete same => exact .fail (.delete same) rfl
  | delete call =>
    obtain ⟨call', rfl, exchanged⟩ := exchanged
    cases same with
    | delete same => exact (call.run_agree driver exchanged same).map fun _ _ => .delete
    | select same => exact .fail (.select same) rfl
    | insert same => exact .fail (.insert same) rfl
    | update same => exact .fail (.update same) rfl

end SqlBuilder
