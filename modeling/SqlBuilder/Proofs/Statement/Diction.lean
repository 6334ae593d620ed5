import SqlBuilder.Proofs.Builder.Step
import SqlBuilder.Proofs.Call.Diction

set_option autoImplicit false

namespace SqlBuilder

section

variable (w : Vocabulary) (d : Diction)

structure Insert.Spoken (s : Insert) : Prop where
  table : ∀ table, s.table = some table → w.name table
  columns : ∀ columns, s.columns = some columns → ∀ key ∈ columns, key.Heads w
  returning : ∀ column ∈ s.returning, w.name column

structure Update.Spoken (s : Update) : Prop where
  table : ∀ table, s.table = some table → d.name table
  assignments : ∀ key ∈ s.assignments.keys, key.Heads d.toVocabulary
  filter : ∀ c, s.filter = some c → c.Spoken d

structure Delete.Spoken (s : Delete) : Prop where
  table : ∀ table, s.table = some table → d.name table
  filter : ∀ c, s.filter = some c → c.Spoken d

def Statement.Spoken : Statement → Prop
  | .select s => s.Spoken d
  | .insert s => s.Spoken d.toVocabulary
  | .update s => s.Spoken d
  | .delete s => s.Spoken d

end

variable {d : Diction} {w : Vocabulary}

theorem Insert.empty_spoken : Insert.empty.Spoken w := by
  constructor <;> intro _ none <;> cases none

theorem Update.empty_spoken : Update.empty.Spoken d := by
  constructor <;> intro _ none <;> cases none

theorem Delete.empty_spoken : Delete.empty.Spoken d := by
  constructor <;> intro _ none <;> cases none

open Outcome (ofExcept_state)

namespace Insert

variable {s t : Insert}

/-- An accepted row has the established columns; the first one establishes its own. -/
theorem rowVector_eq_ok {row : Value} {established : Option (List Value)}
    {columns vector : List Value} :
    rowVector row established = .ok (columns, vector) ↔
      ∃ entries, row.entries? = some entries ∧ (∀ v ∈ entries.values, v.isBindable = true) ∧
        match established with
        | none => entries ≠ [] ∧ columns = entries.keys ∧ vector = entries.values
        | some keys => columns = keys ∧ reorder row entries keys = .ok vector := by
  cases read : row.entries? with
  | none => simp [rowVector, read]
  | some entries =>
    simp only [Option.some.injEq, exists_eq_left']
    rcases Value.find?_not_cases Value.isBindable entries.values with
      ⟨found, all⟩ | ⟨v, found, refused⟩
    · refine Iff.trans ?_ (and_iff_right all).symm
      cases established with
      | none =>
        cases entries with
        | nil => simp [rowVector, read, bind, Except.bind]
        | cons entry rest => simp [rowVector, read, found, bind, Except.bind, eq_comm]
      | some keys =>
        cases ordered : reorder row entries keys with
        | error e => simp [rowVector, read, ordered, bind, Except.bind, Except.map]
        | ok reordered =>
          simp [rowVector, read, ordered, found, bind, Except.bind, Except.map, eq_comm]
    · refine Iff.trans (iff_false_intro ?_) (iff_false_intro fun both => refused both.1).symm
      cases established with
      | none =>
        cases entries with
        | nil => simp [rowVector, read, bind, Except.bind]
        | cons entry rest => simp [rowVector, read, found, bind, Except.bind]
      | some keys =>
        cases ordered : reorder row entries keys with
        | error e => simp [rowVector, read, ordered, bind, Except.bind, Except.map]
        | ok reordered => simp [rowVector, read, ordered, found, bind, Except.bind, Except.map]

theorem columns_of_rowVector {row : Value} {established : Option (List Value)}
    {columns vector : List Value} (accepted : rowVector row established = .ok (columns, vector))
    (heads : ∀ columns, established = some columns → ∀ key ∈ columns, key.Heads w)
    (given : row.Columns w) : ∀ key ∈ columns, key.Heads w := by
  obtain ⟨entries, read, _, shape⟩ := rowVector_eq_ok.mp accepted
  cases established with
  | none =>
    obtain ⟨_, rfl, _⟩ := shape
    exact given entries read
  | some keys =>
    obtain ⟨rfl, _⟩ := shape
    exact heads columns rfl

theorem columns_of_rowVectors {rows : List Value} {established columns : Option (List Value)}
    {vectors : List (List Value)} (accepted : rowVectors rows established = .ok (columns, vectors))
    (heads : ∀ columns, established = some columns → ∀ key ∈ columns, key.Heads w)
    (given : ∀ row ∈ rows, row.Columns w) :
    ∀ found, columns = some found → ∀ key ∈ found, key.Heads w := by
  induction rows generalizing established vectors with
  | nil =>
    cases accepted
    exact heads
  | cons row rest ih =>
    obtain ⟨⟨first, vector⟩, read, later⟩ := Except.bind_eq_ok.mp accepted
    obtain ⟨⟨last, others⟩, rows, same⟩ := Except.map_eq_ok.mp later
    cases same
    refine ih rows ?_ fun other member => given other (List.mem_cons_of_mem row member)
    rintro _ ⟨⟩
    exact columns_of_rowVector read heads (given row List.mem_cons_self)

theorem addRow_eq_ok {row : Value} :
    s.addRow row = .ok t ↔ ∃ columns vector, rowVector row s.columns = .ok (columns, vector) ∧
      { s with columns := some columns, rows := s.rows ++ [vector] } = t := by
  simp [addRow, Except.map_eq_ok]

theorem addRows_eq_ok {rows : Value} :
    s.addRows rows = .ok t ↔ ∃ items columns vectors, rows.items? = some items ∧
      (∀ row ∈ items, row.isMap = true) ∧ 2 ≤ items.length ∧
      rowVectors items s.columns = .ok (columns, vectors) ∧
      { s with columns := columns, rows := s.rows ++ vectors } = t := by
  unfold addRows
  cases rows.items? with
  | none => simp
  | some items =>
    by_cases maps : ∀ row ∈ items, row.isMap = true
    · have none : (items.any fun row => !row.isMap) = false := by simpa using maps
      by_cases few : items.length < 2
      · have short : ¬ 2 ≤ items.length := by omega
        simp [none, few, short]
      · have enough : 2 ≤ items.length := by omega
        simp only [none, Bool.false_eq_true, ↓reduceIte, few, Except.map_eq_ok, Option.some.injEq,
          Prod.exists]
        constructor
        · rintro ⟨columns, vectors, read⟩
          exact ⟨items, columns, vectors, rfl, maps, enough, read⟩
        · rintro ⟨_, columns, vectors, rfl, _, _, read⟩
          exact ⟨columns, vectors, read⟩
    · have stray : (items.any fun row => !row.isMap) = true := by simpa using maps
      simp only [stray, ↓reduceIte, reduceCtorEq, Option.some.injEq, false_iff, not_exists]
      rintro found _ _ ⟨rfl, all, _⟩
      exact maps all

theorem setReturning_eq_ok {names : List Value} :
    s.setReturning names = .ok t ↔ names ≠ [] ∧ (∀ v ∈ names, v.isFullText = true) ∧
      { s with returning := names.filterMap Value.fullString? } = t := by
  unfold setReturning
  by_cases given : names = []
  · simp [given]
  · by_cases texts : ∀ v ∈ names, v.isFullText = true
    · have allowed : (names.isEmpty || names.any fun v => !v.isFullText) = false := by
        simpa [given] using texts
      simp only [allowed, Bool.false_eq_true, ↓reduceIte, Except.ok.injEq]
      exact ⟨fun same => ⟨given, texts, same⟩, fun all => all.2.2⟩
    · have refused : (names.isEmpty || names.any fun v => !v.isFullText) = true := by
        simpa [given] using texts
      simp only [refused, ↓reduceIte, reduceCtorEq, false_iff]
      exact fun all => texts all.2.1

end Insert

theorem InsertCall.run_spoken (call : InsertCall) {s : Insert} (uses : call.Uses w)
    (spoken : s.Spoken w) : (call.run s).state.Spoken w := by
  cases call with
  | into name =>
    apply ofExcept_state spoken
    intro t ok
    unfold Insert.setTable at ok
    split at ok
    · next table full =>
      cases ok
      refine { spoken with table := fun _ named => ?_ }
      rw [← Option.some.inj named]
      exact uses table full
    · cases ok
  | row entries =>
    apply ofExcept_state spoken
    intro t ok
    obtain ⟨columns, vector, read, rfl⟩ := Insert.addRow_eq_ok.mp ok
    refine { spoken with columns := fun _ established => ?_ }
    rw [← Option.some.inj established]
    exact Insert.columns_of_rowVector read spoken.columns uses
  | rows items =>
    apply ofExcept_state spoken
    intro t ok
    obtain ⟨rows, columns, vectors, listed, _, _, read, rfl⟩ := Insert.addRows_eq_ok.mp ok
    exact { spoken with
      columns := Insert.columns_of_rowVectors read spoken.columns (uses rows listed) }
  | returning names =>
    apply ofExcept_state spoken
    intro t ok
    obtain ⟨_, _, rfl⟩ := Insert.setReturning_eq_ok.mp ok
    refine { spoken with returning := fun column member => ?_ }
    obtain ⟨v, given, full⟩ := List.mem_filterMap.mp member
    exact uses v given column full
  | reset => exact Insert.empty_spoken

theorem Update.assign_eq_ok {s t : Update} {row : Value} :
    s.assign row = .ok t ↔ ∃ entries, row.entries? = some entries ∧
      (∀ v ∈ entries.values, v.isBindable = true) ∧ { s with assignments := entries } = t := by
  unfold assign
  cases row.entries? with
  | none => simp
  | some entries =>
    rcases Value.find?_not_cases Value.isBindable entries.values with
      ⟨found, all⟩ | ⟨v, found, refused⟩
    · simp only [found, Except.ok.injEq, Option.some.injEq, exists_eq_left']
      exact ⟨fun same => ⟨all, same⟩, And.right⟩
    · simp only [found, reduceCtorEq, Option.some.injEq, exists_eq_left', false_iff, not_and]
      intro all
      exact absurd all refused

theorem UpdateCall.run_spoken (closed : d.Closed) (driver : Driver) (call : UpdateCall) {s : Update}
    (uses : call.Uses d.toVocabulary) (spoken : s.Spoken d) :
    (call.run driver s).state.Spoken d := by
  cases call with
  | table name =>
    apply ofExcept_state spoken
    intro t ok
    unfold Update.setTable at ok
    split at ok
    · next table full =>
      cases ok
      refine { spoken with table := fun _ named => ?_ }
      rw [← Option.some.inj named]
      exact uses table full
    · cases ok
  | assign row =>
    apply ofExcept_state spoken
    intro t ok
    obtain ⟨entries, read, _, rfl⟩ := Update.assign_eq_ok.mp ok
    exact { spoken with assignments := uses entries read }
  | filter call =>
    exact { spoken with filter := call.run_spoken closed driver .update uses spoken.filter }
  | reset => exact Update.empty_spoken

theorem DeleteCall.run_spoken (closed : d.Closed) (driver : Driver) (call : DeleteCall) {s : Delete}
    (uses : call.Uses d.toVocabulary) (spoken : s.Spoken d) :
    (call.run driver s).state.Spoken d := by
  cases call with
  | table name =>
    apply ofExcept_state spoken
    intro t ok
    unfold Delete.setTable at ok
    split at ok
    · next table full =>
      cases ok
      refine { spoken with table := fun _ named => ?_ }
      rw [← Option.some.inj named]
      exact uses table full
    · cases ok
  | filter call =>
    exact { spoken with filter := call.run_spoken closed driver .delete uses spoken.filter }
  | reset => exact Delete.empty_spoken

namespace Statement

theorem empty_spoken (kind : StatementKind) : (empty kind).Spoken d := by
  cases kind
  case select => exact Select.empty_spoken
  case insert => exact Insert.empty_spoken
  case update => exact Update.empty_spoken
  case delete => exact Delete.empty_spoken

theorem apply_spoken (closed : d.Closed) (driver : Driver) (call : Call) {s : Statement}
    (uses : call.Uses d.toVocabulary) (spoken : s.Spoken d) :
    (s.apply driver call).state.Spoken d := by
  unfold apply
  split
  · exact SelectCall.run_spoken closed driver _ uses spoken
  · exact InsertCall.run_spoken _ uses spoken
  · exact UpdateCall.run_spoken closed driver _ uses spoken
  · exact DeleteCall.run_spoken closed driver _ uses spoken
  · exact spoken

end Statement

namespace Builder

theorem SameClauses.spoken {s t : Statement} (same : SameClauses s t) (spoken : t.Spoken d) :
    s.Spoken d := by
  rcases same with rfl | ⟨query, limit, offset, rfl, rfl⟩
  · exact spoken
  · exact { spoken with }

theorem next_spoken (closed : d.Closed) {b : Builder} {operation : Operation}
    (uses : operation.Uses d.toVocabulary) (spoken : b.statement.Spoken d) :
    (b.next operation).statement.Spoken d := by
  by_cases call : ∃ c, operation = .call c
  · obtain ⟨c, rfl⟩ := call
    rw [next_call b c]
    exact Statement.apply_spoken closed _ c uses spoken
  · exact (next_unchanged b fun c same => call ⟨c, same⟩).2.spoken spoken

end Builder

end SqlBuilder
