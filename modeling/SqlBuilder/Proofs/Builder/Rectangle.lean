import SqlBuilder.Proofs.Builder.BulkRows
import SqlBuilder.Proofs.Statement.Draft
import SqlBuilder.Proofs.Statement.Rendering
import SqlBuilder.Proofs.Statement.Rows

set_option autoImplicit false

namespace SqlBuilder

/-- The maps that a call gives for rows have distinct texts for keys. -/
def InsertCall.TextKeyed : InsertCall → Prop
  | .row given => given.KeyedRow
  | .rows given => ∀ items, given.items? = some items → ∀ row ∈ items, row.KeyedRow
  | _ => True

def Operation.TextKeyed : Operation → Prop
  | .call (.insert c) => c.TextKeyed
  | _ => True

namespace Insert

/-- The columns are those of the first accepted row, and the vectors have what the accepted rows map
the columns to, row by row. -/
structure Rectangle (columns : Option (List Value)) (vectors : List (List Value))
    (accepted : List Entries) : Prop where
  established : columns = accepted.head?.map Entries.keys
  distinct : ∀ keys, columns = some keys → keys ≠ [] ∧ Value.DistinctTexts keys
  cells : List.Forall₂ (fun row vector =>
    (columns.getD []).map (fun key => row.get? key) = vector.map some) accepted vectors

variable {columns : Option (List Value)} {vectors : List (List Value)} {accepted : List Entries}
  {s : Insert}

theorem Rectangle.empty : Rectangle none [] [] := ⟨rfl, nofun, .nil⟩

theorem Rectangle.texts (rectangle : Rectangle columns vectors accepted) :
    ∀ keys, columns = some keys → Value.DistinctTexts keys :=
  fun keys established => (rectangle.distinct keys established).2

theorem Rectangle.accepted_eq_nil (rectangle : Rectangle none vectors accepted) :
    accepted = [] :=
  List.head?_eq_none_iff.mp (Option.map_eq_none_iff.mp rectangle.established.symm)

/-- A row that is taken up adds a line to the rectangle. -/
theorem Rectangle.push (rectangle : Rectangle columns vectors accepted) {given : Value}
    {row : Entries} (read : given.entries? = some row) (keyed : row.TextKeyed)
    {keys vector : List Value} (taken : rowVector given columns = .ok (keys, vector)) :
    Rectangle (some keys) (vectors ++ [vector]) (accepted ++ [row]) := by
  obtain ⟨_, fits, rfl, line⟩ := (rowVector_iff read keyed rectangle.texts).mp taken
  cases columns with
  | none =>
    -- Without columns nothing was accepted before, and the row brings its own.
    have start := rectangle.accepted_eq_nil
    subst start
    cases rectangle.cells
    refine ⟨rfl, ?_, .cons line .nil⟩
    rintro _ ⟨⟩
    have named : row.keys ≠ [] := fun none => fits (List.map_eq_nil_iff.mp none)
    exact ⟨named, keyed⟩
  | some keys =>
    refine ⟨?_, rectangle.distinct, ?_⟩
    · cases accepted with
      | nil => cases rectangle.established
      | cons first rest => exact rectangle.established
    · exact List.rel_append rectangle.cells (.cons line .nil)

theorem Rectangle.pushAll {items : List Value} (keyed : ∀ given ∈ items, given.KeyedRow)
    (rectangle : Rectangle columns vectors accepted) {found : Option (List Value)}
    {more : List (List Value)} (taken : rowVectors items columns = .ok (found, more)) :
    Rectangle found (vectors ++ more) (accepted ++ items.filterMap Value.entries?) := by
  induction items generalizing columns vectors accepted more with
  | nil =>
    cases taken
    simpa using rectangle
  | cons given rest ih =>
    obtain ⟨⟨keys, vector⟩, first, later⟩ := Except.bind_eq_ok.mp taken
    obtain ⟨⟨last, others⟩, remaining, same⟩ := Except.map_eq_ok.mp later
    cases same
    obtain ⟨row, read, _⟩ := rowVector_eq_ok.mp first
    have one := rectangle.push read (keyed given List.mem_cons_self row read) first
    have all := ih (fun v member => keyed v (List.mem_cons_of_mem given member)) one remaining
    rw [List.filterMap_cons_some read]
    simpa only [List.append_assoc, List.singleton_append] using all

/-- A row whose values can be bound is added exactly when it fits the columns. -/
theorem addRow_succeeds_iff {row : Entries}
    (distinct : ∀ columns, s.columns = some columns → Value.DistinctTexts columns)
    (keyed : row.TextKeyed) (bindable : ∀ v ∈ row.values, v.isBindable = true) :
    (∃ t, s.addRow (.map row) = .ok t) ↔ row.Fits s.columns := by
  rw [← rowVector_succeeds_iff keyed bindable distinct]
  constructor
  · rintro ⟨_, added⟩
    obtain ⟨columns, vector, taken, _⟩ := addRow_eq_ok.mp added
    exact ⟨_, taken⟩
  · rintro ⟨⟨columns, vector⟩, taken⟩
    exact ⟨_, addRow_eq_ok.mpr ⟨columns, vector, taken, rfl⟩⟩

/-- Several rows are added when the first fits the columns, and the others fit those or, where there
are none, the keys of the first. -/
theorem addRows_succeeds_iff {given : Value} {first : Entries} {rest : List Entries}
    (distinct : ∀ columns, s.columns = some columns → Value.DistinctTexts columns)
    (listed : given.items? = some ((first :: rest).map .map)) (several : rest ≠ [])
    (keyed : ∀ row ∈ first :: rest, row.TextKeyed)
    (bindable : ∀ row ∈ first :: rest, ∀ v ∈ row.values, v.isBindable = true) :
    (∃ t, s.addRows given = .ok t) ↔
      first.Fits s.columns ∧ ∀ row ∈ rest, row.Fits (some (s.columns.getD first.keys)) := by
  obtain ⟨key, keys⟩ := List.forall_mem_cons.mp keyed
  obtain ⟨value, values⟩ := List.forall_mem_cons.mp bindable
  have names : Value.DistinctTexts (s.columns.getD first.keys) := by
    cases established : s.columns with
    | none => exact key
    | some columns => exact distinct columns established
  rw [← rowVectors_succeeds_iff names keys values,
    ← rowVectors_cons_succeeds_iff key value distinct]
  constructor
  · rintro ⟨_, added⟩
    obtain ⟨items, columns, vectors, listed', _, _, taken, _⟩ := addRows_eq_ok.mp added
    rw [listed] at listed'
    cases listed'
    exact ⟨_, taken⟩
  · rintro ⟨⟨columns, vectors⟩, taken⟩
    have maps : ∀ v ∈ (first :: rest).map Value.map, v.isMap = true :=
      List.forall_mem_map.mpr fun row _ => rfl
    have enough : 2 ≤ ((first :: rest).map Value.map).length := by
      have behind : 0 < rest.length := List.length_pos_iff.mpr several
      rw [List.length_map, List.length_cons]
      omega
    exact ⟨_, addRows_eq_ok.mpr ⟨_, columns, vectors, listed, maps, enough, taken, rfl⟩⟩

/-- What stands in the text for the value under a column. -/
def mark (v : Option Value) : String := if (v.getD .null).isNull then "NULL" else "?"

/-- The group of a row: an entry for each column. -/
def group (columns : List Value) (row : Entries) : String :=
  "(" ++ ", ".intercalate (columns.map fun key => mark (row.get? key)) ++ ")"

def opening (table : String) (columns : List Value) : String :=
  "INSERT INTO " ++ table ++ " (" ++ ", ".intercalate (columns.map Value.display) ++ ") VALUES "

def closing (returning : List String) : String :=
  if returning.isEmpty then "" else " RETURNING " ++ ", ".intercalate returning

/-- The text of an insertion of rows: one group for each. -/
def listing (table : String) (columns : List Value) (rows : List Entries)
    (returning : List String) : String :=
  opening table columns ++ (", ".intercalate (rows.map (group columns)) ++ closing returning) ++ ";"

theorem columnNames_of_texts {keys : List Value} (texts : ∀ key ∈ keys, key.isText = true) :
    columnNames keys = .ok (keys.map Value.display) := by
  have indexed : ∀ n, (keys.zipIdx n).mapM columnName = .ok (keys.map Value.display) := by
    induction keys with
    | nil => exact fun _ => rfl
    | cons key rest ih =>
      intro n
      obtain ⟨text, others⟩ := List.forall_mem_cons.mp texts
      have named : columnName (key, n) = .ok key.display := by
        cases key with
        | text t => rfl
        | _ => cases text
      rw [List.zipIdx_cons, List.mapM_cons, named, List.map_cons]
      simp only [bind, Except.bind, ih others (n + 1), pure, Except.pure]
  exact indexed 0

theorem text_renderRow (vector : List Value) :
    (renderRow vector).text =
      "(" ++ ", ".intercalate (vector.map fun v => mark (some v)) ++ ")" := by
  have cells : (vector.map cell).map Sql.text = vector.map fun v => mark (some v) := by
    rw [List.map_map]
    refine List.map_congr_left fun v _ => ?_
    simp only [Function.comp_apply, cell, mark, Option.getD_some]
    split <;> rfl
  rw [renderRow, List.cons_append, Sql.text_cons, Sql.text_append, Sql.text_joinWith, cells,
    Sql.text_cons, Sql.text_nil, String.append_empty, Piece.text, Piece.text, String.append_assoc]

theorem text_returningClause (s : Insert) :
    s.returningClause.text = closing s.returning := by
  unfold returningClause closing
  split
  · rfl
  · exact Sql.text_ofText _

/-- The vectors of a rectangle are written as the groups of its rows. -/
theorem groups_of_cells {keys : List Value}
    (cells : List.Forall₂ (fun row vector =>
      keys.map (fun key => row.get? key) = vector.map some) accepted vectors) :
    (vectors.map renderRow).map Sql.text = accepted.map (group keys) := by
  induction cells with
  | nil => rfl
  | cons line _ ih =>
    have marks := congrArg (List.map mark) line
    rw [List.map_map, List.map_map] at marks
    rw [List.map_cons, List.map_cons, List.map_cons, ih, text_renderRow, group]
    simp only [Function.comp_def] at marks
    rw [marks]

theorem render_of_rows {table : String} {keys : List Value} (named : s.table = some table)
    (established : s.columns = some keys) (filled : keys ≠ [])
    (texts : ∀ key ∈ keys, key.isText = true) (rows : s.rows ≠ []) :
    s.render = .ok (.literal (opening table keys) ::
      Sql.joinWith ", " (s.rows.map renderRow) ++ s.returningClause) := by
  obtain ⟨key, rest, rfl⟩ := List.exists_cons_of_ne_nil filled
  have any : s.rows.isEmpty = false := by simpa using rows
  rw [render, named]
  simp only [established, Option.getD_some, any, Bool.false_eq_true, ↓reduceIte,
    columnNames_of_texts texts, Except.map, opening]

/-- An insertion of a rectangle lists the accepted rows. -/
theorem toSql_of_rectangle {table : String} {keys : List Value}
    (rectangle : Rectangle s.columns s.rows accepted) (named : s.table = some table)
    (established : s.columns = some keys) :
    (Statement.insert s).toSql = .ok (listing table keys accepted s.returning) := by
  obtain ⟨filled, distinct⟩ := rectangle.distinct keys established
  have cells := rectangle.cells
  rw [established, Option.getD_some] at cells
  have rows : s.rows ≠ [] := by
    intro none
    rw [none] at cells
    cases cells
    have columns := rectangle.established
    rw [established] at columns
    cases columns
  rw [Statement.toSql, Statement.render,
    render_of_rows named established filled distinct.texts rows]
  simp only [Except.map, List.cons_append, Sql.text_cons, Sql.text_append, Sql.text_joinWith,
    text_returningClause, Piece.text, groups_of_cells cells, listing]

theorem toSql_refused (rectangle : Rectangle s.columns s.rows accepted)
    (incomplete : s.table = none ∨ accepted = []) :
    ∃ e, (Statement.insert s).toSql = .error e := by
  cases named : s.table with
  | none => exact ⟨_, by rw [Statement.toSql, Statement.render, render, named]; rfl⟩
  | some table =>
    rw [named] at incomplete
    have none : s.columns = none := by
      rw [rectangle.established, incomplete.resolve_left nofun]
      rfl
    exact ⟨_, by rw [Statement.toSql, Statement.render, render, named, none]; rfl⟩

/-- There is a text exactly with a table and an accepted row. -/
theorem toSql_succeeds_iff (rectangle : Rectangle s.columns s.rows accepted) :
    (∃ text, (Statement.insert s).toSql = .ok text) ↔ s.table.isSome = true ∧ accepted ≠ [] := by
  constructor
  · rintro ⟨text, rendered⟩
    by_contra lacking
    have incomplete : s.table = none ∨ accepted = [] := by
      rw [not_and_or, not_ne_iff] at lacking
      exact lacking.imp_left fun absent => by simpa using absent
    obtain ⟨e, refused⟩ := toSql_refused rectangle incomplete
    rw [refused] at rendered
    cases rendered
  · rintro ⟨present, filled⟩
    obtain ⟨table, named⟩ := Option.isSome_iff_exists.mp present
    obtain ⟨first, rest, rfl⟩ := List.exists_cons_of_ne_nil filled
    exact ⟨_, toSql_of_rectangle rectangle named rectangle.established⟩

end Insert

/-- The rows that the insertion holds are a rectangle of the rows that were given. -/
def Insert.Ruled (s : Insert) (draft : Draft) : Prop :=
  Rectangle s.columns s.rows draft.rows

theorem InsertCall.run_ruled (call : InsertCall) {s : Insert} {draft : Draft}
    (keyed : call.TextKeyed) (ruled : s.Ruled draft) :
    (call.run s).state.Ruled (call.draft s draft) := by
  cases call with
  | into name =>
    apply Outcome.ofExcept_state (P := (Insert.Ruled · draft)) ruled
    intro t ok
    unfold Insert.setTable at ok
    split at ok <;> cases ok
    exact ruled
  | row given =>
    apply Outcome.ofExcept_either (R := Insert.Ruled) ruled
    intro t ok
    obtain ⟨columns, vector, taken, rfl⟩ := Insert.addRow_eq_ok.mp ok
    obtain ⟨row, read, _⟩ := Insert.rowVector_eq_ok.mp taken
    rw [read, Option.toList_some]
    exact Insert.Rectangle.push ruled read (keyed row read) taken
  | rows given =>
    apply Outcome.ofExcept_either (R := Insert.Ruled) ruled
    intro t ok
    obtain ⟨items, columns, vectors, listed, _, _, taken, rfl⟩ := Insert.addRows_eq_ok.mp ok
    rw [listed, Option.getD_some]
    exact Insert.Rectangle.pushAll (keyed items listed) ruled taken
  | returning names =>
    apply Outcome.ofExcept_state (P := (Insert.Ruled · draft)) ruled
    intro t ok
    obtain ⟨_, _, rfl⟩ := Insert.setReturning_eq_ok.mp ok
    exact ruled
  | reset => exact Insert.Rectangle.empty

/-- The second call gives the same rows as the first, of which those behind the one that establishes
the columns of `s` may name the columns in another order. -/
inductive InsertCall.Reordered (s : Insert) : InsertCall → InsertCall → Prop
  | row {given other : Value} (established : s.columns ≠ none)
      (reordered : given.Reordered other) : Reordered s (.row given) (.row other)
  | rows {given other : Value} {items others : List Value} (listed : given.items? = some items)
      (listed' : other.items? = some others)
      (behind : s.columns ≠ none ∨ items.head? = others.head?)
      (reordered : List.Forall₂ Value.Reordered items others) :
      Reordered s (.rows given) (.rows other)

theorem InsertCall.run_reordered {call other : InsertCall} {s : Insert}
    (reordered : call.Reordered s other) (keyed : call.TextKeyed)
    (distinct : ∀ columns, s.columns = some columns → Value.DistinctTexts columns) :
    (call.run s).state = (other.run s).state := by
  have settled : ∀ {x y : Except Error Insert}, (∀ t, x = .ok t ↔ y = .ok t) →
      (Outcome.ofExcept s x).state = (Outcome.ofExcept s y).state := by
    intro x y same
    cases x with
    | ok t => rw [(same t).mp rfl]
    | error e =>
      cases y with
      | ok t => cases (same t).mpr rfl
      | error e' => rfl
  cases reordered with
  | @row given other established reordered =>
    apply settled
    intro t
    obtain ⟨columns, present⟩ := Option.ne_none_iff_exists'.mp established
    rw [Insert.addRow_eq_ok, Insert.addRow_eq_ok, present]
    refine exists_congr fun names => exists_congr fun vector => and_congr_left fun _ => ?_
    exact Insert.rowVector_reordered reordered keyed (distinct columns present)
  | @rows given other items others listed listed' behind reordered =>
    apply settled
    intro t
    have maps : (∀ row ∈ items, row.isMap = true) ↔ ∀ row ∈ others, row.isMap = true := by
      clear listed listed' behind
      induction reordered with
      | nil => rfl
      | cons first _ ih => rw [List.forall_mem_cons, List.forall_mem_cons, first.isMap, ih]
    rw [Insert.addRows_eq_ok, Insert.addRows_eq_ok, listed, listed']
    simp only [Option.some.injEq, ↓existsAndEq, true_and, maps,
      reordered.length_eq, Insert.rowVectors_reordered_behind reordered behind
        (keyed items listed) distinct]

namespace Builder

variable {b : Builder} {s : Insert}

/-- Every operation keeps the rows of an insertion a rectangle. -/
theorem next_ruled {operation : Operation} {draft : Draft} (keyed : operation.TextKeyed)
    (inserts : b.statement = .insert s) (ruled : s.Ruled draft) :
    ∃ t, (b.next operation).statement = .insert t ∧ t.Ruled (operation.draft b draft) := by
  by_cases call : ∃ c, operation = .call c
  · obtain ⟨c, rfl⟩ := call
    cases c with
    | insert c =>
      rw [next_insert inserts, Operation.draft, inserts]
      exact ⟨_, rfl, c.run_ruled keyed ruled⟩
    | _ =>
      rw [next_call b _, Operation.draft, inserts]
      exact ⟨s, rfl, ruled⟩
  · have written : operation.draft b draft = draft := by
      cases operation with
      | call c => exact absurd ⟨c, rfl⟩ call
      | _ => rfl
    have same := (next_unchanged b fun c same => call ⟨c, same⟩).2
    rw [inserts] at same
    rw [written]
    rcases same with same | ⟨_, _, _, other, _⟩
    · exact ⟨s, same, ruled⟩
    · cases other

theorem after_ruled {operations : List Operation} {draft : Draft}
    (keyed : ∀ operation ∈ operations, operation.TextKeyed) (inserts : b.statement = .insert s)
    (ruled : s.Ruled draft) :
    ∃ t, (b.after operations).statement = .insert t ∧ t.Ruled (draftAll operations b draft) := by
  induction operations generalizing b s draft with
  | nil => exact ⟨s, inserts, ruled⟩
  | cons operation rest ih =>
    obtain ⟨first, others⟩ := List.forall_mem_cons.mp keyed
    obtain ⟨t, at_, kept⟩ := next_ruled first inserts ruled
    exact ih others at_ kept

/-- The second run is the first one, with the rows behind the first that was accepted naming their
columns in any order. -/
inductive Reordered : Builder → List Operation → List Operation → Prop
  | nil (b : Builder) : Reordered b [] []
  | same {b : Builder} (operation : Operation) {rest rest' : List Operation}
      (later : Reordered (b.next operation) rest rest') :
      Reordered b (operation :: rest) (operation :: rest')
  | call {b : Builder} {s : Insert} {call other : InsertCall} {rest rest' : List Operation}
      (inserts : b.statement = .insert s) (reordered : call.Reordered s other)
      (later : Reordered (b.next (.call (.insert call))) rest rest') :
      Reordered b (.call (.insert call) :: rest) (.call (.insert other) :: rest')

/-- Runs that differ in the order of entries behind the first row leave the same builder. -/
theorem after_reordered {operations others : List Operation} {draft : Draft}
    (reordered : Reordered b operations others)
    (keyed : ∀ operation ∈ operations, operation.TextKeyed) (inserts : b.statement = .insert s)
    (ruled : s.Ruled draft) :
    b.after others = b.after operations := by
  induction reordered generalizing s draft with
  | nil => rfl
  | same operation later ih =>
    obtain ⟨first, rest⟩ := List.forall_mem_cons.mp keyed
    obtain ⟨t, at_, kept⟩ := next_ruled first inserts ruled
    exact ih rest at_ kept
  | @call b s' call other _ _ at_ changed later ih =>
    obtain ⟨first, rest⟩ := List.forall_mem_cons.mp keyed
    rw [inserts] at at_
    cases at_
    obtain ⟨t, next, kept⟩ := next_ruled first inserts ruled
    have same : b.next (.call (.insert other)) = b.next (.call (.insert call)) := by
      rw [next_insert inserts, next_insert inserts,
        call.run_reordered changed first (Insert.Rectangle.texts ruled)]
    rw [after, List.foldl_cons, same]
    exact ih rest next kept

/-- Since the last reset, the columns of an insertion are the distinct keys of the first accepted
row, and each accepted row has left what it maps the columns to. A row with values that can be bound
is accepted exactly when it names those columns, by itself as well as among others. There is a text
exactly with a table and an accepted row, and it has a group for each accepted row with an entry for
each column. In which order the rows behind the first name their columns makes no difference. -/
theorem rectangle_of_run (session : Session) (operations : List Operation)
    (keyed : ∀ operation ∈ operations, operation.TextKeyed) :
    let b := after ⟨.empty .insert, session⟩ operations
    let accepted := (draftAll operations ⟨.empty .insert, session⟩ .empty).rows
    ∃ s, b.statement = .insert s ∧ Insert.Rectangle s.columns s.rows accepted ∧
      (∀ row : Entries, row.TextKeyed → (∀ v ∈ row.values, v.isBindable = true) →
        (b.reply (.call (.insert (.row (.map row)))) = .ok .itself ↔ row.Fits s.columns)) ∧
      (∀ (given : Value) (first : Entries) (rest : List Entries),
        given.items? = some ((first :: rest).map .map) → rest ≠ [] →
        (∀ row ∈ first :: rest, row.TextKeyed) →
        (∀ row ∈ first :: rest, ∀ v ∈ row.values, v.isBindable = true) →
        (b.reply (.call (.insert (.rows given))) = .ok .itself ↔
          first.Fits s.columns ∧ ∀ row ∈ rest, row.Fits (some (s.columns.getD first.keys)))) ∧
      ((∃ text, b.statement.toSql = .ok text) ↔ s.table.isSome = true ∧ accepted ≠ []) ∧
      (∀ table columns, s.table = some table → s.columns = some columns →
        b.statement.toSql = .ok (Insert.listing table columns accepted s.returning)) ∧
      ∀ others, Reordered ⟨.empty .insert, session⟩ operations others →
        after ⟨.empty .insert, session⟩ others = b := by
  intro b accepted
  have start : Insert.empty.Ruled .empty := Insert.Rectangle.empty
  obtain ⟨s, inserts, rectangle⟩ := after_ruled (b := ⟨.empty .insert, session⟩) keyed rfl start
  refine ⟨s, inserts, rectangle, ?_, ?_, ?_, ?_, ?_⟩
  · intro row key bindable
    rw [insert_succeeds_iff inserts rfl]
    exact Insert.addRow_succeeds_iff rectangle.texts key bindable
  · intro given first rest listed several keys bindable
    rw [insert_succeeds_iff inserts rfl]
    exact Insert.addRows_succeeds_iff rectangle.texts listed several keys bindable
  · rw [inserts]
    exact Insert.toSql_succeeds_iff rectangle
  · intro table columns named established
    rw [inserts]
    exact Insert.toSql_of_rectangle rectangle named established
  · intro others reordered
    exact after_reordered reordered keyed rfl start

/-- A row, two more in one call, of which the first names the columns the other way round, and one
that lacks a column. -/
def ragged (second : Entries) : List Operation :=
  [.call (.insert (.into (.str "t"))),
    .call (.insert (.row (.map [(.str "a", .int 1), (.str "b", .null)]))),
    .call (.insert (.rows (.list [.map second, .map [(.str "a", .int 4), (.str "b", .int 5)]]))),
    .call (.insert (.row (.map [(.str "a", .int 6)])))]

theorem rectangle_of_run_ragged :
    let swapped : Entries := [(.str "b", .int 2), (.str "a", .int 3)]
    let straight : Entries := [(.str "a", .int 3), (.str "b", .int 2)]
    let start : Builder := ⟨.empty .insert, .sample⟩
    (∀ operation ∈ ragged swapped, operation.TextKeyed) ∧
      (start.after (ragged swapped)).statement.toSql =
        .ok "INSERT INTO t (a, b) VALUES (?, NULL), (?, ?), (?, ?);" ∧
      start.after (ragged straight) = start.after (ragged swapped) := by
  intro swapped straight start
  have keyed : ∀ operation ∈ ragged swapped, operation.TextKeyed := by
    have row : ∀ entries : Entries, entries.TextKeyed → (Value.map entries).KeyedRow := by
      rintro entries keyed _ ⟨⟩
      exact keyed
    have rows : ∀ v ∈ [Value.map swapped, .map [(.str "a", .int 4), (.str "b", .int 5)]],
        v.KeyedRow := by
      refine List.forall_mem_cons.mpr ⟨row _ ⟨by decide, by decide⟩, ?_⟩
      exact List.forall_mem_singleton.mpr (row _ ⟨by decide, by decide⟩)
    refine List.forall_mem_cons.mpr ⟨trivial, List.forall_mem_cons.mpr
      ⟨row _ ⟨by decide, by decide⟩, List.forall_mem_cons.mpr ⟨?_, List.forall_mem_singleton.mpr
        (row _ ⟨by decide, by decide⟩)⟩⟩⟩
    rintro _ ⟨⟩
    exact rows
  obtain ⟨s, inserts, _, _, _, _, listed, reordered⟩ :=
    rectangle_of_run .sample (ragged swapped) keyed
  have named : s.table = some "t" ∧ s.columns = some [.str "a", .str "b"] ∧ s.returning = [] := by
    cases inserts
    exact ⟨rfl, rfl, rfl⟩
  refine ⟨keyed, ?_, reordered _ ?_⟩
  · have text := listed "t" _ named.1 named.2.1
    rw [named.2.2] at text
    exact text.trans (congrArg Except.ok (by decide))
  · refine .same _ (.same _ (.call rfl ?_ (.same _ (.nil _))))
    exact .rows rfl rfl (.inl nofun) (.cons (.shuffled (.swap _ _ _)) (.cons (.same _) .nil))

end Builder

end SqlBuilder
