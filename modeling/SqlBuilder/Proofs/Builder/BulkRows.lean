import SqlBuilder.Proofs.Builder.ClauseOrder

set_option autoImplicit false

namespace SqlBuilder

namespace Insert

/-- Taking up the vectors of all rows is adding the rows in turn, up to the first refusal. -/
theorem rowVectors_eq_foldlM (items : List Value) (s : Insert) :
    ((rowVectors items s.columns).map fun (columns, vectors) =>
        { s with columns, rows := s.rows ++ vectors }) =
      items.foldlM (fun s row => s.addRow row) s := by
  induction items generalizing s with
  | nil => simp [rowVectors, Except.map, pure, Except.pure]
  | cons row rest ih =>
    rw [List.foldlM_cons, rowVectors, addRow]
    cases read : rowVector row s.columns with
    | error e => rfl
    | ok established =>
      obtain ⟨columns, vector⟩ := established
      have others := ih { s with columns := some columns, rows := s.rows ++ [vector] }
      refine Eq.trans ?_ others
      simp only [Except.bind]
      cases rowVectors rest (some columns) with
      | error e => rfl
      | ok found => simp [Except.map]

theorem addRows_eq_foldlM {rows : Value} {items : List Value} (listed : rows.items? = some items)
    (maps : ∀ row ∈ items, row.isMap = true) (enough : 2 ≤ items.length) (s : Insert) :
    s.addRows rows = items.foldlM (fun s row => s.addRow row) s := by
  have none : (items.any fun row => !row.isMap) = false := by simpa using maps
  have several : ¬ items.length < 2 := by omega
  rw [← rowVectors_eq_foldlM, addRows, listed]
  simp only [none, Bool.false_eq_true, ↓reduceIte, several]

end Insert

theorem InsertCall.run_row (row : Value) (s : Insert) :
    (InsertCall.row row).run s = .ofExcept s (s.addRow row) := rfl

namespace Builder

/-- A call for each of several rows. -/
def singly (items : List Value) : List Operation :=
  items.map fun row => .call (.insert (.row row))

variable {b : Builder} {s t : Insert}

/-- A call on an insertion takes no notice of anything. -/
theorem next_insert (inserts : b.statement = .insert s) (call : InsertCall) :
    b.next (.call (.insert call)) = { b with statement := .insert (call.run s).state } := by
  have silent : (call.run s).notices = [] := by
    cases call with
    | reset => rfl
    | _ => simp only [InsertCall.run, Outcome.ofExcept]; split <;> rfl
  rw [next_call_eq, inserts]
  simp only [Statement.apply, Outcome.map, silent]
  rfl

/-- A call that may be refused replies accordingly, and is without effect when it is refused. -/
theorem insert_of_ok {call : InsertCall} {x : Except Error Insert}
    (inserts : b.statement = .insert s) (tries : call.run s = .ofExcept s x) (done : x = .ok t) :
    b.reply (.call (.insert call)) = .ok .itself ∧
      b.next (.call (.insert call)) = { b with statement := .insert t } := by
  subst done
  rw [reply_call, next_insert inserts, inserts]
  simp only [Statement.apply, tries]
  exact ⟨rfl, rfl⟩

theorem insert_of_error {call : InsertCall} {x : Except Error Insert} {e : Error}
    (inserts : b.statement = .insert s) (tries : call.run s = .ofExcept s x)
    (failed : x = .error e) :
    b.reply (.call (.insert call)) = .error e ∧ b.next (.call (.insert call)) = b := by
  subst failed
  rw [reply_call, next_insert inserts, inserts]
  simp only [Statement.apply, tries]
  exact ⟨rfl, congrArg (fun statement => { b with statement }) inserts.symm⟩

theorem insert_succeeds_iff {call : InsertCall} {x : Except Error Insert}
    (inserts : b.statement = .insert s) (tries : call.run s = .ofExcept s x) :
    b.reply (.call (.insert call)) = .ok .itself ↔ ∃ t, x = .ok t := by
  cases done : x with
  | error e => simp [(insert_of_error inserts tries done).1]
  | ok t => simp [(insert_of_ok inserts tries done).1]

/-- Single calls succeed together when the rows can be added in turn. -/
theorem singly_succeeds_iff (items : List Value) (inserts : b.statement = .insert s) :
    (∀ r ∈ trace (singly items) b, r.2 = .ok .itself) ↔
      ∃ t, items.foldlM (fun s row => s.addRow row) s = .ok t := by
  induction items generalizing b s with
  | nil => exact ⟨fun _ => ⟨s, rfl⟩, fun _ _ member => absurd member List.not_mem_nil⟩
  | cons row rest ih =>
    rw [List.foldlM_cons, singly, List.map_cons, trace, List.forall_mem_cons,
      insert_succeeds_iff inserts rfl]
    cases added : s.addRow row with
    | error e =>
      constructor
      · rintro ⟨⟨t, first⟩, _⟩
        cases first
      · rintro ⟨t, total⟩
        cases total
    | ok s' =>
      rw [(insert_of_ok inserts rfl added).2]
      exact (and_iff_right ⟨s', rfl⟩).trans (ih rfl)

theorem after_singly {items : List Value} (inserts : b.statement = .insert s)
    (added : items.foldlM (fun s row => s.addRow row) s = .ok t) :
    b.after (singly items) = { b with statement := .insert t } := by
  induction items generalizing b s with
  | nil =>
    cases added
    rw [← inserts]
    rfl
  | cons row rest ih =>
    rw [List.foldlM_cons] at added
    obtain ⟨s', first, others⟩ := Except.bind_eq_ok.mp added
    obtain ⟨_, next⟩ := insert_of_ok inserts (InsertCall.run_row row s) first
    have later := ih (b := { b with statement := .insert s' }) rfl others
    rw [singly, List.map_cons, after, List.foldl_cons, next]
    exact later

/-- Adding at least two rows in one call succeeds exactly when a call for each of them in turn does,
and then both leave the same builder. Otherwise the one call fails with the first failure among the
calls for single rows, and leaves the builder as it was. -/
theorem bulk_eq_singly (session : Session) (operations : List Operation) {rows : Value}
    {items : List Value} (listed : rows.items? = some items)
    (maps : ∀ row ∈ items, row.isMap = true) (enough : 2 ≤ items.length) :
    let b := after ⟨.empty .insert, session⟩ operations
    let bulk : Operation := .call (.insert (.rows rows))
    (b.reply bulk = .ok .itself ↔ ∀ r ∈ trace (singly items) b, r.2 = .ok .itself) ∧
      (b.reply bulk = .ok .itself → b.next bulk = b.after (singly items)) ∧
      ∀ front row back e, items = front ++ row :: back →
        (∀ r ∈ trace (singly front) b, r.2 = .ok .itself) →
        (b.after (singly front)).reply (.call (.insert (.row row))) = .error e →
        b.reply bulk = .error e ∧ b.next bulk = b := by
  intro b bulk
  have kind : b.statement.kind = .insert := after_kind _ operations
  obtain ⟨s, inserts⟩ : ∃ s, b.statement = .insert s := by
    cases at_ : b.statement with
    | insert s => exact ⟨s, rfl⟩
    | _ => rw [at_] at kind; cases kind
  have total := s.addRows_eq_foldlM listed maps enough
  refine ⟨?_, ?_, ?_⟩
  · rw [singly_succeeds_iff items inserts, ← total]
    exact insert_succeeds_iff inserts rfl
  · intro succeeds
    obtain ⟨t, added⟩ := (insert_succeeds_iff inserts rfl).mp succeeds
    rw [(insert_of_ok inserts rfl added).2, after_singly inserts (total.symm.trans added)]
  · intro front row back e shape accepted refused
    obtain ⟨t, before⟩ := (singly_succeeds_iff front inserts).mp accepted
    rw [after_singly inserts before] at refused
    have stops : t.addRow row = .error e := by
      cases added : t.addRow row with
      | ok u =>
        rw [(insert_of_ok rfl (InsertCall.run_row row t) added).1] at refused
        cases refused
      | error reason =>
        rw [(insert_of_error rfl (InsertCall.run_row row t) added).1] at refused
        cases refused
        rfl
    -- The rows in front are added in the loop too, which then fails as the single call does.
    have failed : s.addRows rows = .error e := by
      rw [total, shape, List.foldlM_append, before]
      simp only [bind, Except.bind, List.foldlM_cons, stops]
    exact insert_of_error inserts rfl failed

/-- Two rows that fit each other, and one that lacks a column. -/
def lackingLast : List Value :=
  [.map [(.str "a", .int 1), (.str "b", .int 2)], .map [(.str "b", .null), (.str "a", .int 3)],
    .map [(.str "a", .int 4)]]

theorem bulk_eq_singly_lackingLast :
    let b := after ⟨.empty .insert, .sample⟩ [.call (.insert (.into (.str "t")))]
    let bulk : Operation := .call (.insert (.rows (.list lackingLast)))
    (∀ row ∈ lackingLast, row.isMap = true) ∧ 2 ≤ lackingLast.length ∧
      (∀ r ∈ trace (singly (lackingLast.take 2)) b, r.2 = .ok .itself) ∧
      b.reply bulk = .error (.invalid .insertRow (.map [(.str "a", .int 4)])) ∧
      b.next bulk = b := by
  intro b bulk
  have maps : ∀ row ∈ lackingLast, row.isMap = true := by decide
  have accepted : ∀ r ∈ trace (singly (lackingLast.take 2)) b, r.2 = .ok .itself := by
    intro r member
    rcases List.mem_cons.mp member with rfl | later
    · rfl
    · rw [List.mem_singleton.mp later]
      rfl
  have listed : (Value.list lackingLast).items? = some lackingLast := rfl
  obtain ⟨_, _, failing⟩ := bulk_eq_singly .sample [.call (.insert (.into (.str "t")))] listed maps
    (by decide)
  have refused : (b.after (singly (lackingLast.take 2))).reply
      (.call (.insert (.row (.map [(.str "a", .int 4)])))) =
        .error (.invalid .insertRow (.map [(.str "a", .int 4)])) := rfl
  have shape : lackingLast = lackingLast.take 2 ++ .map [(.str "a", .int 4)] :: [] := rfl
  have stopped := failing (lackingLast.take 2) _ [] _ shape accepted refused
  exact ⟨maps, by decide, accepted, stopped⟩

end Builder

end SqlBuilder
