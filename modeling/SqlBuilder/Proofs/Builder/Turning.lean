import SqlBuilder.Proofs.Builder.Counting
import SqlBuilder.Proofs.Number.Rounding

set_option autoImplicit false

namespace SqlBuilder

variable {ε σ α β : Type}

theorem result_bind (x : EStateM ε σ α) (next : α → EStateM ε σ β) (s : σ) :
    resultOf (x >>= next) s = match resultOf x s with
      | .ok a => resultOf (next a) (stateAfter x s)
      | .error e => .error e := by
  unfold resultOf stateAfter
  cases ran : x s with
  | ok a t => rw [bind_apply_of_ok ran]
  | error e t => rw [bind_apply_of_error ran]

theorem stateAfter_bind (x : EStateM ε σ α) (next : α → EStateM ε σ β) (s : σ) :
    stateAfter (x >>= next) s = match resultOf x s with
      | .ok a => stateAfter (next a) (stateAfter x s)
      | .error _ => stateAfter x s := by
  unfold resultOf stateAfter
  cases ran : x s with
  | ok a t => rw [bind_apply_of_ok ran]
  | error e t => rw [bind_apply_of_error ran]

/-- The connection after it has answered. -/
def Connection.rest (c : Connection) : Connection := { c with answers := c.answers.tail }

theorem Connection.callable_of_answer {c : Connection} {v : Value} (answered : c.answer = .ok v) :
    c.routine = .callable := by
  unfold answer at answered
  split at answered
  · next callable => exact callable
  all_goals cases answered

namespace Paging

theorem pageNumber_pos (page : Value) : 1 ≤ pageNumber page := by
  unfold pageNumber
  split
  · split <;> omega
  · exact le_rfl

theorem pageSize_pos (config : Config) (items : Value) : 0 < pageSize config items := by
  unfold pageSize
  split
  · split
    · omega
    · exact config.pageSize_pos
  · exact config.pageSize_pos

/-- A query takes the window of a page as a limit and an offset, which it does not refuse. -/
theorem setLimit_setOffset (query : Select) {page : Nat} (positive : 1 ≤ page) (items : Nat) :
    ((cleared query).setLimit (.int items)).bind
        (Select.setOffset (.int (((page : Int) - 1) * items))) =
      .ok (window page items query) := by
  have start : ((page : Int) - 1) * items = ((page - 1) * items : Nat) := by
    rw [Nat.cast_mul, Nat.cast_sub positive]
    rfl
  rw [start]
  simp only [Select.setLimit, Select.setOffset, Select.natural, Int.natCast_nonneg, ↓reduceIte,
    Except.map, Except.bind, Int.toNat_natCast]
  rfl

end Paging

namespace Select

variable {query : Select} {text : String}

/-- The text of a query that renders, with its limit and its offset in their place. -/
theorem text_of_toSql {limit offset : Option Nat}
    (rendered : toSql { query with limit := limit, offset := offset } = .ok text) :
    text = query.textBefore ++ String.join ((limit.toList.map (countPart "LIMIT") ++
      offset.toList.map (countPart "OFFSET")).map fun part => " " ++ part.text) ++
      query.textBehind := by
  obtain ⟨⟨table, named⟩, faultless, writable, writable'⟩ := renders_iff.mp ⟨text, rendered⟩
  have finished := render_eq_ok.mpr ⟨table, named, faultless, writable, writable', rfl⟩
  rw [toSql, finished, Except.map] at rendered
  cases rendered
  exact text_parts named limit offset

theorem text_of_window {page items : Nat}
    (rendered : (Paging.window page items query).toSql = .ok text) :
    text = query.windowText items ((page - 1) * items) := by
  rw [text_of_toSql rendered, windowText]
  simp only [Option.toList_some, List.map_cons, List.map_nil, List.cons_append, List.nil_append,
    String.join_cons, String.join_nil, text_countPart, String.append_assoc, String.append_empty]
  rfl

theorem text_of_cleared (rendered : (Paging.cleared query).toSql = .ok text) :
    text = query.textBefore ++ query.textBehind := by
  rw [text_of_toSql rendered]
  simp only [Option.toList_none, List.map_nil, List.append_nil, String.join_nil,
    String.append_empty]

end Select

namespace Session

variable {s t : Session} {id : Value}

theorem requests_of_routine (same : t.connection.routine = s.connection.routine)
    (text : Except Error String) (values : List Value) :
    t.requests text values = s.requests text values := by
  cases text with
  | ok sql => rw [requests, requests, sendable, sendable, same]
  | error e => rfl

/-- Inside a scope a statement is requested once, if it has a text. -/
theorem progress_exec (bound : s.correlation.bound = some id) (statement : Statement) :
    Progress id (s.requests statement.toSql statement.values) s
      (stateAfter (exec statement) s) := by
  cases rendered : statement.toSql with
  | error e =>
    rw [stateAfter, exec_of_error rendered]
    exact .refl id s
  | ok sql => exact (scoped_exec rendered).progress bound

end Session

namespace Builder

open Session (Progress Scoped)

variable {b : Builder} {query : Select}

theorem result_inSession {α : Type} (action : SessionM α) (b : Builder) :
    resultOf (inSession action) b = resultOf action b.session := by
  unfold resultOf inSession
  cases action b.session <;> rfl

theorem stateAfter_inSession {α : Type} (action : SessionM α) (b : Builder) :
    stateAfter (inSession action) b = { b with session := stateAfter action b.session } := by
  unfold stateAfter inSession
  cases action b.session <;> rfl

theorem result_withinScope {α : Type} (action : BuilderM α) (b : Builder) :
    resultOf (withinScope action) b = resultOf action { b with session := b.session.entered } := by
  unfold resultOf withinScope
  cases action { b with session := b.session.entered } <;> rfl

/-- The text of the count for a page: that of the query without any window. -/
def countText (query : Select) (b : Builder) : Except Error String :=
  ((Paging.cleared query).counting b.session.config.countAlias).toSql

/-- What the count for a page tells. -/
def counted (query : Select) (b : Builder) : Except Error Int :=
  (b.countText query).bind fun _ =>
    b.session.connection.answer.bind (Value.told b.session.config.countAlias)

/-- The statement after reading a page: the window is set when the count has told a number. -/
def turnedTo (query : Select) (page items : Nat) (b : Builder) : Statement :=
  match b.counted query with
  | .ok _ => .select (Paging.window page items query)
  | .error _ => .select (Paging.cleared query)

/-- What is requested for a page: the count, and the page when the count has told a number. -/
def pageRequests (query : Select) (page items : Nat) (b : Builder) : List (Value × Value) :=
  b.session.requests (b.countText query) query.values ++
    match b.counted query with
    | .ok _ => b.session.requests (Paging.window page items query).toSql query.values
    | .error _ => []

/-- A count that has told a number has taken one answer. -/
theorem connection_of_counted {n : Int} (told : b.counted query = .ok n) {t : Session}
    (counting : Progress b.session.inner (b.session.requests (b.countText query) query.values)
      b.session.entered t) : t.connection = b.session.connection.rest := by
  obtain ⟨sql, text, told⟩ := Except.bind_eq_ok.mp told
  obtain ⟨rows, answered, _⟩ := Except.bind_eq_ok.mp told
  have one : b.session.requests (b.countText query) query.values =
      [(.str sql, .list query.values)] := by
    rw [text, Session.requests, Session.sendable,
      if_pos (Connection.callable_of_answer answered)]
  rw [counting.connection, one, List.length_singleton, List.drop_one]
  rfl

/-- Executing another statement than before: the builder is left with that one. -/
theorem execAs_outcome {α : Type} (before statement : Statement) (reply : Value → α) (s : Session) :
    resultOf (setStatement statement >>= fun _ => inSession (Session.exec statement) >>= fun rows =>
        pure (reply rows)) ⟨before, s⟩ =
        (statement.toSql.bind fun _ => s.connection.answer).map reply ∧
      stateAfter (setStatement statement >>= fun _ => inSession (Session.exec statement) >>=
        fun rows => pure (reply rows)) ⟨before, s⟩ =
          ⟨statement, stateAfter (Session.exec statement) s⟩ := by
  have set : setStatement statement ⟨before, s⟩ = .ok () ⟨statement, s⟩ := rfl
  have answered := Session.result_exec statement s
  unfold resultOf at answered
  unfold resultOf stateAfter
  rw [bind_apply_of_ok set, inSession_bind_pure, ← answered]
  cases Session.exec statement s <;> exact ⟨rfl, rfl⟩

/-- Reading a page replies what was counted and what was answered to the window. -/
theorem readPage_outcome (query : Select) (page items : Nat)
    (cleared : b.statement = .select (Paging.cleared query)) :
    resultOf (readPage query page items) b = ((b.counted query).bind fun total =>
        ((Paging.window page items query).toSql.bind fun _ =>
          b.session.connection.rest.answer).map fun rows => (total, rows)) ∧
      (stateAfter (readPage query page items) b).statement = b.turnedTo query page items ∧
      Scoped (b.pageRequests query page items) b.session
        (stateAfter (readPage query page items) b).session := by
  have first : resultOf (Session.count (Paging.cleared query)) b.session.entered =
      b.counted query := Session.result_count (Paging.cleared query) b.session.entered
  have counting : Progress b.session.inner (b.session.requests (b.countText query) query.values)
      b.session.entered
      (stateAfter (Session.count (Paging.cleared query)) b.session.entered) := by
    rw [Session.stateAfter_count]
    exact Session.progress_exec b.session.bound_entered
      (.select ((Paging.cleared query).counting b.session.config.countAlias))
  rw [readPage, result_withinScope, stateAfter_withinScope, result_bind, stateAfter_bind,
    result_inSession, stateAfter_inSession]
  dsimp only
  rw [first]
  unfold turnedTo pageRequests
  generalize stateAfter (Session.count (Paging.cleared query)) b.session.entered = t at counting ⊢
  cases told : b.counted query with
  | error e =>
    dsimp only
    rw [List.append_nil]
    exact ⟨rfl, cleared, t, counting, rfl⟩
  | ok total =>
    have left := connection_of_counted told counting
    have bound : t.correlation.bound = some b.session.inner := by
      rw [counting.correlation, b.session.bound_entered]
    have routine : t.connection.routine = b.session.connection.routine := by
      rw [left]
      rfl
    have second := Session.progress_exec bound (.select (Paging.window page items query))
    rw [Session.requests_of_routine routine] at second
    obtain ⟨replied, turned⟩ := execAs_outcome b.statement
      (.select (Paging.window page items query)) (fun rows => (total, rows)) t
    rw [left] at replied
    dsimp only
    rw [turned]
    exact ⟨replied, rfl, _, counting.trans second, rfl⟩

/-- A page as it is told: the way back ends at the first page, the way on at the last. -/
theorem page_eq {number : Nat} (positive : 1 ≤ number) (rows : Value) (size : Nat)
    (total pages : Int) : Paging.page rows number size total pages =
      { result := rows, current := number, items := size
        previous := if number = 1 then none else some (number - 1)
        next := if (number : Int) < pages then some (number + 1) else none
        totalItems := total, totalPages := pages } := by
  have back : (if 1 < number then some (number - 1) else none) =
      if number = 1 then none else some (number - 1) := by
    by_cases first : number = 1
    · rw [if_neg (by omega), if_pos first]
    · rw [if_pos (by omega), if_neg first]
  rw [Paging.page, back]

/-- What reading a page of a given number and size does, however it ends. -/
structure Paginates (query : Select) (page items : Value) (number size : Nat) (b : Builder) :
    Prop where
  number_pos : 1 ≤ number
  size_pos : 0 < size
  /-- The limit and the offset of the page are none that a query refuses. -/
  accepted : ((Paging.cleared query).setLimit (.int size)).bind
      (Select.setOffset (.int (((number : Int) - 1) * size))) =
    .ok (Paging.window number size query)
  /-- The number is that of a count without any window. -/
  counting : (b.unpaged query).reply .count = (b.counted query).map fun n => .value (.int n)
  countText : ∀ text, b.countText query = .ok text →
    text = (query.counting b.session.config.countAlias).textBefore ++ query.textBehind
  rowsText : ∀ text, (Paging.cleared query).toSql = .ok text →
    text = query.textBefore ++ query.textBehind
  pageText : ∀ text, (Paging.window number size query).toSql = .ok text →
    text = query.textBefore ++ " LIMIT " ++ toString size ++ " OFFSET " ++
      toString ((number - 1) * size) ++ query.textBehind
  /-- The count goes out first, and the page only when the count has told a number. -/
  queries : (b.next (.paginate page items)).session.queries = b.session.queries ++
    (b.outgoing (b.countText query) query.values ++
      match b.counted query with
      | .ok _ => b.outgoing (Paging.window number size query).toSql query.values
      | .error _ => [])
  uncounted : ∀ e, b.counted query = .error e →
    (b.next (.paginate page items)).statement = .select { query with limit := none, offset := none }
  turned : ∀ n, b.counted query = .ok n → (b.next (.paginate page items)).statement =
    .select { query with limit := some size, offset := some ((number - 1) * size) }
  connection : (b.next (.paginate page items)).session.connection.bare = b.session.connection.bare
  config : (b.next (.paginate page items)).session.config = b.session.config
  bound : (b.next (.paginate page items)).session.correlation.bound = b.session.correlation.bound
  reply : b.reply (.paginate page items) = (b.counted query).bind fun total =>
    ((Paging.window number size query).toSql.bind fun _ =>
      b.session.connection.rest.answer).bind fun rows =>
        match Binary64.ceilQuotient total size with
        | none => .error .quotientTooLarge
        | some pages => .ok (.page
          { result := rows, current := number, items := size
            previous := if number = 1 then none else some (number - 1)
            next := if (number : Int) < pages then some (number + 1) else none
            totalItems := total, totalPages := pages })

theorem reply_paginate (queries : b.statement = .select query) (page items : Value) :
    b.reply (.paginate page items) =
      (resultOf (readPage query (Paging.pageNumber page) (Paging.pageSize b.session.config items))
        (b.unpaged query)).bind fun (total, rows) =>
          match Binary64.ceilQuotient total (Paging.pageSize b.session.config items) with
          | none => .error .quotientTooLarge
          | some pages => .ok (.page (Paging.page rows (Paging.pageNumber page)
              (Paging.pageSize b.session.config items) total pages)) := by
  rw [Builder.reply, run_paginate queries]
  unfold resultOf
  cases readPage query (Paging.pageNumber page) (Paging.pageSize b.session.config items)
    (b.unpaged query) with
  | error e c => rfl
  | ok answer c =>
    dsimp only [Except.bind]
    cases Binary64.ceilQuotient answer.1 (Paging.pageSize b.session.config items) <;> rfl

/-- Reading a page replies what was counted and what was answered, if the page count fits. -/
theorem reply_page (queries : b.statement = .select query) (page items : Value) :
    b.reply (.paginate page items) = (b.counted query).bind fun total =>
      ((Paging.window (Paging.pageNumber page) (Paging.pageSize b.session.config items)
          query).toSql.bind fun _ => b.session.connection.rest.answer).bind fun rows =>
        match Binary64.ceilQuotient total (Paging.pageSize b.session.config items) with
        | none => .error .quotientTooLarge
        | some pages => .ok (.page (Paging.page rows (Paging.pageNumber page)
            (Paging.pageSize b.session.config items) total pages)) := by
  have replied := (readPage_outcome (b := b.unpaged query) query (Paging.pageNumber page)
    (Paging.pageSize b.session.config items) rfl).1
  have unpaged : (b.unpaged query).counted query = b.counted query := rfl
  have session : (b.unpaged query).session = b.session := rfl
  rw [unpaged, session] at replied
  rw [reply_paginate queries, replied]
  generalize ((Paging.window (Paging.pageNumber page) (Paging.pageSize b.session.config items)
    query).toSql.bind fun _ => b.session.connection.rest.answer) = second
  cases b.counted query with
  | error e => rfl
  | ok total => cases second <;> rfl

/-- Behind the reading of a page there is a record of it at most. -/
theorem next_paginate (queries : b.statement = .select query) (page items : Value) :
    ∃ records, b.next (.paginate page items) =
      ⟨(stateAfter (readPage query (Paging.pageNumber page)
          (Paging.pageSize b.session.config items)) (b.unpaged query)).statement,
        { (stateAfter (readPage query (Paging.pageNumber page)
            (Paging.pageSize b.session.config items)) (b.unpaged query)).session
          with records := records }⟩ := by
  rw [next, stateAfter, run_paginate queries]
  unfold stateAfter
  cases readPage query (Paging.pageNumber page) (Paging.pageSize b.session.config items)
    (b.unpaged query) with
  | error e c => exact ⟨_, rfl⟩
  | ok answer c =>
    dsimp only
    cases Binary64.ceilQuotient answer.1 (Paging.pageSize b.session.config items) <;>
      exact ⟨_, rfl⟩

/-- Up to `2 ^ 53` rows, and rows on a page, the number of pages that is told is the least that has
room for all rows, although it is the ceiling of a quotient that was rounded before; so there is no
way on exactly from the pages that reach the last row. -/
theorem last_page_of_total {total : Int} {items : Nat} (some_rows : 0 ≤ total)
    (rows : total ≤ 2 ^ 53) (positive : 1 ≤ items) (size : items ≤ 2 ^ 53) :
    ∃ x : Magnitude, x.Nearest ((total : ℚ) / items) ∧
      IsLeast {n : ℤ | total ≤ n * items} ⌈x.value⌉ ∧
      ∀ (b : Builder) (query : Select) (page given result : Value),
        b.statement = .select query → Paging.pageSize b.session.config given = items →
        b.counted query = .ok total →
        (∃ text, (Paging.window (Paging.pageNumber page) items query).toSql = .ok text) →
        b.session.connection.rest.answer = .ok result →
        ∃ p : Page, b.reply (.paginate page given) = .ok (.page p) ∧ p.result = result ∧
          p.current = Paging.pageNumber page ∧ p.items = items ∧ p.totalItems = total ∧
          p.totalPages = ⌈x.value⌉ ∧ (p.next = none ↔ total ≤ p.current * items) := by
  obtain ⟨n, rfl⟩ := Int.eq_ofNat_of_zero_le some_rows
  have exactly := Binary64.ceilQuotient_eq positive (by exact_mod_cast rows) size
  obtain ⟨x, nearest, ceiling⟩ := Binary64.ceilQuotient_nearest positive exactly
  refine ⟨x, nearest, ceiling ▸ Magnitude.isLeast_ceilDiv positive, ?_⟩
  rintro b query page given result queries rfl told ⟨text, rendered⟩ answered
  refine ⟨Paging.page result (Paging.pageNumber page) (Paging.pageSize b.session.config given) n
    ⌈x.value⌉, ?_, rfl, rfl, rfl, rfl, rfl, ?_⟩
  · rw [reply_page queries, told, rendered, answered, ← ceiling]
    simp only [Except.bind, exactly]
  · have covers : ⌈x.value⌉ ≤ (Paging.pageNumber page : Int) ↔
        (n : Int) ≤ Paging.pageNumber page * Paging.pageSize b.session.config given := by
      rw [← ceiling, Nat.cast_le, ceilDiv_le_iff_le_mul positive, Nat.mul_comm]
      exact_mod_cast Iff.rfl
    refine Iff.trans ?_ covers
    rw [Paging.page]
    simp only [ite_eq_right_iff, reduceCtorEq, imp_false, not_lt]

theorem last_page_of_total_greatest :
    let query : Select := { Select.empty with table := some "users" }
    let b : Builder := ⟨.select query, .start ⟨"main", .str "sqlite", .callable,
      [.returns (.list [.map [(.str "count", .int (2 ^ 53))]])]⟩ .standard (fun n => toString n)
        .queries⟩
    ∃ p : Page, b.reply (.paginate (.int 1) (.int 3)) = .ok (.page p) ∧
      IsLeast {n : ℤ | 2 ^ 53 ≤ n * 3} p.totalPages ∧ p.next ≠ none := by
  intro query b
  obtain ⟨x, _, least, reading⟩ := last_page_of_total (by decide : (0 : Int) ≤ 2 ^ 53) le_rfl
    (by decide : 1 ≤ 3) (by decide)
  obtain ⟨p, replied, _, number, _, _, pages, last⟩ :=
    reading b query (.int 1) (.int 3) (.list []) rfl rfl rfl ⟨_, rfl⟩ rfl
  refine ⟨p, replied, pages ▸ least, fun none => ?_⟩
  have reached := last.mp none
  rw [number] at reached
  exact absurd reached (by decide)

/-- One row more is too many: rounding loses it, and with it a page of one row. -/
example : Binary64.ceilQuotient (2 ^ 53 + 1) 1 = some (2 ^ 53) := by decide

end Builder

end SqlBuilder
