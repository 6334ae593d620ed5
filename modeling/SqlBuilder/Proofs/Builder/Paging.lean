import Mathlib.Algebra.Order.Floor.Div
import SqlBuilder.Proofs.Builder.Sending
import SqlBuilder.Proofs.Number.Quotient

set_option autoImplicit false

namespace SqlBuilder

namespace Paging

variable {n k i : Nat}

/-- The row is in the window that starts behind `i` windows of `k` rows. -/
def InWindow (k i row : Nat) : Prop := i * k ≤ row ∧ row < i * k + k

/-- The number of pages for `n` rows, of which there is always a first. -/
def pageCount (n k : Nat) : Nat := max 1 (n ⌈/⌉ k)

theorem lt_ceilDiv_iff (positive : 0 < k) : i < n ⌈/⌉ k ↔ i * k < n := by
  rw [← Nat.not_le, ceilDiv_le_iff_le_mul positive, Nat.not_le, Nat.mul_comm]

theorem start_le (positive : 0 < k) (page : i < pageCount n k) : i * k ≤ n := by
  rcases Nat.eq_zero_or_pos i with rfl | later
  · rw [Nat.zero_mul]
    exact Nat.zero_le n
  · have within : i < n ⌈/⌉ k := (lt_max_iff.mp page).resolve_left (by omega)
    exact ((lt_ceilDiv_iff positive).mp within).le

/-- Every row is in exactly one window. -/
theorem exists_unique_window (positive : 0 < k) {row : Nat} (member : row < n) :
    ∃! i, i < pageCount n k ∧ InWindow k i row := by
  have below : row / k * k ≤ row := Nat.div_mul_le_self row k
  refine ⟨row / k, ⟨?_, below, ?_⟩, ?_⟩
  · have within : row / k < n ⌈/⌉ k := (lt_ceilDiv_iff positive).mpr (by omega)
    exact lt_max_of_lt_right within
  · exact Nat.lt_div_mul_add positive
  · rintro j ⟨_, lower, upper⟩
    have product : (j + 1) * k = j * k + k := by rw [Nat.add_mul, Nat.one_mul]
    exact (Nat.div_eq_of_lt_le lower (by omega)).symm

/-- Every window of a walk has a row, unless there is none at all. -/
theorem exists_row (positive : 0 < k) (rows : n ≠ 0) (page : i < pageCount n k) :
    ∃ row < n, InWindow k i row := by
  refine ⟨i * k, ?_, le_rfl, by omega⟩
  rcases Nat.eq_zero_or_pos i with rfl | later
  · omega
  · exact (lt_ceilDiv_iff positive).mp ((lt_max_iff.mp page).resolve_left (by omega))

variable {q query : Select}

/-- A page does not depend on the window that the query was at before. -/
theorem window_of_cleared {page items : Nat} (same : cleared q = cleared query) :
    window page items q = window page items query := by
  have windows := congrArg (window page items) same
  exact windows

theorem values_of_cleared (same : cleared q = cleared query) : q.values = query.values := by
  have values := congrArg Select.values same
  exact values

theorem toSql_page (renders : ∃ text, query.toSql = .ok text) (positive : 0 < k)
    (size : k ≤ 2 ^ 53) (rows : n ≤ 2 ^ 53) (page : i < pageCount n k) :
    (window (i + 1) k query).toSql = .ok (query.windowText k (i * k)) := by
  have start : (i + 1 - 1) * k ≤ 2 ^ 53 := by
    rw [Nat.add_sub_cancel]
    exact (start_le positive page).trans rows
  rw [Select.toSql_window renders size start, Nat.add_sub_cancel]

/-- The pages of `n` rows in turn, each with its result. -/
def pagesFrom (n k number : Nat) (results : List Value) : List Page :=
  (results.zipIdx number).map fun (result, number) =>
    page result number k n ((n ⌈/⌉ k : Nat) : Int)

theorem pagesFrom_getElem? {number : Nat} {results : List Value} {p : Page}
    (at_ : (pagesFrom n k number results)[i]? = some p) :
    ∃ result, results[i]? = some result ∧
      p = page result (number + i) k n ((n ⌈/⌉ k : Nat) : Int) := by
  rw [pagesFrom, List.getElem?_map, List.getElem?_zipIdx, Option.map_map] at at_
  obtain ⟨result, there, rfl⟩ := Option.map_eq_some_iff.mp at_
  exact ⟨result, there, rfl⟩

end Paging

/-- The answer to a count whose first row maps the label to the number. -/
def Answer.Tells (label : Text) (n : Nat) (a : Answer) : Prop :=
  ∃ rows row v, a = .returns rows ∧ rows.item (.int 0) = .ok row ∧
    row.item (.text label) = .ok v ∧ v.toInteger = .ok (n : Int)

/-- Answers to a count and the reading of a page in turn, once for each of the results. -/
inductive Serves (label : Text) (n : Nat) : List Value → List Answer → Prop
  | done (answers : List Answer) : Serves label n [] answers
  | page {a : Answer} {result : Value} {results : List Value} {answers : List Answer} :
      a.Tells label n → Serves label n results answers →
      Serves label n (result :: results) (a :: .returns result :: answers)

namespace Session

variable {s : Session} {query : Select}

theorem count_of_answer {sql : String} {n : Nat} {a : Answer} {rest : List Answer}
    (rendered : (query.counting s.config.countAlias).toSql = .ok sql)
    (routine : s.connection.routine = .callable) (answers : s.connection.answers = a :: rest)
    (tells : a.Tells s.config.countAlias n) :
    ∃ t, count query s = .ok (n : Int) t ∧ Scoped [(.str sql, .list query.values)] s t := by
  obtain ⟨rows, row, v, rfl, first, labelled, read⟩ := tells
  have written : (Statement.select (query.counting s.config.countAlias)).toSql = .ok sql := rendered
  obtain ⟨t, executed, inside⟩ := exec_of_answer written routine answers
  refine ⟨t, ?_, inside⟩
  rw [count_eq, bind_apply_of_ok executed]
  simp only [MonadExcept.ofExcept, first, labelled, read, pure_bind]
  rfl

end Session

namespace Builder

open Session (Progress Scoped)

variable {b c : Builder} {query : Select} {n k number : Nat}

/-- The queries for one page: the count of all rows, and then the window. -/
def asks (query : Select) (count : String) (k i : Nat) : List (Value × Value) :=
  [(.str count, .list query.values), (.str (query.windowText k (i * k)), .list query.values)]

theorem readPage_of_answers {count window : String} {a : Answer} {result : Value}
    {rest : List Answer}
    (counting : ((Paging.cleared query).counting b.session.config.countAlias).toSql = .ok count)
    (windowing : (Paging.window number k query).toSql = .ok window)
    (routine : b.session.connection.routine = .callable)
    (answers : b.session.connection.answers = a :: .returns result :: rest)
    (tells : a.Tells b.session.config.countAlias n) :
    ∃ t, readPage query number k b =
        .ok ((n : Int), result) ⟨.select (Paging.window number k query), t⟩ ∧
      Scoped [(.str count, .list query.values), (.str window, .list query.values)] b.session t := by
  obtain ⟨s, counted, first⟩ :
      ∃ s, Session.count (Paging.cleared query) b.session.entered = .ok (n : Int) s ∧
        Scoped [(.str count, .list query.values)] b.session.entered s :=
    Session.count_of_answer counting routine answers tells
  have left : s.connection.answers = .returns result :: rest := by
    have same : b.session.entered.connection.answers = a :: .returns result :: rest := answers
    rw [first.connection]
    dsimp only
    rw [same]
    rfl
  have callable : s.connection.routine = .callable := by
    rw [first.connection]
    exact routine
  have written : (Statement.select (Paging.window number k query)).toSql = .ok window := windowing
  obtain ⟨t, executed, second⟩ := Session.exec_of_answer written callable left
  have bound : s.correlation.bound = some b.session.inner := by
    rw [first.bound, b.session.bound_entered]
  have inside := (first.progress b.session.bound_entered).trans (second.progress bound)
  refine ⟨t.leave b.session.opening.token, ?_, t, inside, rfl⟩
  have count_inside : inSession (Session.count (Paging.cleared query))
      { b with session := b.session.entered } = .ok (n : Int) { b with session := s } := by
    rw [inSession, counted]
  have exec_inside : inSession (Session.exec (.select (Paging.window number k query)))
      ⟨.select (Paging.window number k query), s⟩ =
        .ok result ⟨.select (Paging.window number k query), t⟩ := by
    rw [inSession, executed]
  have set : setStatement (.select (Paging.window number k query)) { b with session := s } =
      .ok () ⟨.select (Paging.window number k query), s⟩ := rfl
  unfold readPage withinScope
  rw [bind_apply_of_ok count_inside, bind_apply_of_ok set, bind_apply_of_ok exec_inside]
  rfl

/-- The builder is for a query, with some window of rows. -/
def IsFor (query : Select) (b : Builder) : Prop :=
  ∃ q, b.statement = .select q ∧ Paging.cleared q = Paging.cleared query

/-- The texts and values that a connection was asked. -/
def asked (b : Builder) : List (Value × Value) := b.session.queries.map fun q => (q.sql, q.values)

/-- A page has been read: the builder is for the query still, and the connection was asked for one
count and one window. -/
structure Turned (query : Select) (asks : List (Value × Value)) (rest : List Answer)
    (b c : Builder) : Prop where
  query : c.IsFor query
  connection : c.session.connection = { b.session.connection with answers := rest }
  config : c.session.config = b.session.config
  asked : c.asked = b.asked ++ asks

theorem paginate_of_answers {count : String} {i : Nat} {a : Answer} {result : Value}
    {rest : List Answer} (isFor : b.IsFor query) (renders : ∃ text, query.toSql = .ok text)
    (counting : ((Paging.cleared query).counting b.session.config.countAlias).toSql = .ok count)
    (positive : 0 < k) (size : k ≤ 2 ^ 53) (rows : n ≤ 2 ^ 53) (page : i < Paging.pageCount n k)
    (routine : b.session.connection.routine = .callable)
    (answers : b.session.connection.answers = a :: .returns result :: rest)
    (tells : a.Tells b.session.config.countAlias n) :
    b.reply (.paginate (.int (i + 1 : Nat)) (.int k)) =
        .ok (.page (Paging.page result (i + 1) k n ((n ⌈/⌉ k : Nat) : Int))) ∧
      Turned query (asks query count k i) rest b
        (b.next (.paginate (.int (i + 1 : Nat)) (.int k))) := by
  obtain ⟨q, queries, same⟩ := isFor
  have number : Paging.pageNumber (.int (i + 1 : Nat)) = i + 1 := by
    rw [Paging.pageNumber, if_pos (by omega), Int.toNat_natCast]
  have items : Paging.pageSize b.session.config (.int k) = k := by
    rw [Paging.pageSize, if_pos (by omega), Int.toNat_natCast]
  have windowing : (Paging.window (i + 1) k q).toSql = .ok (query.windowText k (i * k)) := by
    rw [Paging.window_of_cleared same]
    exact Paging.toSql_page renders positive size rows page
  rw [← same] at counting
  obtain ⟨t, read, inside⟩ := readPage_of_answers (b := b.unpaged q) counting windowing routine
    answers tells
  rw [Paging.values_of_cleared same] at inside
  have ran := run_paginate queries (.int (i + 1 : Nat)) (.int k)
  rw [number, items, read] at ran
  dsimp only at ran
  rw [Binary64.ceilQuotient_eq positive rows size] at ran
  dsimp only at ran
  refine ⟨by rw [reply, ran], ?_⟩
  rw [next, stateAfter, ran]
  have dropped : b.session.connection.answers.drop 2 = rest := by rw [answers]; rfl
  refine ⟨⟨_, rfl, ?_⟩, ?_, inside.config, ?_⟩
  · rw [Paging.window_of_cleared same]
    rfl
  · rw [← dropped]
    exact inside.connection
  · have logged : ∀ s : Session, (pageRead (i + 1) n ((n ⌈/⌉ k : Nat) : Int) s).queries =
        s.queries := fun _ => rfl
    rw [asked, logged, inside.queries, List.map_append, List.map_map]
    rfl

/-- From a page on, each page is read at the number that the page before tells, until one tells no
next; the pages that were read, and the builder behind the last. -/
inductive Walk (k : Nat) : Builder → Nat → List Page → Builder → Prop
  | last {b : Builder} {number : Nat} {p : Page} :
      b.reply (.paginate (.int number) (.int k)) = .ok (.page p) → p.next = none →
      Walk k b number [p] (b.next (.paginate (.int number) (.int k)))
  | more {b c : Builder} {number following : Nat} {p : Page} {pages : List Page} :
      b.reply (.paginate (.int number) (.int k)) = .ok (.page p) → p.next = some following →
      Walk k (b.next (.paginate (.int number) (.int k))) following pages c →
      Walk k b number (p :: pages) c

/-- There is one walk at most. -/
theorem Walk.unique {pages others : List Page} {d : Builder} (walk : Walk k b number pages c)
    (other : Walk k b number others d) : pages = others ∧ c = d := by
  induction walk generalizing others d with
  | last replied ends =>
    cases other with
    | last replied' _ =>
      cases replied.symm.trans replied'
      exact ⟨rfl, rfl⟩
    | more replied' goes _ =>
      cases replied.symm.trans replied'
      cases ends.symm.trans goes
  | more replied goes _ ih =>
    cases other with
    | last replied' ends =>
      cases replied.symm.trans replied'
      cases goes.symm.trans ends
    | more replied' goes' rest =>
      cases replied.symm.trans replied'
      cases goes.symm.trans goes'
      obtain ⟨rfl, rfl⟩ := ih rest
      exact ⟨rfl, rfl⟩

theorem walk_of_answers {count : String} {results : List Value} {answers : List Answer}
    {label : Text} (renders : ∃ text, query.toSql = .ok text)
    (counting : ((Paging.cleared query).counting label).toSql = .ok count)
    (positive : 0 < k) (size : k ≤ 2 ^ 53) (rows : n ≤ 2 ^ 53)
    (serves : Serves label n results answers) :
    ∀ (b : Builder) (i : Nat), b.IsFor query → b.session.config.countAlias = label →
      b.session.connection.routine = .callable → b.session.connection.answers = answers →
      results ≠ [] → i + results.length = Paging.pageCount n k →
      ∃ c, Walk k b (i + 1) (Paging.pagesFrom n k (i + 1) results) c ∧
        c.asked = b.asked ++ (List.range' i results.length).flatMap (asks query count k) := by
  -- Induction on the pages to come; the builder is for the query at each of them.
  induction serves with
  | done answers =>
    intro b i _ _ _ _ some_page
    exact absurd rfl some_page
  | @page a result results answers tells _ ih =>
    rintro b i isFor rfl routine served _ total
    rw [List.length_cons] at total
    obtain ⟨replied, turned⟩ := paginate_of_answers isFor renders counting positive size rows
      (i := i) (by omega) routine served tells
    cases results with
    | nil =>
      refine ⟨_, .last replied ?_, ?_⟩
      · have behind : ¬ ((i + 1 : Nat) : Int) < ((n ⌈/⌉ k : Nat) : Int) := by
          have most : n ⌈/⌉ k ≤ Paging.pageCount n k := le_max_right _ _
          rw [List.length_nil] at total
          omega
        exact if_neg behind
      · rw [turned.asked]
        simp only [List.length_singleton, List.range'_one, List.flatMap_singleton]
    | cons result' results =>
      have before : ((i + 1 : Nat) : Int) < ((n ⌈/⌉ k : Nat) : Int) := by
        rw [List.length_cons, Paging.pageCount] at total
        omega
      have answers_left : (b.next (.paginate (.int (i + 1 : Nat)) (.int k))).session.connection =
          { b.session.connection with answers := answers } := turned.connection
      obtain ⟨c, walk, asked⟩ := ih _ (i + 1) turned.query (by rw [turned.config])
        (by rw [answers_left]; exact routine) (by rw [answers_left]) (List.cons_ne_nil _ _)
        (by omega)
      refine ⟨c, .more replied (if_pos before) walk, ?_⟩
      have pages : (result :: result' :: results).length = (result' :: results).length + 1 := rfl
      rw [asked, turned.asked, pages, List.range'_succ, List.flatMap_cons, List.append_assoc]

/-- A walk through the pages of `n` rows, `k` on each, that starts at the first of them. -/
structure Tour (query : Select) (n k : Nat) (results : List Value) (b : Builder)
    (pages : List Page) (c : Builder) : Prop where
  walk : Walk k b 1 pages c
  only : ∀ others d, Walk k b 1 others d → others = pages ∧ d = c
  calls : pages.length = max 1 (n ⌈/⌉ k)
  results : pages.map (·.result) = results
  /-- Each count has one text and the values of the query; it is for the query without a window.
  Each page is read by the text of the query with a window in it, and with the same values. -/
  asked : ∃ count,
    ((Paging.cleared query).counting b.session.config.countAlias).toSql = .ok count ∧
      (Paging.cleared query).toSql = .ok (query.textBefore ++ query.textBehind) ∧
      c.asked = b.asked ++ (List.range pages.length).flatMap fun i =>
        [(.str count, .list query.values),
          (.str (query.textBefore ++ " LIMIT " ++ toString k ++ " OFFSET " ++ toString (i * k) ++
            query.textBehind), .list query.values)]
  once : ∀ row < n, ∃! i, i < pages.length ∧ i * k ≤ row ∧ row < i * k + k
  held : n ≠ 0 → ∀ i < pages.length, ∃ row < n, i * k ≤ row ∧ row < i * k + k
  first : ∀ p, pages[0]? = some p → p.current = 1 ∧ p.previous = none
  later : ∀ i p q, pages[i]? = some p → pages[i + 1]? = some q →
    p.next = some q.current ∧ q.previous = some p.current

/-- Walking the pages covers every row once: when the query renders and the connection tells one
number of rows at each count and answers each page, the walk ends behind the last row. -/
theorem tour_of_answers (b : Builder) (query : Select) (n k : Nat) (results : List Value)
    (queries : b.statement = .select query) (renders : ∃ text, query.toSql = .ok text)
    (positive : 1 ≤ k) (size : k ≤ 2 ^ 53) (rows : n ≤ 2 ^ 53)
    (routine : b.session.connection.routine = .callable)
    (serves : Serves b.session.config.countAlias n results b.session.connection.answers)
    (enough : results.length = max 1 (n ⌈/⌉ k)) :
    ∃ pages c, Tour query n k results b pages c := by
  obtain ⟨count, counting⟩ := (Select.renders_counting b.session.config.countAlias).mpr
    (Select.renders_cleared renders)
  have some_page : results ≠ [] := by
    rintro rfl
    rw [List.length_nil] at enough
    omega
  obtain ⟨c, walk, asked⟩ := walk_of_answers renders counting positive size rows serves b 0
    ⟨query, queries, rfl⟩ rfl routine rfl some_page (by rw [Nat.zero_add]; exact enough)
  have calls : (Paging.pagesFrom n k 1 results).length = max 1 (n ⌈/⌉ k) := by
    rw [Paging.pagesFrom, List.length_map, List.length_zipIdx, enough]
  refine ⟨_, c, walk, fun _ _ other => other.unique walk, calls, ?_,
    ⟨count, counting, Select.toSql_cleared renders, ?_⟩, ?_, ?_, ?_, ?_⟩
  · rw [Paging.pagesFrom, List.map_map]
    exact List.zipIdx_map_fst 1 results
  · rw [asked, calls, ← enough, List.range_eq_range']
    rfl
  · rw [calls]
    exact fun row member => Paging.exists_unique_window positive member
  · rw [calls]
    exact fun some_row i page => Paging.exists_row positive some_row page
  · intro p at_
    obtain ⟨result, _, rfl⟩ := Paging.pagesFrom_getElem? at_
    exact ⟨rfl, rfl⟩
  · intro i p q at_ at_next
    obtain ⟨result, _, rfl⟩ := Paging.pagesFrom_getElem? at_
    obtain ⟨result', there, rfl⟩ := Paging.pagesFrom_getElem? at_next
    obtain ⟨within, _⟩ := List.getElem?_eq_some_iff.mp there
    have more : ((1 + i : Nat) : Int) < ((n ⌈/⌉ k : Nat) : Int) := by
      rw [enough] at within
      omega
    have further : 1 < 1 + (i + 1) := by omega
    refine ⟨?_, ?_⟩
    · exact if_pos more
    · exact if_pos further

/-- The answer to a count of three rows. -/
def threeRows : Answer := .returns (.list [.map [(.str "count", .int 3)]])

/-- A query of users at some window, on a connection that tells three rows and has two pages. -/
def windowedUsers : Builder where
  statement := .select
    { Select.empty with table := some "users", limit := some 5, offset := some 7 }
  session := .start ⟨"main", .str "sqlite", .callable,
    [threeRows, .returns (.list [.int 1, .int 2]), threeRows, .returns (.list [.int 3])]⟩
    .standard (fun n => toString n) .queries

theorem tour_of_answers_windowedUsers : ∃ query pages c, windowedUsers.statement = .select query ∧
    Tour query 3 2 [.list [.int 1, .int 2], .list [.int 3]] windowedUsers pages c := by
  have told : threeRows.Tells windowedUsers.session.config.countAlias 3 :=
    ⟨_, _, _, rfl, rfl, rfl, rfl⟩
  obtain ⟨pages, c, tour⟩ := tour_of_answers windowedUsers _ 3 2
    [.list [.int 1, .int 2], .list [.int 3]] rfl ⟨_, rfl⟩ (by decide) (by decide) (by decide) rfl
    (.page told (.page told (.done []))) rfl
  exact ⟨_, pages, c, rfl, tour⟩

end Builder

end SqlBuilder
