import SqlBuilder.Proofs.Builder.Attempt
import SqlBuilder.Proofs.Statement.Provenance

set_option autoImplicit false

namespace SqlBuilder

/-- Everything that was sent since `past` came with these values. -/
def Session.SentWith (past : List Query) (values : List Value) (s : Session) : Prop :=
  ∃ sent, s.queries = past ++ sent ∧ ∀ q ∈ sent, q.values = .list values

namespace Session

variable {past : List Query} {values : List Value}

theorem sentWith_self (s : Session) : s.SentWith s.queries values :=
  ⟨[], (List.append_nil _).symm, nofun⟩

theorem keeps_sentWith_exec {statement : Statement} (same : statement.values = values) :
    Keeps (SentWith past values) (exec statement) := by
  rintro s ⟨sent, before, each⟩
  cases rendered : statement.toSql with
  | error e =>
    rw [stateAfter, exec_of_error rendered]
    exact ⟨sent, before, each⟩
  | ok sql =>
    have call := (scoped_exec (s := s) rendered).queries
    rw [before, List.append_assoc] at call
    refine ⟨_, call, fun q member => ?_⟩
    rcases List.mem_append.mp member with early | late
    · exact each q early
    · obtain ⟨⟨text, given⟩, asked, rfl⟩ := List.mem_map.mp late
      unfold sendable at asked
      split at asked
      · cases List.mem_singleton.mp asked
        rw [same]
      · cases asked

theorem keeps_sentWith_count {query : Select} (same : query.values = values) :
    Keeps (SentWith past values) (count query) := by
  intro s before
  have counted : (Statement.select (query.counting s.config.countAlias)).values = values := same
  rw [stateAfter_count]
  exact keeps_sentWith_exec counted s before

end Session

namespace Builder

open Session (SentWith)

theorem keeps_sentWith_paginate {past : List Query} (query : Select) (page items : Value) :
    Keeps (fun c : Builder => SentWith past query.values c.session)
      (paginate query page items) := by
  have asking : ∀ {α : Type} {action : SessionM α}, Keeps (SentWith past query.values) action →
      Keeps (fun c : Builder => SentWith past query.values c.session) (inSession action) :=
    fun kept => keeps_inSession_of fun _ => kept
  have setting : ∀ s, Keeps (fun c : Builder => SentWith past query.values c.session)
      (setStatement s) := fun _ => .modify fun _ before => before
  -- Neither window of rows changes what is bound.
  have counted : (Paging.cleared query).values = query.values := rfl
  have paged : ∀ current size, (Statement.select (Paging.window current size query)).values =
      query.values := fun _ _ => rfl
  refine .bind .get fun _ => .bind (setting _) fun _ => .bind ?_ fun (total, result) => ?_
  · intro b before
    rw [readPage, stateAfter_withinScope]
    exact Keeps.bind (asking (Session.keeps_sentWith_count counted)) (fun _ =>
      .bind (setting _) fun _ =>
        .bind (asking (Session.keeps_sentWith_exec (paged _ _))) fun _ => .pure _)
      { b with session := b.session.entered } before
  · dsimp only
    split
    · exact .throw _
    · exact .bind (asking (.modify fun _ before => before)) fun _ => .pure _

/-- Whatever an operation that opens a scope sends comes with the values of the statement. -/
theorem sentWith_next (b : Builder) {operation : Operation}
    (opens : operation.opensScope = true) :
    SentWith b.session.queries b.statement.values (b.next operation).session := by
  have unasked : (∀ query, b.statement ≠ .select query) →
      (operation = .count ∨ ∃ page items, operation = .paginate page items) →
      SentWith b.session.queries b.statement.values (b.next operation).session := by
    intro other asks
    obtain ⟨e, failed⟩ := run_of_not_select asks other
    rw [next, stateAfter, failed]
    exact b.session.sentWith_self
  cases operation with
  | exec =>
    rw [next_exec]
    exact Session.keeps_sentWith_exec rfl b.session b.session.sentWith_self
  | count =>
    by_cases select : ∃ query, b.statement = .select query
    · obtain ⟨query, queries⟩ := select
      rw [next_count queries, queries]
      exact Session.keeps_sentWith_count rfl b.session b.session.sentWith_self
    · exact unasked (fun query queries => select ⟨query, queries⟩) (.inl rfl)
  | paginate page items =>
    by_cases select : ∃ query, b.statement = .select query
    · obtain ⟨query, queries⟩ := select
      have ran : run (.paginate page items) b =
          (paginate query page items >>= fun p => pure (Reply.page p)) b :=
        onSelect_of_select queries "paginate" fun query =>
          paginate query page items >>= fun p => pure (Reply.page p)
      rw [next, stateAfter, ran, queries]
      exact Keeps.bind (keeps_sentWith_paginate query page items) (fun p => .pure (Reply.page p)) b
        b.session.sentWith_self
    · exact unasked (fun query queries => select ⟨query, queries⟩) (.inr ⟨page, items, rfl⟩)
  | _ => cases opens

theorem SameClauses.supplied {s t : Statement} {attempts : List Attempt} (same : SameClauses s t)
    (supplied : t.Supplied attempts) : s.Supplied attempts := by
  rcases same with rfl | ⟨query, limit, offset, rfl, rfl⟩
  · exact supplied
  · have bound := Statement.supplied_select.mp supplied
    exact Statement.supplied_select.mpr bound

theorem supplied_next {b : Builder} {attempts : List Attempt}
    (supplied : b.statement.Supplied attempts) (operation : Operation) :
    (b.next operation).statement.Supplied (attempts ++
      operation.attempts b.session.driver b.statement) := by
  by_cases call : ∃ c, operation = .call c
  · obtain ⟨c, rfl⟩ := call
    rw [next_call b c]
    exact supplied.apply c
  · have other : ∀ c, operation ≠ .call c := fun c called => call ⟨c, called⟩
    have nothing : operation.attempts b.session.driver b.statement = [] := by
      cases operation with
      | call c => exact absurd rfl (other c)
      | _ => rfl
    rw [nothing, List.append_nil]
    exact (next_unchanged b other).2.supplied supplied

theorem supplied_after (operations : List Operation) {b : Builder} {attempts : List Attempt}
    (supplied : b.statement.Supplied attempts) :
    (b.after operations).statement.Supplied (attempts ++ Builder.attempts operations b) := by
  induction operations generalizing b attempts with
  | nil =>
    rw [Builder.attempts, List.append_nil]
    exact supplied
  | cons operation rest ih =>
    rw [Builder.attempts, ← List.append_assoc]
    exact ih (supplied_next supplied operation)

/-- An update that refuses a truth value, binds an empty text and no null, and is left with what a
callback did before it failed. -/
def patched : List Operation :=
  [.call (.update (.assign (.map [(.str "a", .bool true)]))),
    .call (.update (.assign (.map [(.str "a", .str ""), (.str "b", .null)]))),
    .call (.update (.filter .openGroup)),
    .call (.update (.filter (.extend (.callback none
      [.col (.str "c"), .inSubquery (.callback [.table (.str "t"), .having (.callback none
        [.col (.str "d"), .between (.ref (.plain "e")) (.int 7)])]), .compare .equal .null]))))]

end Builder

end SqlBuilder
