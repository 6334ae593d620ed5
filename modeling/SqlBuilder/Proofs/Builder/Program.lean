import SqlBuilder.Proofs.Builder.Sending

set_option autoImplicit false

namespace SqlBuilder

/-- What a builder has for itself. -/
structure Post where
  statement : Statement
  connection : Connection
  config : Config

/-- Builders at work in one context. What has happened is in the context; the connection and the
settings there are those of the builder that was used last. -/
structure Desk where
  posts : Nat → Post
  context : Session

namespace Desk

def builder (d : Desk) (i : Nat) : Builder where
  statement := (d.posts i).statement
  session := { d.context with connection := (d.posts i).connection, config := (d.posts i).config }

def store (i : Nat) (b : Builder) (d : Desk) : Desk where
  posts j := if j = i then ⟨b.statement, b.session.connection, b.session.config⟩ else d.posts j
  context := b.session

/-- An operation of one of the builders; what it replies is left aside. -/
def operate (i : Nat) (operation : Operation) : EStateM Error Desk Unit := fun d =>
  match Builder.run operation (d.builder i) with
  | .ok _ b => .ok () (d.store i b)
  | .error e b => .error e (d.store i b)

def opening (id : Option Value) (d : Desk) : Opening :=
  d.context.correlation.enter d.context.supply id

/-- The desk inside a scope. -/
def entered (id : Option Value) (d : Desk) : Desk :=
  { d with context := { d.context with correlation := (d.opening id).inner } }

/-- The desk after a scope that puts `token` back. -/
def leave (token : Option (Option Value)) (d : Desk) : Desk :=
  { d with context := d.context.leave token }

/-- Runs an action inside a scope, which is closed however the action ends. -/
def withinScope (id : Option Value) (action : EStateM Error Desk Unit) : EStateM Error Desk Unit :=
  fun d =>
    match action (d.entered id) with
    | .ok _ c => .ok () (c.leave (d.opening id).token)
    | .error e c => .error e (c.leave (d.opening id).token)

end Desk

/-- A program of a user of builders. -/
inductive Program
  | done
  | operate (place : Nat) (operation : Operation)
  | fail (e : Error)
  /-- A scope with the given id, or without an id of its own. -/
  | scope (id : Option Value) (body : Program)
  | sequence (first second : Program)
  /-- Goes on behind a failure of the body. -/
  | attempt (body : Program)

namespace Program

def run : Program → EStateM Error Desk Unit
  | .done => pure ()
  | .operate place operation => Desk.operate place operation
  | .fail e => throw e
  | .scope id body => Desk.withinScope id body.run
  | .sequence first second => first.run >>= fun _ => second.run
  | .attempt body => fun d => .ok () (stateAfter body.run d)

/-- The ids that are given to scopes are not empty. -/
def Named : Program → Prop
  | .scope id body => (∀ given, id = some given → given.truthy = true) ∧ body.Named
  | .sequence first second => first.Named ∧ second.Named
  | .attempt body => body.Named
  | .done | .operate .. | .fail _ => True

/-- `Records supply around p issued ids issued' failure`: inside scopes of which the innermost that
introduced an id introduced `around`, and with `issued` ids taken from the supply, the queries of
the program carry `ids` in turn; then `issued'` ids have been taken, and it ends as told. -/
inductive Records (supply : Nat → String) :
    Option Value → Program → Nat → List (Option Value) → Nat → Option Error → Prop
  | done {around : Option Value} {issued : Nat} : Records supply around .done issued [] issued none
  | fail {around : Option Value} {issued : Nat} {e : Error} :
      Records supply around (.fail e) issued [] issued (some e)
  /-- A text that is sent as it stands opens no scope. -/
  | raw {around : Option Value} {issued place : Nat} {sql values : Value}
      {ids : List (Option Value)} {failure : Option Error} (each : ∀ id ∈ ids, id = around) :
      Records supply around (.operate place (.raw sql values)) issued ids issued failure
  /-- A call that fails before its scope is open, or that needs none. -/
  | silent {around : Option Value} {issued place : Nat} {operation : Operation}
      {failure : Option Error} (cause : operation.opensScope = true → failure.isSome = true) :
      Records supply around (.operate place operation) issued [] issued failure
  | reusing {id : Value} {issued place : Nat} {operation : Operation}
      {ids : List (Option Value)} {failure : Option Error} (opens : operation.opensScope = true)
      (each : ∀ i ∈ ids, i = some id) :
      Records supply (some id) (.operate place operation) issued ids issued failure
  | generating {issued place : Nat} {operation : Operation}
      {ids : List (Option Value)} {failure : Option Error} (opens : operation.opensScope = true)
      (each : ∀ i ∈ ids, i = some (.str (supply issued))) :
      Records supply none (.operate place operation) issued ids (issued + 1) failure
  | named {around : Option Value} {id : Value} {body : Program} {issued issued' : Nat}
      {ids : List (Option Value)} {failure : Option Error} :
      Records supply (some id) body issued ids issued' failure →
      Records supply around (.scope (some id) body) issued ids issued' failure
  | within {id : Value} {body : Program} {issued issued' : Nat}
      {ids : List (Option Value)} {failure : Option Error} :
      Records supply (some id) body issued ids issued' failure →
      Records supply (some id) (.scope none body) issued ids issued' failure
  | alone {body : Program} {issued issued' : Nat}
      {ids : List (Option Value)} {failure : Option Error} :
      Records supply (some (.str (supply issued))) body (issued + 1) ids issued' failure →
      Records supply none (.scope none body) issued ids issued' failure
  | sequence {around : Option Value} {first second : Program} {issued between issued' : Nat}
      {ids more : List (Option Value)} {failure : Option Error} :
      Records supply around first issued ids between none →
      Records supply around second between more issued' failure →
      Records supply around (.sequence first second) issued (ids ++ more) issued' failure
  | cut {around : Option Value} {first second : Program} {issued issued' : Nat}
      {ids : List (Option Value)} {e : Error} :
      Records supply around first issued ids issued' (some e) →
      Records supply around (.sequence first second) issued ids issued' (some e)
  | attempt {around : Option Value} {body : Program} {issued issued' : Nat}
      {ids : List (Option Value)} {failure : Option Error} :
      Records supply around body issued ids issued' failure →
      Records supply around (.attempt body) issued ids issued' none

/-- Ids once issued stay issued. -/
theorem Records.issued_le {supply : Nat → String} {around : Option Value} {p : Program}
    {issued issued' : Nat} {ids : List (Option Value)} {failure : Option Error}
    (records : Records supply around p issued ids issued' failure) : issued ≤ issued' := by
  induction records with
  | done | fail | raw | silent | reusing => exact le_rfl
  | generating => exact Nat.le_succ _
  | named _ ih | within _ ih | cut _ ih | attempt _ ih => exact ih
  | alone _ ih => omega
  | sequence _ _ first second => exact first.trans second

/-- From one desk to another a program recorded what its text tells, and all is bound as before. -/
structure Traced (p : Program) (failure : Option Error) (d c : Desk) : Prop where
  bound : c.context.correlation.bound = d.context.correlation.bound
  supply : c.context.supply = d.context.supply
  queries : ∃ sent, c.context.queries = d.context.queries ++ sent ∧
    Records d.context.supply d.context.correlation.bound p d.context.correlation.issued
      (sent.map (·.id)) c.context.correlation.issued failure

theorem stateAfter_operate (i : Nat) (operation : Operation) (d : Desk) :
    stateAfter (Desk.operate i operation) d = d.store i ((d.builder i).next operation) := by
  unfold stateAfter Desk.operate Builder.next stateAfter
  cases Builder.run operation (d.builder i) <;> rfl

theorem failureOf_operate (i : Nat) (operation : Operation) (d : Desk) :
    failureOf (Desk.operate i operation) d = failureOf (Builder.run operation) (d.builder i) := by
  unfold failureOf Desk.operate
  cases Builder.run operation (d.builder i) <;> rfl

theorem stateAfter_withinScope (id : Option Value) (action : EStateM Error Desk Unit) (d : Desk) :
    stateAfter (Desk.withinScope id action) d =
      (stateAfter action (d.entered id)).leave (d.opening id).token := by
  unfold stateAfter Desk.withinScope
  cases action (d.entered id) <;> rfl

theorem failureOf_withinScope (id : Option Value) (action : EStateM Error Desk Unit) (d : Desk) :
    failureOf (Desk.withinScope id action) d = failureOf action (d.entered id) := by
  unfold failureOf Desk.withinScope
  cases action (d.entered id) <;> rfl

/-- An operation that sent nothing and took no id. -/
theorem traced_of_silent {i : Nat} {operation : Operation} {failure : Option Error} {d c : Desk}
    (silent : Builder.Silent (d.builder i).session c.context)
    (cause : operation.opensScope = true → failure.isSome = true) :
    Traced (.operate i operation) failure d c := by
  have bound := congrArg Correlation.bound silent.correlation
  have issued : c.context.correlation.issued = d.context.correlation.issued :=
    congrArg Correlation.issued silent.correlation
  refine ⟨bound, silent.supply, [], silent.queries.trans (List.append_nil _).symm, ?_⟩
  rw [issued]
  exact .silent cause

/-- A call that opens its scope takes an id from the supply when none is bound. -/
theorem traced_of_starts {i : Nat} {operation : Operation} {failure : Option Error} {d : Desk}
    (opens : operation.opensScope = true) (starts : (d.builder i).Starts operation) :
    Traced (.operate i operation) failure d (d.store i ((d.builder i).next operation)) := by
  obtain ⟨sent, queries, carried, correlation, supply⟩ := Builder.call_of_starts starts
  have bound := congrArg Correlation.bound correlation
  have issued : (d.store i ((d.builder i).next operation)).context.correlation.issued =
      d.context.correlation.issued + if d.context.correlation.bound = none then 1 else 0 :=
    congrArg Correlation.issued correlation
  have each : ∀ id ∈ sent.map (·.id), id = some (d.builder i).session.inner := by
    intro id member
    obtain ⟨q, there, rfl⟩ := List.mem_map.mp member
    exact carried q there
  refine ⟨bound, supply, sent, queries, ?_⟩
  rw [issued]
  cases around : d.context.correlation.bound with
  | none =>
    have unbound : (d.builder i).session.correlation.bound = none := around
    have fresh : (d.builder i).session.inner =
        .str (d.context.supply d.context.correlation.issued) := by
      rw [Session.inner, unbound]
      rfl
    rw [fresh] at each
    rw [if_pos rfl]
    exact .generating opens each
  | some id =>
    have same : (d.builder i).session.correlation.bound = some id := around
    rw [Session.inner_of_bound same] at each
    rw [if_neg (Option.some_ne_none id), Nat.add_zero]
    exact .reusing opens each

/-- A text that is sent as it stands carries the id around it, if it is sent. -/
theorem traced_raw {i : Nat} {sql values : Value} {failure : Option Error} {d : Desk} :
    Traced (.operate i (.raw sql values)) failure d
      (d.store i ((d.builder i).next (.raw sql values))) := by
  have sent := Builder.next_raw (d.builder i) sql values
  rw [Session.stateAfter_send] at sent
  by_cases routine : (d.builder i).session.connection.routine = .callable
  · rw [if_pos routine] at sent
    have context : (d.store i ((d.builder i).next (.raw sql values))).context =
        (d.builder i).session.sent sql values := sent
    refine ⟨by rw [context]; rfl, by rw [context]; rfl, [_], by rw [context]; rfl, ?_⟩
    rw [context]
    refine .raw fun id member => ?_
    rw [List.mem_singleton.mp member]
    rfl
  · rw [if_neg routine] at sent
    refine traced_of_silent ?_ nofun
    rw [← sent]
    exact ⟨rfl, rfl, rfl⟩

theorem traced_operate (i : Nat) (operation : Operation) (d : Desk) :
    Traced (.operate i operation) (failureOf (Desk.operate i operation) d) d
      (stateAfter (Desk.operate i operation) d) := by
  rw [stateAfter_operate, failureOf_operate]
  by_cases opens : operation.opensScope = true
  · by_cases starts : (d.builder i).Starts operation
    · exact traced_of_starts opens starts
    · obtain ⟨e, failed⟩ := Builder.run_of_not_starts opens starts
      rw [Builder.next, stateAfter, failureOf, failed]
      exact traced_of_silent ⟨rfl, rfl, rfl⟩ fun _ => rfl
  · by_cases raw : ∃ sql values, operation = .raw sql values
    · obtain ⟨sql, values, rfl⟩ := raw
      exact traced_raw
    · have silent := Builder.silent_next (d.builder i) (eq_false_of_ne_true opens)
        fun sql values same => raw ⟨sql, values, same⟩
      exact traced_of_silent silent fun always => absurd always opens

theorem opening_some {given : Value} (named : given.truthy = true) (d : Desk) :
    d.opening (some given) = ⟨given, ⟨some given, d.context.correlation.issued⟩,
      some d.context.correlation.bound⟩ := by
  simp only [Desk.opening, Correlation.enter, Option.getD_some, named, ↓reduceIte]

theorem opening_none_of_bound {d : Desk} {current : Value}
    (around : d.context.correlation.bound = some current) :
    d.opening none = ⟨current, d.context.correlation, none⟩ := by
  simp only [Desk.opening, Correlation.enter, around]

theorem opening_none_of_unbound {d : Desk} (around : d.context.correlation.bound = none) :
    d.opening none =
      ⟨.str (d.context.supply d.context.correlation.issued),
        ⟨some (.str (d.context.supply d.context.correlation.issued)),
          d.context.correlation.issued + 1⟩, some none⟩ := by
  simp only [Desk.opening, Correlation.enter, around]
  rfl

/-- A scope of its own puts back what was bound; one that goes on with the id around it puts nothing
back, and relies on its body to give the binding back. -/
theorem bound_leave {id : Option Value} {d c : Desk}
    (named : ∀ given, id = some given → given.truthy = true)
    (inside : c.context.correlation.bound = (d.entered id).context.correlation.bound) :
    (c.leave (d.opening id).token).context.correlation.bound = d.context.correlation.bound := by
  cases id with
  | some given =>
    rw [opening_some (named given rfl)]
    rfl
  | none =>
    cases around : d.context.correlation.bound with
    | none =>
      rw [opening_none_of_unbound around]
      rfl
    | some current =>
      -- Leaving does nothing here: the id is bound because the body has left it so.
      rw [Desk.entered, opening_none_of_bound around] at inside
      rw [opening_none_of_bound around]
      exact inside.trans around

theorem issued_leave (token : Option (Option Value)) (d : Desk) :
    (d.leave token).context.correlation.issued = d.context.correlation.issued :=
  d.context.issued_leave token

theorem traced_scope {id : Option Value} {body : Program} {d : Desk}
    (named : ∀ given, id = some given → given.truthy = true)
    (inside : Traced body (failureOf body.run (d.entered id)) (d.entered id)
      (stateAfter body.run (d.entered id))) :
    Traced (.scope id body) (failureOf (Program.scope id body).run d) d
      (stateAfter (Program.scope id body).run d) := by
  rw [run, stateAfter_withinScope, failureOf_withinScope]
  obtain ⟨sent, queries, records⟩ := inside.queries
  refine ⟨bound_leave named inside.bound, inside.supply, sent, queries, ?_⟩
  rw [issued_leave]
  have entered : (d.entered id).context.correlation = (d.opening id).inner := rfl
  have supply : (d.entered id).context.supply = d.context.supply := rfl
  rw [supply, entered] at records
  cases id with
  | some given =>
    rw [opening_some (named given rfl)] at records
    exact .named records
  | none =>
    cases around : d.context.correlation.bound with
    | some current =>
      rw [opening_none_of_bound around, around] at records
      exact .within records
    | none =>
      rw [opening_none_of_unbound around] at records
      exact .alone records

/-- Scopes and calls nest: whatever a program does and however it ends, its queries carry the ids
that its text tells, and all is bound as before. -/
theorem traced_run (p : Program) (d : Desk) (named : p.Named) :
    Traced p (failureOf p.run d) d (stateAfter p.run d) := by
  -- Induction on the program; the desk changes from part to part.
  induction p generalizing d with
  | done => exact ⟨rfl, rfl, [], (List.append_nil _).symm, .done⟩
  | fail e => exact ⟨rfl, rfl, [], (List.append_nil _).symm, .fail⟩
  | operate place operation => exact traced_operate place operation d
  | scope id body ih => exact traced_scope named.1 (ih (d.entered id) named.2)
  | attempt body ih =>
    obtain ⟨bound, supply, sent, queries, records⟩ := ih d named
    exact ⟨bound, supply, sent, queries, .attempt records⟩
  | sequence first second ih_first ih_second =>
    obtain ⟨bound, supply, sent, queries, records⟩ := ih_first d named.1
    cases ran : first.run d with
    | error e c =>
      have whole : (sequence first second).run d = .error e c := bind_apply_of_error ran
      rw [failureOf, ran] at records
      rw [stateAfter, ran] at bound supply queries records
      rw [failureOf, stateAfter, whole]
      exact ⟨bound, supply, sent, queries, .cut records⟩
    | ok _ c =>
      have whole : (sequence first second).run d = second.run c := bind_apply_of_ok ran
      rw [failureOf, ran] at records
      rw [stateAfter, ran] at bound supply queries records
      obtain ⟨bound', supply', more, queries', records'⟩ := ih_second c named.2
      rw [bound, supply] at records'
      rw [failureOf, stateAfter, whole]
      refine ⟨bound'.trans bound, supply'.trans supply, sent ++ more, ?_, ?_⟩
      · rw [← List.append_assoc, ← queries]
        exact queries'
      · rw [List.map_append]
        exact .sequence records records'

/-- The queries that an operation of a builder sends. -/
def sentBy (i : Nat) (operation : Operation) (d : Desk) : List Query :=
  (stateAfter (Desk.operate i operation) d).context.queries.drop d.context.queries.length

/-- What a call does with ids: its queries share the id that is bound, or else the next of the
supply, which it takes exactly when it opens a scope where none is bound. A call that does not get
as far as that fails, and nothing has happened. -/
structure OneId (i : Nat) (operation : Operation) (d : Desk) : Prop where
  shared : ∀ q ∈ sentBy i operation d, q.id = some
    (d.context.correlation.bound.getD (.str (d.context.supply d.context.correlation.issued)))
  generated : (stateAfter (Desk.operate i operation) d).context.correlation.issued =
    d.context.correlation.issued + 1 ↔
      (d.builder i).Starts operation ∧ d.context.correlation.bound = none
  refused : ¬ (d.builder i).Starts operation →
    (failureOf (Desk.operate i operation) d).isSome = true ∧
      (stateAfter (Desk.operate i operation) d).context = (d.builder i).session

theorem oneId_operate (i : Nat) {operation : Operation} (opens : operation.opensScope = true)
    (d : Desk) : OneId i operation d := by
  have refused : ¬ (d.builder i).Starts operation →
      ∃ e, Builder.run operation (d.builder i) = .error e (d.builder i) :=
    Builder.run_of_not_starts opens
  have after := congrArg Desk.context (stateAfter_operate i operation d)
  refine ⟨?_, ?_, fun held => ?_⟩
  · by_cases starts : (d.builder i).Starts operation
    · obtain ⟨sent, queries, carried, _, _⟩ := Builder.call_of_starts starts
      have all : sentBy i operation d = sent := by
        rw [sentBy, after]
        exact (congrArg (List.drop _) queries).trans List.drop_left
      rw [all]
      exact carried
    · obtain ⟨e, failed⟩ := refused starts
      have none_sent : sentBy i operation d = [] := by
        rw [sentBy, after, Builder.next, stateAfter, failed]
        exact List.drop_length
      rw [none_sent]
      exact fun q member => absurd member List.not_mem_nil
  · rw [after]
    exact Builder.issued_of_call opens
  · obtain ⟨e, failed⟩ := refused held
    rw [failureOf_operate, failureOf, failed, after, Builder.next, stateAfter, failed]
    exact ⟨rfl, rfl⟩

/-- Two calls where nothing is bound do not share an id, whatever runs between them. -/
theorem ne_of_calls {p : Program} {d : Desk} (named : p.Named)
    (unbound : d.context.correlation.bound = none) (distinct : Function.Injective d.context.supply)
    {i j : Nat} {first second : Operation} (opens : first.opensScope = true)
    (opens' : second.opensScope = true) {q q' : Query} (sent : q ∈ sentBy i first d)
    (sent' : q' ∈ sentBy j second (stateAfter p.run (stateAfter (Desk.operate i first) d))) :
    q.id ≠ q'.id := by
  have call := traced_operate i first d
  have between := traced_run p (stateAfter (Desk.operate i first) d) named
  have early := (oneId_operate i opens d).shared q sent
  have late := (oneId_operate j opens' _).shared q' sent'
  rw [between.bound, call.bound, unbound, between.supply, call.supply] at late
  rw [unbound] at early
  -- The first call takes an id from the supply, so the second takes a later one.
  have starts : (d.builder i).Starts first := by
    by_contra held
    have kept := ((oneId_operate i opens d).refused held).2
    rw [sentBy, kept] at sent
    have nothing : d.context.queries.drop d.context.queries.length = [] := List.drop_length
    exact absurd (nothing ▸ sent) List.not_mem_nil
  have taken := (oneId_operate i opens d).generated.mpr ⟨starts, unbound⟩
  obtain ⟨_, _, records⟩ := between.queries
  have later := records.issued_le
  rw [early, late]
  intro same
  have index := distinct (Text.plain.inj (Value.text.inj (Option.some.inj same)))
  omega

/-- The id in force is a stack: whatever a program does and however it ends, all is bound as before,
and its queries carry the ids of the innermost scopes and calls around them. A call that has a text
to send shares one id, which is fresh exactly when none is bound, and calls where none is bound do
not share theirs. -/
theorem binding_of_run (p : Program) (d : Desk) (named : p.Named) :
    Traced p (failureOf p.run d) d (stateAfter p.run d) ∧
      (∀ i operation, operation.opensScope = true → OneId i operation d) ∧
      (d.context.correlation.bound = none → Function.Injective d.context.supply →
        ∀ i j first second, first.opensScope = true → second.opensScope = true →
          ∀ q ∈ sentBy i first d,
            ∀ q' ∈ sentBy j second (stateAfter p.run (stateAfter (Desk.operate i first) d)),
              q.id ≠ q'.id) :=
  ⟨traced_run p d named, fun i _ opens => oneId_operate i opens d,
    fun unbound distinct _ _ _ _ opens opens' _ sent _ sent' =>
      ne_of_calls named unbound distinct opens opens' sent sent'⟩

/-- Queries of users, by any number of builders. -/
def usersDesk : Desk where
  posts _ :=
    ⟨.select { Select.empty with table := some "users" }, Session.sample.connection, .standard⟩
  context := .sample

/-- A call and a raw text in a scope that fails, between a call and a raw text on their own. -/
def nestedProgram : Program :=
  .sequence (.operate 0 .exec) (.sequence
    (.attempt (.scope (some (.str "req")) (.scope none (.sequence (.operate 1 .exec)
      (.sequence (.operate 0 (.raw (.str "SELECT 1") .null)) (.fail .quotientTooLarge))))))
    (.operate 0 (.raw (.str "SELECT 2") .null)))

theorem binding_of_run_nestedProgram :
    Traced nestedProgram none usersDesk (stateAfter nestedProgram.run usersDesk) ∧
      (stateAfter nestedProgram.run usersDesk).context.queries.map (·.id) =
        [some (.str "0"), some (.str "req"), some (.str "req"), none] := by
  have named : nestedProgram.Named := by
    refine ⟨trivial, ⟨?_, nofun, trivial, trivial, trivial⟩, trivial⟩
    rintro given ⟨⟩
    rfl
  exact ⟨(binding_of_run nestedProgram usersDesk named).1, rfl⟩

/-- Queries that name no table yet. -/
def blankDesk : Desk where
  posts _ := ⟨.select Select.empty, Session.sample.connection, .standard⟩
  context := .sample

/-- Nothing is bound, and yet a call takes no id when its statement has no text: it fails before it
opens a scope. -/
theorem issued_blankDesk :
    (failureOf (Desk.operate 0 .exec) blankDesk).isSome = true ∧
      ¬ ((stateAfter (Desk.operate 0 .exec) blankDesk).context.correlation.issued =
          blankDesk.context.correlation.issued + 1 ↔
        blankDesk.context.correlation.bound = none) := by
  have kept : (stateAfter (Desk.operate 0 .exec) blankDesk).context.correlation.issued =
      blankDesk.context.correlation.issued := rfl
  refine ⟨rfl, fun exactly => ?_⟩
  have taken := exactly.mpr rfl
  rw [kept] at taken
  exact absurd taken (Nat.lt_succ_self _).ne

end Program

end SqlBuilder
