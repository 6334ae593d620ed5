import Mathlib.Data.List.DropRight
import SqlBuilder.Proofs.Call.Groups
import SqlBuilder.Proofs.Call.Interruption

set_option autoImplicit false

namespace SqlBuilder

namespace ConditionCall

/-- The call is a comparison, which takes up a pending negation when it succeeds. -/
def compares : ConditionCall → Bool
  | .compare .. | .like _ | .between .. | .oneOf _ | .isNull | .inPart .. | .inSubquery _
  | .existsIn _ | .quantified .. => true
  | _ => false

/-- The call is a comparison that names the selected column. -/
def namesColumn : ConditionCall → Bool
  | .existsIn _ => false
  | call => call.compares

def negates : ConditionCall → Bool
  | .negate => true
  | _ => false

/-- The call makes no other call. -/
def Single : ConditionCall → Prop
  | .apply (.callback ..) | .attempt _ => False
  | _ => True

theorem Single.isStep {call : ConditionCall} (single : call.Single) : call.IsStep := by
  cases call with
  | apply predicate => cases predicate <;> exact single
  | _ => trivial

/-- The column that a selection is for. -/
def selected? : ConditionCall → Option String
  | .col name => name.fullString?
  | _ => none

end ConditionCall

/-- A subquery as it is embedded, built by its own calls alone. -/
def Subquery.embedded (driver : Driver) : Subquery → Sql
  | .callback calls => (SelectCall.runAll driver calls .empty).state.render.toOption.getD []
  | .other _ => []

/-- The fragment of a comparison on a column, without a negation. -/
def ConditionCall.plain (driver : Driver) (column : String) : ConditionCall → Sql
  | .compare s v => [.literal (column ++ " " ++ s.sign ++ " "), Condition.operand v]
  | .like v => [.literal (column ++ " " ++ "LIKE" ++ " "), Condition.operand v]
  | .between low high =>
    [.literal (column ++ " BETWEEN "), Condition.operand low, .literal " AND ",
      Condition.operand high]
  | .oneOf operands =>
    .literal (column ++ " IN (") ::
      Sql.joinWith ", " (operands.map fun v => [Condition.operand v]) ++ [.literal ")"]
  | .isNull => [.literal (column ++ " IS NULL")]
  | .inPart part v =>
    match driver.kind with
    | .ok kind => [.extract kind part column, .literal " = ", Condition.operand v]
    | .error _ => []
  | .inSubquery query => Sql.enclosed (column ++ " IN (") (query.embedded driver)
  | .existsIn query => Sql.enclosed "EXISTS (" (query.embedded driver)
  | .quantified quantifier operator query =>
    Sql.enclosed (column ++ " " ++ operator.display ++ " " ++ quantifier.keyword ++ " (")
      (query.embedded driver)
  | _ => []

/-- What a token writes for a comparison. -/
def Token.fragment? : Token → Option Sql
  | .comparison negated sql => some (Token.comparison negated sql).sql
  | _ => none

/-- The fragments that comparisons have pushed, in order. -/
def Condition.fragments (c : Condition) : List Sql := c.tokens.filterMap Token.fragment?

/-- What a step does to a condition when it succeeds. -/
inductive ConditionCall.Effect (driver : Driver) : ConditionCall → Condition → Condition → Prop
  | compared (call : ConditionCall) (c : Condition) (column : String)
      (compares : call.compares = true) (named : call.namesColumn = true → c.column = some column) :
      Effect driver call c (c.compare (call.plain driver column))
  | negated (c : Condition) : Effect driver .negate c { c with negating := true }
  | selected {name : Value} {column : String} (c : Condition)
      (full : name.fullString? = some column) :
      Effect driver (.col name) c { c with column := some column }
  | pushed {call : ConditionCall} {t : Token} (c : Condition) (compares : call.compares = false)
      (negates : call.negates = false) (selects : call.selected? = none)
      (other : t.fragment? = none) : Effect driver call c (c.push t)
  | kept {call : ConditionCall} (c : Condition) (compares : call.compares = false)
      (negates : call.negates = false) (selects : call.selected? = none) : Effect driver call c c

section

variable {o : Owner} {c : Condition} {call : ConditionCall}

theorem Outcome.succeeded_of_failed {σ : Type} {o : Outcome σ} {e : Error}
    (failed : o.failure = some e) : o.succeeded = false := by
  rw [succeeded, failed]
  rfl

theorem Outcome.succeeded_of_unfailed {σ : Type} {o : Outcome σ} (unfailed : o.failure = none) :
    o.succeeded = true := by
  rw [succeeded, unfailed]
  rfl

theorem Outcome.ofExcept_unfailed {σ : Type} {s : σ} {x : Except Error σ}
    (succeeded : (ofExcept s x).failure = none) : x = .ok (ofExcept s x).state := by
  cases x with
  | ok t => rfl
  | error e => cases succeeded

/-- A subquery that succeeds is embedded as its own calls have built it. -/
theorem Subquery.compareIn_effect {query : Subquery} {wrap : Sql → Sql}
    (succeeded : (query.compareIn o c wrap).failure = none) :
    (query.compareIn o c wrap).state = c.compare (wrap (query.embedded o.driver)) := by
  cases query with
  | other v => cases succeeded
  | callback calls =>
    rw [compareIn] at succeeded ⊢
    split at succeeded
    · cases succeeded
    · rcases Condition.embed_eq c wrap (SelectCall.runAll o.driver calls .empty) with
        ⟨sql, _, rendered, ran⟩ | ⟨e, ran⟩
      · rw [ran, embedded, rendered]
        rfl
      · rw [ran] at succeeded
        cases succeeded

theorem ConditionCall.run_effect (single : call.Single)
    (succeeded : (call.run o c).failure = none) : call.Effect o.driver c (call.run o c).state := by
  cases call with
  | apply predicate =>
    cases predicate with
    | callback parameters calls => exact single.elim
    | other v => cases succeeded
  | attempt call => exact single.elim
  | col name =>
    obtain ⟨column, full, same⟩ := Condition.select_eq_ok.mp (Outcome.ofExcept_unfailed succeeded)
    rw [run, ← same]
    exact .selected c full
  | raw fragment values =>
    obtain ⟨text, _, _, same⟩ := Condition.addRaw_eq_ok.mp (Outcome.ofExcept_unfailed succeeded)
    rw [run, ← same]
    exact .pushed c rfl rfl rfl rfl
  | negate => exact .negated c
  | openGroup => exact .pushed c rfl rfl rfl rfl
  | closeGroup => exact .pushed c rfl rfl rfl rfl
  | toggleGroup =>
    simp only [run, Outcome.done, Condition.toggleGroup]
    split
    · exact .pushed c rfl rfl rfl rfl
    · exact .pushed c rfl rfl rfl rfl
  | connect w => exact .pushed c rfl rfl rfl rfl
  | compare s v =>
    obtain ⟨column, named, _, same⟩ :=
      Condition.compareWith_eq_ok.mp (Outcome.ofExcept_unfailed succeeded)
    rw [run, ← same]
    exact .compared (.compare s v) c column rfl fun _ => named
  | like v =>
    obtain ⟨column, named, _, same⟩ :=
      Condition.compareWith_eq_ok.mp (Outcome.ofExcept_unfailed succeeded)
    rw [run, ← same]
    exact .compared (.like v) c column rfl fun _ => named
  | between low high =>
    obtain ⟨column, named, _, _, same⟩ :=
      Condition.between_eq_ok.mp (Outcome.ofExcept_unfailed succeeded)
    rw [run, ← same]
    exact .compared (.between low high) c column rfl fun _ => named
  | oneOf values =>
    obtain ⟨column, named, _, _, same⟩ :=
      Condition.oneOf_eq_ok.mp (Outcome.ofExcept_unfailed succeeded)
    rw [run, ← same]
    exact .compared (.oneOf values) c column rfl fun _ => named
  | isNull =>
    obtain ⟨column, named, same⟩ :=
      Condition.isNull_eq_ok.mp (Outcome.ofExcept_unfailed succeeded)
    rw [run, ← same]
    exact .compared .isNull c column rfl fun _ => named
  | inPart part v =>
    rw [run] at succeeded ⊢
    rcases Condition.runPart_eq c o part v with ⟨column, kind, named, _, resolved, ran⟩ | ⟨e, ran⟩
    · rw [ran]
      have effect : (ConditionCall.inPart part v).Effect o.driver c _ :=
        .compared _ c column rfl fun _ => named
      rw [plain, resolved] at effect
      exact effect
    · rw [ran] at succeeded
      cases succeeded
  | inSubquery query =>
    rw [run] at succeeded ⊢
    split at succeeded
    · cases succeeded
    · next column named =>
      rw [query.compareIn_effect succeeded]
      exact .compared (.inSubquery query) c column rfl fun _ => named
  | existsIn query =>
    rw [run] at succeeded ⊢
    rw [query.compareIn_effect succeeded]
    exact .compared (.existsIn query) c "" rfl fun names => absurd names Bool.false_ne_true
  | quantified quantifier operator query =>
    rw [run] at succeeded ⊢
    split at succeeded
    · cases succeeded
    · next column named =>
      split at succeeded
      · next sign =>
        rw [query.compareIn_effect succeeded]
        exact .compared (.quantified quantifier (.text (.operator sign)) query) c column rfl
          fun _ => named
      · cases succeeded
  | check =>
    obtain ⟨_, _, same⟩ := Except.map_eq_ok.mp (Outcome.ofExcept_unfailed succeeded)
    rw [run, ← same]
    exact .kept c rfl rfl rfl
  | values => cases succeeded
  | unknown name => cases succeeded
  | abort selecting reason => cases succeeded

end

/-- A step that was taken on a condition, and whether it succeeded. -/
structure Taken where
  call : ConditionCall
  succeeded : Bool

def Taken.compared (t : Taken) : Bool := t.succeeded && t.call.compares

def Taken.negates (t : Taken) : Bool := t.succeeded && t.call.negates

def Taken.selected? (t : Taken) : Option String := if t.succeeded then t.call.selected? else none

/-- The steps on a condition, in the order in which they were taken. -/
abbrev History := List Taken

namespace History

/-- A negation was asked for after the last comparison that succeeded. -/
def negated (h : History) : Bool :=
  (h.rtakeWhile fun t => !t.compared).any Taken.negates

/-- The column of the last selection that succeeded. -/
def column (h : History) : Option String := (h.filterMap Taken.selected?).getLast?

variable {h : History} {t : Taken}

theorem negated_concat :
    negated (h ++ [t]) = (!t.compared && (h.negated || t.negates)) := by
  rw [negated, List.rtakeWhile_concat]
  cases t.compared <;> simp [negated]

theorem column_concat : column (h ++ [t]) = t.selected?.or h.column := by
  rw [column, List.filterMap_append]
  cases found : t.selected? with
  | none => simp [found, column]
  | some column => simp [found]

end History

/-- The condition is what its history says. Its comparisons have pushed one fragment each, in order:
the plain one on the column selected before it, behind a negation that was pending before it. -/
structure Condition.Follows (driver : Driver) (h : History) (c : Condition) : Prop where
  negating : c.negating = h.negated
  column : c.column = h.column
  number : c.fragments.length = h.countP Taken.compared
  each : ∀ past t later, h = past ++ t :: later → t.compared = true →
    ∃ column, (t.call.namesColumn = true → History.column past = some column) ∧
      c.fragments[past.countP Taken.compared]? =
        some (if History.negated past then .literal "NOT " :: t.call.plain driver column
          else t.call.plain driver column)

namespace Condition

variable {driver : Driver} {h : History} {c d : Condition} {t : Taken}

theorem follows_blank : blank.Follows driver [] where
  negating := rfl
  column := rfl
  number := rfl
  each past t later shape := by cases past <;> cases shape

theorem fragments_push (token : Token) :
    (c.push token).fragments = c.fragments ++ token.fragment?.toList := by
  rw [fragments, push, List.filterMap_append, fragments]
  cases found : token.fragment? <;> simp [found]

theorem fragments_compare (sql : Sql) :
    (c.compare sql).fragments =
      c.fragments ++ [if c.negating then .literal "NOT " :: sql else sql] :=
  fragments_push (.comparison c.negating sql)

/-- A step that pushes no comparison. -/
theorem Follows.other (follows : c.Follows driver h) (compared : t.compared = false)
    (fragments : d.fragments = c.fragments) (negating : d.negating = (c.negating || t.negates))
    (column : d.column = t.selected?.or c.column) : d.Follows driver (h ++ [t]) where
  negating := by rw [negating, History.negated_concat, compared, follows.negating]; rfl
  column := by rw [column, History.column_concat, follows.column]
  number := by
    rw [fragments, follows.number, List.countP_append, List.countP_singleton, compared]
    rfl
  each past u later shape comparison := by
    -- Either the history is split at the step itself, or somewhere in front of it.
    rcases List.eq_nil_or_concat later with rfl | ⟨between, last, rfl⟩
    · obtain ⟨_, same⟩ := List.append_inj' shape rfl
      cases same
      rw [compared] at comparison
      cases comparison
    · rw [List.concat_eq_append, ← List.cons_append, ← List.append_assoc] at shape
      obtain ⟨earlier, _⟩ := List.append_inj' shape rfl
      rw [fragments]
      exact follows.each past u between earlier comparison

/-- A comparison that succeeds pushes its fragment at the end, and uses up the negation. -/
theorem Follows.comparison (follows : c.Follows driver h) (compared : t.compared = true)
    {column : String} (named : t.call.namesColumn = true → c.column = some column)
    (selects : t.call.selected? = none) :
    (c.compare (t.call.plain driver column)).Follows driver (h ++ [t]) where
  negating := by rw [History.negated_concat, compared]; rfl
  column := by
    have none : t.selected? = none := by rw [Taken.selected?, selects, ite_self]
    rw [History.column_concat, none, Option.none_or, ← follows.column]
    rfl
  number := by
    rw [fragments_compare, List.length_append, follows.number, List.countP_append,
      List.countP_singleton, compared]
    rfl
  each past u later shape comparison := by
    rw [fragments_compare]
    rcases List.eq_nil_or_concat later with rfl | ⟨between, last, rfl⟩
    · obtain ⟨rfl, same⟩ := List.append_inj' shape rfl
      cases same
      refine ⟨column, fun names => follows.column.symm.trans (named names), ?_⟩
      rw [← follows.number, List.getElem?_concat_length, follows.negating]
    · rw [List.concat_eq_append, ← List.cons_append, ← List.append_assoc] at shape
      obtain ⟨earlier, _⟩ := List.append_inj' shape rfl
      obtain ⟨other, names, pushed⟩ := follows.each past u between earlier comparison
      refine ⟨other, names, ?_⟩
      rw [List.getElem?_append_left (List.getElem?_eq_some_iff.mp pushed).1, pushed]

end Condition

namespace ConditionCall

variable {o : Owner} {call : ConditionCall} {h : History} {c : Condition}

theorem selected?_of_compares (compares : call.compares = true) : call.selected? = none := by
  cases call <;> first | rfl | cases compares

/-- A call on its own takes its condition along the history. -/
theorem single_follows (single : call.Single) (follows : c.Follows o.driver h) :
    (call.run o c).state.Follows o.driver (h ++ [⟨call, (call.run o c).succeeded⟩]) := by
  cases failed : (call.run o c).failure with
  | some e =>
    rw [run_refused single.isStep failed, Outcome.succeeded_of_failed failed]
    exact follows.other rfl rfl (Bool.or_false _).symm rfl
  | none =>
    have effect := run_effect single failed
    rw [Outcome.succeeded_of_unfailed failed]
    generalize (call.run o c).state = d at effect
    cases effect with
    | compared _ _ column compares named =>
      exact follows.comparison (t := ⟨call, true⟩) compares named (selected?_of_compares compares)
    | negated => exact follows.other rfl rfl (Bool.or_true _).symm rfl
    | selected _ full =>
      refine follows.other rfl rfl (Bool.or_false _).symm ?_
      rw [Taken.selected?, selected?, full]
      rfl
    | pushed _ compares negates selects other =>
      refine follows.other compares ?_ ?_ ?_
      · rw [Condition.fragments_push, other]
        exact List.append_nil _
      · rw [Taken.negates, negates]
        exact (Bool.or_false _).symm
      · rw [Taken.selected?, selects]
        rfl
    | kept _ compares negates selects =>
      refine follows.other compares rfl ?_ ?_
      · rw [Taken.negates, negates]
        exact (Bool.or_false _).symm
      · rw [Taken.selected?, selects]
        rfl

end ConditionCall

mutual

/-- What a call takes on, one by one: the steps of the callback that it runs, those of the call that
it attempts, or else itself. -/
def ConditionCall.taken (o : Owner) : ConditionCall → Condition → History
  | .apply predicate, c => predicate.taken o c
  | .attempt call, c => call.taken o c
  | call, c => [⟨call, (call.run o c).succeeded⟩]

/-- The calls of a callback as they are taken, up to the first that fails. -/
def ConditionCall.allTaken (o : Owner) : Bool → List ConditionCall → Condition → History
  | _, [], _ => []
  | held, call :: rest, c =>
    if held || call.standsAlone then
      call.taken o c ++
        if (call.run o c).succeeded then ConditionCall.allTaken o true rest (call.run o c).state
        else []
    else []

def Predicate.taken (o : Owner) : Predicate → Condition → History
  | .callback parameters calls, c => ConditionCall.allTaken o (acceptsCondition parameters) calls c
  | .other v, _ => [⟨.apply (.other v), false⟩]

end

section

open ConditionCall (single_follows)

mutual

/-- Every call takes its condition along the history. -/
theorem ConditionCall.run_follows (o : Owner) :
    ∀ (call : ConditionCall) {h : History} {c : Condition}, c.Follows o.driver h →
      (call.run o c).state.Follows o.driver (h ++ call.taken o c)
  | .apply predicate, h, c, follows => predicate.apply_follows o follows
  | .attempt call, h, c, follows => call.run_follows o follows
  | .col .., h, c, follows | .raw .., h, c, follows | .negate, h, c, follows
  | .openGroup, h, c, follows | .closeGroup, h, c, follows | .toggleGroup, h, c, follows
  | .connect _, h, c, follows | .compare .., h, c, follows | .like _, h, c, follows
  | .between .., h, c, follows | .oneOf _, h, c, follows | .isNull, h, c, follows
  | .inPart .., h, c, follows | .inSubquery _, h, c, follows | .existsIn _, h, c, follows
  | .quantified .., h, c, follows | .check, h, c, follows | .values, h, c, follows
  | .unknown _, h, c, follows | .abort .., h, c, follows => by
    rw [ConditionCall.taken]
    · exact single_follows trivial follows
    all_goals nofun

theorem ConditionCall.runAll_follows (o : Owner) :
    ∀ (held : Bool) (calls : List ConditionCall) {h : History} {c : Condition},
      c.Follows o.driver h →
      (ConditionCall.runAll o held calls c).state.Follows o.driver
        (h ++ ConditionCall.allTaken o held calls c)
  | held, [], h, c, follows => by
    rw [ConditionCall.runAll, ConditionCall.allTaken, List.append_nil]
    exact follows
  | held, call :: rest, h, c, follows => by
    have next := call.run_follows o follows
    rw [ConditionCall.runAll, ConditionCall.allTaken]
    split
    · cases failed : (call.run o c).failure with
      | some e =>
        have refused := Outcome.succeeded_of_failed failed
        rw [Outcome.andThen_of_failure _ _ e failed, if_neg (Bool.eq_false_iff.mp refused),
          List.append_nil]
        exact next
      | none =>
        rw [(Outcome.andThen_of_success _ _ failed).1,
          if_pos (Outcome.succeeded_of_unfailed failed), ← List.append_assoc]
        exact ConditionCall.runAll_follows o true rest next
    · rw [List.append_nil]
      exact follows

theorem Predicate.apply_follows (o : Owner) :
    ∀ (predicate : Predicate) {h : History} {c : Condition}, c.Follows o.driver h →
      (predicate.apply o c).state.Follows o.driver (h ++ predicate.taken o c)
  | .callback parameters calls, h, c, follows => by
    rw [Predicate.apply, Predicate.taken]
    exact ConditionCall.runAll_follows o _ calls follows
  | .other v, h, c, follows =>
    single_follows (show ConditionCall.Single (.apply (.other v)) from trivial) follows

end

end

/-- A clause with the history of its condition. -/
structure Track where
  condition : Option Condition
  history : History

namespace Track

variable {driver : Driver} {kind : StatementKind}

def untouched : Track := ⟨none, []⟩

/-- The clause after a call on it. If the call leaves no condition, nothing that it did counts. -/
def take (driver : Driver) (kind : StatementKind) (track : Track) (call : FilterCall) : Track :=
  match (call.run driver kind track.condition).state with
  | none => untouched
  | some c =>
    ⟨some c, track.history ++
      call.onCondition.taken ⟨driver, none⟩ (track.condition.getD .blank)⟩

/-- The clause after calls on it, one after the other, whether they succeed or fail. -/
def after (driver : Driver) (kind : StatementKind) (calls : List FilterCall) : Track :=
  calls.foldl (take driver kind) untouched

theorem condition_take (track : Track) (call : FilterCall) :
    (track.take driver kind call).condition = (call.run driver kind track.condition).state := by
  rw [take]
  cases (call.run driver kind track.condition).state <;> rfl

theorem after_concat (calls : List FilterCall) (call : FilterCall) :
    after driver kind (calls ++ [call]) = (after driver kind calls).take driver kind call := by
  rw [after, List.foldl_concat, after]

/-- A clause without a condition is as good as one with a blank condition that nothing was done
on. -/
def Follows (driver : Driver) (track : Track) : Prop :=
  (track.condition.getD .blank).Follows driver track.history

theorem take_follows {track : Track} (follows : track.Follows driver) (call : FilterCall) :
    (track.take driver kind call).Follows driver := by
  have next := call.onCondition.run_follows ⟨driver, none⟩ follows
  -- What a call leaves is the same step on the condition or, where there is none, on a blank one.
  have ran : ∀ c, (call.run driver kind track.condition).state = some c →
      c = (call.onCondition.run ⟨driver, none⟩ (track.condition.getD .blank)).state := by
    intro c left
    cases held : track.condition with
    | none =>
      rw [held] at left
      rcases FilterCall.run_none call with none | opened
      · rw [none] at left
        cases left
      · rw [opened] at left
        exact (Option.some.inj left).symm
    | some d =>
      rw [held, FilterCall.run_some] at left
      exact (Option.some.inj left).symm
  rw [take]
  cases left : (call.run driver kind track.condition).state with
  | none => exact Condition.follows_blank
  | some c =>
    rw [ran c left]
    exact next

theorem after_follows (driver : Driver) (kind : StatementKind) (calls : List FilterCall) :
    (after driver kind calls).Follows driver := by
  induction calls using List.reverseRecOn with
  | nil => exact Condition.follows_blank
  | append_singleton calls call ih =>
    rw [after_concat]
    exact take_follows ih call

/-- The condition that calls on a clause leave is what its history says. -/
theorem follows_of_after {calls : List FilterCall} {c : Condition}
    (left : (after driver kind calls).condition = some c) :
    c.Follows driver (after driver kind calls).history := by
  have follows := after_follows driver kind calls
  rw [Follows, left] at follows
  exact follows

/-- A negation that is asked for twice in one callback applies to the first comparison of a later
one, on the column that this one has selected. -/
example : ((after ⟨.str "sqlite", .queries⟩ .delete
    [.extend (.callback none [.col (.str "a"), .negate, .negate]), .openGroup,
      .extend (.callback none [.col (.str "b"), .isNull, .isNull])]).condition.map
        Condition.fragments) =
    some [[.literal "NOT ", .literal "b IS NULL"], [.literal "b IS NULL"]] := rfl

end Track

end SqlBuilder
