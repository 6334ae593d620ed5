import SqlBuilder.Builder
import SqlBuilder.Proofs.Outcome

set_option autoImplicit false

namespace SqlBuilder

/-- A call, and the condition or statement that it is made on. -/
inductive Attempt
  | condition (o : Owner) (call : ConditionCall) (c : Condition)
  | statement (driver : Driver) (call : Call) (s : Statement)

def Attempt.succeeded : Attempt → Bool
  | .condition o call c => (call.run o c).succeeded
  | .statement driver call s => (s.apply driver call).succeeded

/-- The attempt gets as far as selecting the dialect of the driver. -/
def Attempt.consults : Attempt → Bool
  | .condition _ (.inPart part v) c => c.column.isSome && Condition.acceptsPart part v
  | .statement _ (.select .parse) (.select s) => s.toSql.isOk
  | .statement _ (.select (.property .dialect)) (.select _) => true
  | _ => false

mutual

/-- What a call on a condition attempts inside of itself. -/
def ConditionCall.within (o : Owner) : ConditionCall → Condition → List Attempt
  | .inSubquery query, c =>
    match c.column with
    | none => []
    | some _ => query.attempts o
  | .existsIn query, _ => query.attempts o
  | .quantified _ operator query, c =>
    match c.column, operator with
    | some _, .text (.operator _) => query.attempts o
    | _, _ => []
  | .apply predicate, c => predicate.attempts o c
  | .attempt call, c => .condition o call c :: call.within o c
  | _, _ => []

/-- What the calls of a callback attempt, one after the other, up to the first that fails. -/
def ConditionCall.attempts (o : Owner) : Bool → List ConditionCall → Condition → List Attempt
  | _, [], _ => []
  | held, call :: rest, c =>
    if held || call.standsAlone then
      (.condition o call c :: call.within o c) ++
        if (call.run o c).succeeded then ConditionCall.attempts o true rest (call.run o c).state
        else []
    else []

def Predicate.attempts (o : Owner) : Predicate → Condition → List Attempt
  | .callback parameters calls, c => ConditionCall.attempts o (acceptsCondition parameters) calls c
  | .other _, _ => []

/-- A subquery is not even begun without a query to build it on. -/
def Subquery.attempts (o : Owner) : Subquery → List Attempt
  | .callback calls =>
    match o.provider with
    | some _ => []
    | none => SelectCall.attempts o.driver calls .empty
  | .other _ => []

def FilterCall.within (driver : Driver) : FilterCall → Option Condition → List Attempt
  | .extend predicate, f => predicate.attempts ⟨driver, none⟩ (f.getD .blank)
  | _, _ => []

def SelectCall.within (driver : Driver) : SelectCall → Select → List Attempt
  | .join _ table on, _ =>
    match table.fullString? with
    | none => []
    | some _ => on.attempts ⟨driver, none⟩ .blank
  | .filter call, s => call.within driver s.filter
  | .having predicate, s => predicate.attempts ⟨driver, none⟩ (s.having.getD .blank)
  | .union _ query, _ => query.attempts ⟨driver, none⟩
  | .attempt call, s => .statement driver (.select call) (.select s) :: call.within driver s
  | _, _ => []

def SelectCall.attempts (driver : Driver) : List SelectCall → Select → List Attempt
  | [], _ => []
  | call :: rest, s =>
    (.statement driver (.select call) (.select s) :: call.within driver s) ++
      if (call.run driver s).succeeded then
        SelectCall.attempts driver rest (call.run driver s).state
      else []

end

/-- What a call on a statement attempts inside of itself. -/
def Call.within (driver : Driver) : Call → Statement → List Attempt
  | .select call, .select s => call.within driver s
  | .update (.filter call), .update s => call.within driver s.filter
  | .delete (.filter call), .delete s => call.within driver s.filter
  | _, _ => []

/-- The call itself, and what it attempts inside. -/
def Call.attempts (driver : Driver) (call : Call) (s : Statement) : List Attempt :=
  .statement driver call s :: call.within driver s

/-- The drivers stand for one kind, and their statements are read alike. -/
structure Driver.Same (driver other : Driver) : Prop where
  kind : other.kind = driver.kind
  parser : other.parser = driver.parser

/-- To these attempts the two drivers are the same, or none is consulted. -/
def Indifferent (driver other : Driver) (attempts : List Attempt) : Prop :=
  ∀ a ∈ attempts, a.consults = true → driver.Same other

section

variable {driver other : Driver}

theorem Indifferent.of_same (same : driver.Same other)
    (attempts : List Attempt) : Indifferent driver other attempts := fun _ _ _ => same

theorem Indifferent.append {front back : List Attempt} :
    Indifferent driver other (front ++ back) ↔
      Indifferent driver other front ∧ Indifferent driver other back :=
  List.forall_mem_append

theorem Indifferent.cons {a : Attempt} {rest : List Attempt} :
    Indifferent driver other (a :: rest) ↔
      (a.consults = true → driver.Same other) ∧
        Indifferent driver other rest :=
  List.forall_mem_cons

/-- Runs that begin alike are alike when they go on alike. -/
theorem Outcome.andThen_congr {σ : Type} {o p : Outcome σ} {next later : σ → Outcome σ}
    (first : o = p) (second : p.succeeded = true → next p.state = later p.state) :
    o.andThen next = p.andThen later := by
  subst first
  unfold andThen
  cases failed : o.failure with
  | some e => rfl
  | none =>
    have reached : next o.state = later o.state :=
      second (by rw [succeeded, failed, Option.isNone_none])
    rw [reached]

theorem Condition.runPart_driver {provider : Option Value} {part : DatePart} {v : Value}
    {c : Condition}
    (same : (Attempt.condition ⟨driver, provider⟩ (.inPart part v) c).consults = true →
      driver.Same other) :
    c.runPart ⟨other, provider⟩ part v = c.runPart ⟨driver, provider⟩ part v := by
  unfold runPart
  cases selected : c.column with
  | none => rfl
  | some column =>
    cases accepted : acceptsPart part v with
    | false => rfl
    | true =>
      have resolved : other.kind = driver.kind :=
        (same (by simp [Attempt.consults, selected, accepted])).kind
      simp only [resolved]

theorem Select.parsed_driver {s : Select}
    (same : (Attempt.statement driver (.select .parse) (.select s)).consults = true →
      driver.Same other) :
    s.parsed other = s.parsed driver := by
  unfold parsed
  cases rendered : s.toSql with
  | error e => rfl
  | ok sql =>
    have alike : driver.Same other := same (by rw [Attempt.consults, rendered]; rfl)
    rw [alike.kind, alike.parser]

mutual

/-- A call does the same for any driver that its attempts are indifferent to. -/
theorem ConditionCall.run_driver {provider : Option Value} :
    ∀ (call : ConditionCall) (c : Condition),
      Indifferent driver other (.condition ⟨driver, provider⟩ call c ::
        call.within ⟨driver, provider⟩ c) →
      call.run ⟨other, provider⟩ c = call.run ⟨driver, provider⟩ c
  | .inPart part v, c, same => Condition.runPart_driver (Indifferent.cons.mp same).1
  | .inSubquery query, c, same => by
    have inside := (Indifferent.cons.mp same).2
    simp only [ConditionCall.run, ConditionCall.within] at inside ⊢
    cases selected : c.column with
    | none => rfl
    | some column =>
      rw [selected] at inside
      exact query.compareIn_driver c _ inside
  | .existsIn query, c, same => query.compareIn_driver c _ (Indifferent.cons.mp same).2
  | .quantified quantifier operator query, c, same => by
    have inside := (Indifferent.cons.mp same).2
    simp only [ConditionCall.run, ConditionCall.within] at inside ⊢
    cases selected : c.column with
    | none => rfl
    | some column =>
      rw [selected] at inside
      dsimp only
      split
      · exact query.compareIn_driver c _ inside
      · rfl
  | .apply predicate, c, same => predicate.apply_driver c (Indifferent.cons.mp same).2
  | .attempt call, c, same =>
    congrArg Outcome.caught (call.run_driver c (Indifferent.cons.mp same).2)
  | .col _, _, _ | .raw .., _, _ | .negate, _, _ | .openGroup, _, _ | .closeGroup, _, _
  | .toggleGroup, _, _ | .connect _, _, _ | .compare .., _, _ | .like _, _, _ | .between .., _, _
  | .oneOf _, _, _ | .isNull, _, _ | .check, _, _ | .values, _, _ | .unknown _, _, _
  | .abort .., _, _ => rfl

theorem ConditionCall.runAll_driver {provider : Option Value} :
    ∀ (calls : List ConditionCall) (held : Bool) (c : Condition),
      Indifferent driver other (ConditionCall.attempts ⟨driver, provider⟩ held calls c) →
      ConditionCall.runAll ⟨other, provider⟩ held calls c =
        ConditionCall.runAll ⟨driver, provider⟩ held calls c
  | [], _, _, _ => by simp only [ConditionCall.runAll]
  | call :: rest, held, c, same => by
    simp only [ConditionCall.runAll, ConditionCall.attempts] at same ⊢
    split
    · next called =>
      rw [if_pos called] at same
      obtain ⟨first, others⟩ := Indifferent.append.mp same
      refine Outcome.andThen_congr (call.run_driver c first) fun succeeded => ?_
      rw [if_pos succeeded] at others
      exact ConditionCall.runAll_driver rest true _ others
    · rfl

theorem Predicate.apply_driver {provider : Option Value} :
    ∀ (predicate : Predicate) (c : Condition),
      Indifferent driver other (predicate.attempts ⟨driver, provider⟩ c) →
      predicate.apply ⟨other, provider⟩ c = predicate.apply ⟨driver, provider⟩ c
  | .callback _ calls, c, same => by
    simp only [Predicate.apply]
    exact ConditionCall.runAll_driver calls _ c same
  | .other _, _, _ => rfl

theorem Predicate.extend_driver (clause : Clause) :
    ∀ (predicate : Predicate) (f : Option Condition),
      Indifferent driver other (predicate.attempts ⟨driver, none⟩ (f.getD .blank)) →
      predicate.extend other clause f = predicate.extend driver clause f
  | .callback _ calls, f, same => by
    simp only [Predicate.extend]
    rw [ConditionCall.runAll_driver calls _ _ same]
  | .other _, _, _ => rfl

theorem Subquery.compareIn_driver {provider : Option Value} :
    ∀ (query : Subquery) (c : Condition) (wrap : Sql → Sql),
      Indifferent driver other (query.attempts ⟨driver, provider⟩) →
      query.compareIn ⟨other, provider⟩ c wrap = query.compareIn ⟨driver, provider⟩ c wrap
  | .other _, _, _, _ => rfl
  | .callback calls, c, wrap, same => by
    simp only [Subquery.compareIn, Subquery.attempts] at same ⊢
    cases provider with
    | some v => rfl
    | none =>
      dsimp only at same ⊢
      rw [SelectCall.runAll_driver calls _ same]

theorem FilterCall.run_driver (kind : StatementKind) :
    ∀ (call : FilterCall) (f : Option Condition),
      Indifferent driver other (call.within driver f) →
      call.run other kind f = call.run driver kind f
  | .extend predicate, f, same => predicate.extend_driver _ f same
  | .connect _, none, _ | .connect _, some _, _ | .openGroup, _, _ | .closeGroup, none, _
  | .closeGroup, some _, _ | .toggleGroup, _, _ => rfl

theorem SelectCall.run_driver :
    ∀ (call : SelectCall) (s : Select),
      Indifferent driver other (.statement driver (.select call) (.select s) ::
        call.within driver s) →
      call.run other s = call.run driver s
  | .join kind table on, s, same => by
    have inside := (Indifferent.cons.mp same).2
    simp only [SelectCall.run, SelectCall.within] at inside ⊢
    cases named : table.fullString? with
    | none => rfl
    | some name =>
      rw [named] at inside
      dsimp only
      rw [on.extend_driver .join none inside]
  | .filter call, s, same => by
    have ran := call.run_driver .select s.filter (Indifferent.cons.mp same).2
    simp only [SelectCall.run, ran]
  | .having predicate, s, same => by
    have ran := predicate.extend_driver .having s.having (Indifferent.cons.mp same).2
    simp only [SelectCall.run, ran]
  | .union all query, s, same => query.addTo_driver all s (Indifferent.cons.mp same).2
  | .attempt call, s, same =>
    congrArg Outcome.caught (call.run_driver s (Indifferent.cons.mp same).2)
  | .parse, s, same => Select.parsed_driver (Indifferent.cons.mp same).1
  | .property .connection, _, _ => rfl
  | .property .config, _, _ => rfl
  | .property .dialect, s, same => by
    have resolved : other.kind = driver.kind :=
      ((Indifferent.cons.mp same).1 rfl).kind
    simp only [SelectCall.run, Select.callProperty, resolved]
  | .table _, _, _ | .columns _, _, _ | .distinct, _, _ | .limit _, _, _ | .offset _, _, _
  | .groupBy _, _, _ | .orderBy .., _, _ | .reset, _, _ | .logSql, _, _ | .logValues, _, _
  | .check, _, _ | .idle, _, _ | .unknown _, _, _ | .abort _, _, _ => rfl

theorem Subquery.addTo_driver (all : Bool) :
    ∀ (query : Subquery) (s : Select),
      Indifferent driver other (query.attempts ⟨driver, none⟩) →
      query.addTo other all s = query.addTo driver all s
  | .other _, _, _ => rfl
  | .callback calls, s, same => by
    simp only [Subquery.addTo]
    rw [SelectCall.runAll_driver calls _ same]

theorem SelectCall.runAll_driver :
    ∀ (calls : List SelectCall) (s : Select),
      Indifferent driver other (SelectCall.attempts driver calls s) →
      SelectCall.runAll other calls s = SelectCall.runAll driver calls s
  | [], _, _ => by simp only [SelectCall.runAll]
  | call :: rest, s, same => by
    simp only [SelectCall.runAll, SelectCall.attempts] at same ⊢
    obtain ⟨first, others⟩ := Indifferent.append.mp same
    refine Outcome.andThen_congr (call.run_driver s first) fun succeeded => ?_
    rw [if_pos succeeded] at others
    exact SelectCall.runAll_driver rest _ others

end

theorem Statement.apply_driver {call : Call} {s : Statement}
    (same : Indifferent driver other (call.attempts driver s)) :
    s.apply other call = s.apply driver call := by
  cases call <;> cases s
  case select.select call s =>
    exact congrArg (Outcome.map Statement.select) (call.run_driver s same)
  case update.update call s =>
    refine congrArg (Outcome.map Statement.update) ?_
    cases call with
    | filter call =>
      have ran := call.run_driver .update s.filter (Indifferent.cons.mp same).2
      simp only [UpdateCall.run, ran]
    | _ => rfl
  case delete.delete call s =>
    refine congrArg (Outcome.map Statement.delete) ?_
    cases call with
    | filter call =>
      have ran := call.run_driver .delete s.filter (Indifferent.cons.mp same).2
      simp only [DeleteCall.run, ran]
    | _ => rfl
  all_goals rfl

end

end SqlBuilder
