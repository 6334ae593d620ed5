import SqlBuilder.Proofs.Call.Portability

set_option autoImplicit false

namespace SqlBuilder

/-- The same failure, which shows a dialect as either driver has it. -/
inductive Error.Respelled (k l : DriverKind) : Error → Error → Prop
  | same (e : Error) : Respelled k l e e
  | dialect : Respelled k l (.notCallable k.dialectName) (.notCallable l.dialectName)

/-- The second outcome is that of the first in the other spelling. -/
structure Outcome.Respelled {σ : Type} (k l : DriverKind) (f : σ → σ) (o p : Outcome σ) : Prop where
  state : p.state = f o.state
  failure : Option.Rel (Error.Respelled k l) o.failure p.failure

variable {k l : DriverKind}

namespace Outcome

variable {σ τ : Type} {f : σ → σ} {g : τ → τ} {s : σ} {o p : Outcome σ}

theorem Respelled.done (s : σ) : Respelled k l f (done s) (done (f s)) := ⟨rfl, .none⟩

theorem Respelled.fail (e : Error) (s : σ) : Respelled k l f (fail e s) (fail e (f s)) :=
  ⟨rfl, .some (.same e)⟩

/-- An outcome that no driver has a part in. -/
theorem Respelled.refl (o : Outcome σ) : Respelled k l id o o := by
  refine ⟨rfl, ?_⟩
  cases o.failure with
  | none => exact .none
  | some e => exact .some (.same e)

theorem Respelled.ofExcept {x y : Except Error σ} (mapped : y = x.map f) :
    Respelled k l f (ofExcept s x) (ofExcept (f s) y) := by
  subst mapped
  cases x with
  | error e => exact .fail e s
  | ok t => exact .done t

theorem Respelled.failures (same : Respelled k l f o p) :
    (o.failure = none ∧ p.failure = none) ∨
      ∃ e e', o.failure = some e ∧ p.failure = some e' ∧ Error.Respelled k l e e' := by
  have failures := same.failure
  cases failed : o.failure <;> cases failed' : p.failure <;> rw [failed, failed'] at failures
  case none.none => exact .inl ⟨rfl, rfl⟩
  case some.some e e' =>
    cases failures with
    | some related => exact .inr ⟨e, e', rfl, rfl, related⟩
  all_goals cases failures

theorem Respelled.caught (same : Respelled k l f o p) : Respelled k l f o.caught p.caught :=
  ⟨same.state, .none⟩

theorem Respelled.andThen {next next' : σ → Outcome σ} (first : Respelled k l f o p)
    (second : Respelled k l f (next o.state) (next' (f o.state))) :
    Respelled k l f (o.andThen next) (p.andThen next') := by
  rcases first.failures with ⟨none, none'⟩ | ⟨e, e', failed, failed', _⟩
  · unfold Outcome.andThen
    rw [none, none', first.state]
    exact ⟨second.state, second.failure⟩
  · rw [andThen_of_failure o next e failed, andThen_of_failure p next' e' failed']
    exact first

theorem Respelled.map {h h' : σ → τ} (same : Respelled k l f o p)
    (commutes : h' (f o.state) = g (h o.state)) : Respelled k l g (o.map h) (p.map h') := by
  refine ⟨?_, same.failure⟩
  rw [Outcome.map, same.state]
  exact commutes

theorem Respelled.commit {t : τ} {h h' : σ → τ} (same : Respelled k l f o p)
    (commutes : h' (f o.state) = g (h o.state)) :
    Respelled k l g (o.commit t h) (p.commit (g t) h') := by
  refine ⟨?_, same.failure⟩
  unfold Outcome.commit Outcome.succeeded
  rcases same.failures with ⟨none, none'⟩ | ⟨e, e', failed, failed', _⟩
  · rw [none, none', same.state]
    exact commutes
  · rw [failed, failed']
    rfl

end Outcome

namespace Condition

variable {c : Condition}

theorem select_respell (name : Value) (c : Condition) :
    (c.respell l).select name = (c.select name).map (respell l) := by
  unfold select
  split <;> rfl

theorem addRaw_respell (fragment : Value) (values : List Value) (c : Condition) :
    (c.respell l).addRaw fragment values = (c.addRaw fragment values).map (respell l) := by
  unfold addRaw
  split
  · rfl
  · split
    · rfl
    · exact congrArg Except.ok (respell_push l (.raw _ values) c).symm

theorem withColumn_respell {next next' : String → Except Error Condition}
    (each : ∀ column, next' column = (next column).map (respell l)) :
    (c.respell l).withColumn next' = (c.withColumn next).map (respell l) := by
  unfold withColumn
  rw [column_respell]
  cases c.column with
  | none => rfl
  | some column => exact each column

/-- A comparison without date parts. -/
theorem compare_respell {sql : Sql} (same : sql.Common) (c : Condition) :
    (c.respell l).compare sql = (c.compare sql).respell l := by
  rw [respell_compare, same l]

theorem compareWith_respell (sign : String) (part : Part) (accepts : Value → Bool) (v : Value)
    (c : Condition) : (c.respell l).compareWith sign part accepts v =
      (c.compareWith sign part accepts v).map (respell l) := by
  refine withColumn_respell fun column => ?_
  split
  · exact congrArg Except.ok (compare_respell ((Sql.Common.literal _).append (.operand v)) c)
  · rfl

theorem between_respell (low high : Value) (c : Condition) :
    (c.respell l).between low high = (c.between low high).map (respell l) := by
  refine withColumn_respell fun column => ?_
  split
  · rfl
  · split
    · rfl
    · have range := (Sql.Common.literal (column ++ " BETWEEN ")).append (.operand low)
      have common := range.append ((Sql.Common.literal " AND ").append (.operand high))
      exact congrArg Except.ok (compare_respell common c)

theorem oneOf_respell (values : List Value) (c : Condition) :
    (c.respell l).oneOf values = (c.oneOf values).map (respell l) := by
  refine withColumn_respell fun column => ?_
  split
  · rfl
  · split
    · rfl
    · exact congrArg Except.ok (compare_respell ((Sql.Common.literal _).append
        ((Sql.Common.operands values).append (.literal ")"))) c)

theorem isNull_respell (c : Condition) :
    (c.respell l).isNull = c.isNull.map (respell l) :=
  withColumn_respell fun _ => congrArg Except.ok (compare_respell (.literal _) c)

/-- The date part is spelt for the driver that the run asks. -/
theorem runPart_respell {o o' : Owner} (first : o.driver.kind = .ok k)
    (second : o'.driver.kind = .ok l) (part : DatePart) (v : Value)
    (c : Condition) :
    Outcome.Respelled k l (respell l) (c.runPart o part v) ((c.respell l).runPart o' part v) := by
  unfold runPart
  rw [column_respell, first, second]
  cases c.column with
  | none => exact .fail _ c
  | some column =>
    dsimp only
    split
    · exact .fail _ c
    · refine ⟨?_, .none⟩
      unfold comparePart
      rw [respell_compare]
      simp only [Sql.respell_cons, respell_operand]
      rfl

theorem embed_respell {opening : String} {query query' : Outcome Select}
    (same : Outcome.Respelled k l (Select.respell l) query query')
    (spoken : query.state.Spoken portable) (c : Condition) :
    Outcome.Respelled k l (respell l) (c.embed (Sql.enclosed opening) query)
      ((c.respell l).embed (Sql.enclosed opening) query') := by
  unfold embed
  rcases same.failures with ⟨none, none'⟩ | ⟨e, e', failed, failed', related⟩
  · rw [none, none', same.state, Select.render_respell spoken]
    cases query.state.render with
    | error e => exact ⟨rfl, .some (.same e)⟩
    | ok sql =>
      refine ⟨?_, .none⟩
      rw [respell_compare, Sql.respell_enclosed]
      rfl
  · rw [failed, failed']
    exact ⟨rfl, .some related⟩

end Condition

theorem settle_respell {before : Option Condition} {o p : Outcome Condition}
    (same : Outcome.Respelled k l (Condition.respell l) o p) :
    Outcome.Respelled k l (Option.map (Condition.respell l)) (settle before o)
      (settle (before.map (Condition.respell l)) p) := by
  cases before with
  | none => exact same.commit rfl
  | some c => exact same.map rfl

namespace Select

variable {s : Select}

theorem addUnion_respell {all : Bool} {query query' : Outcome Select}
    (same : Outcome.Respelled k l (respell l) query query')
    (spoken : query.state.Spoken portable) (s : Select) :
    Outcome.Respelled k l (respell l) (s.addUnion all query)
      ((s.respell l).addUnion all query') := by
  unfold addUnion
  rcases same.failures with ⟨none, none'⟩ | ⟨e, e', failed, failed', related⟩
  · rw [none, none', same.state, render_respell spoken]
    cases query.state.render with
    | error e => exact ⟨rfl, .some (.same e)⟩
    | ok sql =>
      refine ⟨?_, .none⟩
      simp only [respell, List.map_append, List.map_singleton, Union.respell]
      rfl
  · rw [failed, failed']
    exact ⟨rfl, .some related⟩

theorem addJoin_respell {kind : JoinKind} {table : String} {on on' : Outcome (Option Condition)}
    (same : Outcome.Respelled k l (Option.map (Condition.respell l)) on on') (s : Select) :
    Outcome.Respelled k l (respell l) (s.addJoin kind table on)
      ((s.respell l).addJoin kind table on') := by
  refine same.commit ?_
  simp only [respell, List.map_append, List.map_singleton, Join.respell, Condition.respell_getD]

/-- An operation that reads no condition. -/
theorem map_respell {α : Type} {f g : α → Select} (x : Except Error α)
    (each : ∀ a, g a = (f a).respell l) : x.map g = (x.map f).map (respell l) := by
  cases x with
  | error e => rfl
  | ok a => exact congrArg Except.ok (each a)

theorem toSql_respell (spoken : s.Spoken portable) :
    s.toSql = s.render.map (fun sql => sql.text ++ ";") ∧
      (s.respell l).toSql = s.render.map fun sql => (sql.respell l).text ++ ";" := by
  refine ⟨rfl, ?_⟩
  unfold toSql
  rw [render_respell spoken]
  cases s.render <;> rfl

theorem callProperty_respell {driver other : Driver}
    (first : driver.kind = .ok k) (second : other.kind = .ok l)
    (p : QueryProperty) (s : Select) :
    Outcome.Respelled k l (respell l) (s.callProperty driver p)
      ((s.respell l).callProperty other p) := by
  unfold callProperty
  rw [first, second]
  cases p with
  | dialect => exact ⟨rfl, .some .dialect⟩
  | _ => exact .fail _ s

end Select

/-- What a run on its own respelling leaves is its own respelling. -/
theorem Outcome.Respelled.native {σ : Type} {f : σ → σ} {o : Outcome σ}
    (again : Outcome.Respelled k k f o o) : f o.state = o.state :=
  again.state.symm

theorem Condition.getD_native {f : Option Condition} (native : f.map (respell k) = f) :
    (f.getD .blank).respell k = f.getD .blank := by
  rw [← respell_getD, native]

variable {driver : Driver}

mutual

theorem ConditionCall.run_respell (first : driver.kind = .ok k)
    {provider : Option Value} :
    ∀ (call : ConditionCall) {l : DriverKind} {other : Driver} {c : Condition},
      other.kind = .ok l → call.Uses unread → c.Spoken portable →
      c.respell k = c → Outcome.Respelled k l (Condition.respell l)
        (call.run ⟨driver, provider⟩ c) (call.run ⟨other, provider⟩ (c.respell l))
  | .col name, _, _, c, _, _, _, _ => .ofExcept (Condition.select_respell name c)
  | .raw fragment values, _, _, c, _, _, _, _ =>
    .ofExcept (Condition.addRaw_respell fragment values c)
  | .negate, _, _, _, _, _, _, _ => .done _
  | .openGroup, l, _, c, _, _, _, _ => ⟨(Condition.respell_push l .opening c).symm, .none⟩
  | .closeGroup, l, _, c, _, _, _, _ => ⟨(Condition.respell_push l .closing c).symm, .none⟩
  | .toggleGroup, l, _, c, _, _, _, _ => ⟨(Condition.respell_toggleGroup l c).symm, .none⟩
  | .connect w, l, _, c, _, _, _, _ => ⟨(Condition.respell_push l (.connective w) c).symm, .none⟩
  | .compare s v, _, _, c, _, _, _, _ => .ofExcept (Condition.compareWith_respell _ _ _ v c)
  | .like v, _, _, c, _, _, _, _ => .ofExcept (Condition.compareWith_respell _ _ _ v c)
  | .between low high, _, _, c, _, _, _, _ => .ofExcept (Condition.between_respell low high c)
  | .oneOf values, _, _, c, _, _, _, _ => .ofExcept (Condition.oneOf_respell values c)
  | .isNull, _, _, c, _, _, _, _ => .ofExcept (Condition.isNull_respell c)
  | .inPart part v, _, _, c, second, _, _, _ => Condition.runPart_respell first second part v c
  | .inSubquery query, _, _, c, second, uses, _, _ => by
    simp only [ConditionCall.run, Condition.column_respell]
    cases c.column with
    | none => exact .fail _ c
    | some column => exact query.compareIn_respell first second uses c
  | .existsIn query, _, _, c, second, uses, _, _ => query.compareIn_respell first second uses c
  | .quantified quantifier operator query, _, _, c, second, uses, _, _ => by
    simp only [ConditionCall.run, Condition.column_respell]
    cases c.column with
    | none => exact .fail _ c
    | some column =>
      dsimp only
      split
      · exact query.compareIn_respell first second uses c
      · exact .fail _ c
  | .apply predicate, _, _, _, second, uses, spoken, native =>
    predicate.apply_respell first second uses spoken native
  | .attempt call, _, _, _, second, uses, spoken, native =>
    (call.run_respell first second uses spoken native).caught
  | .check, l, _, c, _, _, spoken, _ => by
    have built := Condition.build_respell (spoken.respellable l)
    refine .ofExcept ?_
    rw [built]
    cases c.build <;> rfl
  | .values, _, _, c, _, _, _, _ => .fail _ c
  | .unknown _, _, _, c, _, _, _, _ => .fail _ c
  | .abort _ _, _, _, c, _, _, _, _ => .fail _ c

theorem ConditionCall.runAll_respell (first : driver.kind = .ok k)
    {provider : Option Value} :
    ∀ (calls : List ConditionCall) {l : DriverKind} {other : Driver} {held : Bool} {c : Condition},
      other.kind = .ok l → ConditionCall.AllUse unread calls →
      c.Spoken portable → c.respell k = c →
      Outcome.Respelled k l (Condition.respell l)
        (ConditionCall.runAll ⟨driver, provider⟩ held calls c)
        (ConditionCall.runAll ⟨other, provider⟩ held calls (c.respell l))
  | [], _, _, held, c, _, _, _, _ => by
    simp only [ConditionCall.runAll]
    exact .done c
  | call :: rest, l, other, held, c, second, uses, spoken, native => by
    -- the rest may rely on the spelling of the first run: it is its own respelling
    have again : Outcome.Respelled k k (Condition.respell k) (call.run ⟨driver, provider⟩ c)
        (call.run ⟨driver, provider⟩ (c.respell k)) :=
      call.run_respell first first uses.1 spoken native
    rw [native] at again
    simp only [ConditionCall.runAll]
    split
    · exact (call.run_respell first second uses.1 spoken native).andThen
        (ConditionCall.runAll_respell first rest second uses.2
          (call.run_spoken portable_closed _ uses.1 spoken) again.native)
    · exact .fail _ c

theorem Predicate.apply_respell (first : driver.kind = .ok k)
    {provider : Option Value} :
    ∀ (predicate : Predicate) {l : DriverKind} {other : Driver} {c : Condition},
      other.kind = .ok l → predicate.Uses unread → c.Spoken portable →
      c.respell k = c → Outcome.Respelled k l (Condition.respell l)
        (predicate.apply ⟨driver, provider⟩ c) (predicate.apply ⟨other, provider⟩ (c.respell l))
  | .callback _ calls, _, _, c, second, uses, spoken, native => by
    simp only [Predicate.apply]
    exact ConditionCall.runAll_respell first calls second uses spoken native
  | .other _, _, _, c, _, _, _, _ => .fail _ c

theorem Predicate.extend_respell (first : driver.kind = .ok k) (clause : Clause) :
    ∀ (predicate : Predicate) {l : DriverKind} {other : Driver} {f : Option Condition},
      other.kind = .ok l → predicate.Uses unread →
      (∀ c, f = some c → c.Spoken portable) → f.map (Condition.respell k) = f →
      Outcome.Respelled k l (Option.map (Condition.respell l)) (predicate.extend driver clause f)
        (predicate.extend other clause (f.map (Condition.respell l)))
  | .callback _ calls, l, _, f, second, uses, spoken, native => by
    simp only [Predicate.extend, Condition.respell_getD]
    exact settle_respell (ConditionCall.runAll_respell first calls second uses
      (Condition.Spoken.getD spoken) (Condition.getD_native native))
  | .other _, _, _, f, _, _, _, _ => .fail _ f

theorem Subquery.compareIn_respell (first : driver.kind = .ok k)
    {provider : Option Value} :
    ∀ (query : Subquery) {l : DriverKind} {other : Driver} {opening : String},
      other.kind = .ok l → query.Uses unread → ∀ c : Condition,
      Outcome.Respelled k l (Condition.respell l)
        (query.compareIn ⟨driver, provider⟩ c (Sql.enclosed opening))
        (query.compareIn ⟨other, provider⟩ (c.respell l) (Sql.enclosed opening))
  | .other _, _, _, _, _, _, c => .fail _ c
  | .callback calls, _, _, _, second, uses, c => by
    simp only [Subquery.compareIn]
    cases provider with
    | some v => exact .fail _ c
    | none =>
      exact Condition.embed_respell
        (SelectCall.runAll_respell first calls second uses Select.empty_spoken rfl)
        (SelectCall.runAll_spoken portable_closed driver calls uses Select.empty_spoken) c

theorem FilterCall.run_respell (first : driver.kind = .ok k)
    (kind : StatementKind) :
    ∀ (call : FilterCall) {l : DriverKind} {other : Driver} {f : Option Condition},
      other.kind = .ok l → call.Uses unread →
      (∀ c, f = some c → c.Spoken portable) → f.map (Condition.respell k) = f →
      Outcome.Respelled k l (Option.map (Condition.respell l)) (call.run driver kind f)
        (call.run other kind (f.map (Condition.respell l)))
  | .extend predicate, _, _, _, second, uses, spoken, native =>
    predicate.extend_respell first _ second uses spoken native
  | .connect w, _, _, none, _, _, _, _ => .fail _ none
  | .connect w, l, _, some c, _, _, _, _ =>
    ⟨congrArg some (Condition.respell_push l (.connective w) c).symm, .none⟩
  | .openGroup, l, _, f, _, _, _, _ => by
    refine ⟨?_, .none⟩
    simp only [FilterCall.run, Condition.respell_getD]
    exact congrArg some (Condition.respell_push l .opening _).symm
  | .closeGroup, _, _, none, _, _, _, _ => .fail _ none
  | .closeGroup, l, _, some c, _, _, _, _ =>
    ⟨congrArg some (Condition.respell_push l .closing c).symm, .none⟩
  | .toggleGroup, l, _, f, _, _, _, _ => by
    refine ⟨?_, .none⟩
    simp only [FilterCall.run, Condition.respell_getD]
    exact congrArg some (Condition.respell_toggleGroup l _).symm

theorem SelectCall.run_respell (first : driver.kind = .ok k) :
    ∀ (call : SelectCall) {l : DriverKind} {other : Driver} {s : Select},
      other.kind = .ok l → call.Uses unread → s.Spoken portable →
      s.respell k = s →
      Outcome.Respelled k l (Select.respell l) (call.run driver s) (call.run other (s.respell l))
  | .table name, _, _, s, _, _, _, _ => by
    simp only [SelectCall.run, Select.setTable]
    split
    · exact .done { s with table := some _ }
    · exact .fail _ s
  | .columns names, _, _, s, _, _, _, _ => .ofExcept (Select.map_respell _ fun _ => rfl)
  | .distinct, _, _, s, _, _, _, _ => .done { s with distinct := true }
  | .limit count, _, _, s, _, _, _, _ => .ofExcept (Select.map_respell _ fun _ => rfl)
  | .offset count, _, _, s, _, _, _, _ => .ofExcept (Select.map_respell _ fun _ => rfl)
  | .join kind table on, _, _, s, second, uses, _, _ => by
    simp only [SelectCall.run]
    cases table.fullString? with
    | none => exact .fail _ s
    | some name =>
      have on := on.extend_respell first .join (f := none) second uses.2 nofun rfl
      exact Select.addJoin_respell on s
  | .filter call, _, _, s, second, uses, spoken, native => by
    simp only [SelectCall.run]
    exact (call.run_respell first .select second uses spoken.filter
      (congrArg Select.filter native)).map rfl
  | .groupBy columns, _, _, s, _, _, _, _ => .ofExcept (Select.map_respell _ fun _ => rfl)
  | .having predicate, _, _, s, second, uses, spoken, native => by
    simp only [SelectCall.run]
    exact (predicate.extend_respell first .having second uses spoken.having
      (congrArg Select.having native)).map rfl
  | .orderBy column order, _, _, s, _, _, _, _ => by
    simp only [SelectCall.run, Select.addOrder]
    split
    · exact .fail _ s
    · split
      · exact .done { s with orders := s.orders ++ [_] }
      · exact .fail _ s
  | .union all query, _, _, s, second, uses, _, _ => query.addTo_respell first all second uses s
  | .attempt call, _, _, _, second, uses, spoken, native =>
    (call.run_respell first second uses spoken native).caught
  | .reset, _, _, _, _, _, _, _ => ⟨rfl, .none⟩
  | .logSql, l, _, s, _, _, spoken, _ => by
    obtain ⟨own, respelled⟩ := Select.toSql_respell (l := l) spoken
    simp only [SelectCall.run, own, respelled]
    cases s.render with
    | error e => exact .fail e s
    | ok sql => exact ⟨rfl, .none⟩
  | .logValues, _, _, _, _, _, _, _ => ⟨rfl, .none⟩
  | .check, l, _, s, _, _, spoken, _ => by
    obtain ⟨own, respelled⟩ := Select.toSql_respell (l := l) spoken
    simp only [SelectCall.run, own, respelled]
    cases s.render with
    | error e => exact .fail e s
    | ok sql => exact .done s
  | .parse, _, _, _, _, uses, _, _ => absurd uses id
  | .idle, _, _, s, _, _, _, _ => .done s
  | .property p, _, _, s, second, _, _, _ => Select.callProperty_respell first second p s
  | .unknown _, _, _, s, _, _, _, _ => .fail _ s
  | .abort _, _, _, s, _, _, _, _ => .fail _ s

theorem Subquery.addTo_respell (first : driver.kind = .ok k) (all : Bool) :
    ∀ (query : Subquery) {l : DriverKind} {other : Driver},
      other.kind = .ok l → query.Uses unread → ∀ s : Select,
      Outcome.Respelled k l (Select.respell l) (query.addTo driver all s)
        (query.addTo other all (s.respell l))
  | .other _, _, _, _, _, s => .fail _ s
  | .callback calls, _, _, second, uses, s => by
    simp only [Subquery.addTo]
    exact Select.addUnion_respell
      (SelectCall.runAll_respell first calls second uses Select.empty_spoken rfl)
      (SelectCall.runAll_spoken portable_closed driver calls uses Select.empty_spoken) s

theorem SelectCall.runAll_respell (first : driver.kind = .ok k) :
    ∀ (calls : List SelectCall) {l : DriverKind} {other : Driver} {s : Select},
      other.kind = .ok l → SelectCall.AllUse unread calls →
      s.Spoken portable → s.respell k = s →
      Outcome.Respelled k l (Select.respell l) (SelectCall.runAll driver calls s)
        (SelectCall.runAll other calls (s.respell l))
  | [], _, _, s, _, _, _, _ => by
    simp only [SelectCall.runAll]
    exact .done s
  | call :: rest, l, other, s, second, uses, spoken, native => by
    have here := call.run_respell first second uses.1 spoken native
    have again := call.run_respell first first uses.1 spoken native
    rw [native] at again
    simp only [SelectCall.runAll]
    exact here.andThen (SelectCall.runAll_respell first rest second uses.2
      (call.run_spoken portable_closed driver uses.1 spoken) again.native)

end

end SqlBuilder
