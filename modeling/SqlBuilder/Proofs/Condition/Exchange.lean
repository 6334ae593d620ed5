import SqlBuilder.Proofs.Agreement
import SqlBuilder.Proofs.Call.Exchange
import SqlBuilder.Proofs.Condition.Operation

set_option autoImplicit false

namespace SqlBuilder

variable {R : Value → Value → Prop}

structure Sql.Exchanged (R : Value → Value → Prop) (a b : Sql) : Prop where
  text : b.text = a.text
  values : List.Forall₂ R a.values b.values

namespace Sql

theorem Exchanged.literal (s : String) : Exchanged R [.literal s] [.literal s] := ⟨rfl, .nil⟩

theorem Exchanged.nil : Exchanged R [] [] := ⟨rfl, .nil⟩

theorem Exchanged.append {a b c d : Sql} (first : Exchanged R a b) (second : Exchanged R c d) :
    Exchanged R (a ++ c) (b ++ d) := by
  refine ⟨?_, ?_⟩
  · rw [text_append, text_append, first.text, second.text]
  · rw [values_append, values_append]
    exact List.rel_append first.values second.values

theorem Exchanged.cons (s : String) {a b : Sql} (rest : Exchanged R a b) :
    Exchanged R (.literal s :: a) (.literal s :: b) :=
  (Exchanged.literal s).append rest

theorem Exchanged.joinWith {separator : String} {parts others : List Sql}
    (pairs : List.Forall₂ (Exchanged R) parts others) :
    Exchanged R (Sql.joinWith separator parts) (Sql.joinWith separator others) := by
  induction pairs with
  | nil => exact .nil
  | cons first rest ih =>
    cases rest with
    | nil => exact first
    | cons second rest => exact first.append (.cons separator ih)

theorem Exchanged.trim {a b : Sql} (same : Exchanged R a b) : Exchanged R a.trim b.trim := by
  refine ⟨?_, ?_⟩
  · rw [text_trim, text_trim, same.text]
  · rw [values_trim, values_trim]
    exact same.values

theorem Exchanged.enclosed {opening : String} {a b : Sql} (same : Exchanged R a b) :
    Exchanged R (Sql.enclosed opening a) (Sql.enclosed opening b) :=
  .cons opening (same.append (.literal ")"))

end Sql

namespace Value

variable {admits : Value → Bool} {v w : Value}

theorem Exchanged.admitted (exchanged : v.Exchanged R admits w) : admits w = admits v := by
  unfold Exchanged at exchanged
  cases admitted : admits v with
  | true =>
    rw [admitted] at exchanged
    exact exchanged.1
  | false =>
    rw [admitted] at exchanged
    rw [exchanged, admitted]

theorem Exchanged.eq_of_refused (exchanged : v.Exchanged R admits w) (refused : admits v = false) :
    w = v := by
  rw [Exchanged, refused] at exchanged
  exact exchanged

theorem Exchanged.related (exchanged : v.Exchanged R admits w) (admitted : admits v = true) :
    R v w := by
  rw [Exchanged, admitted] at exchanged
  exact exchanged.2

/-- The first value of a list that a guard refuses is the same one in the other list. -/
theorem find?_refused {S : Value → Value → Prop} (accepts : Value → Bool)
    {values others : List Value} (pairs : List.Forall₂ S values others)
    (guard : ∀ v w, S v w → accepts w = accepts v ∧ (accepts v = false → w = v)) :
    (others.find? fun v => !accepts v) = values.find? fun v => !accepts v := by
  induction pairs with
  | nil => rfl
  | @cons v w values others first _ ih =>
    obtain ⟨same, refused⟩ := guard v w first
    cases accepted : accepts v with
    | true =>
      rw [accepted] at same
      rw [List.find?_cons_of_neg (by simp [same]), List.find?_cons_of_neg (by simp [accepted]), ih]
    | false =>
      rw [refused accepted, List.find?_cons_of_pos (by simp [accepted]),
        List.find?_cons_of_pos (by simp [accepted])]

end Value

/-- A guard that admits references, and else what `admits` does, none of which is a reference. -/
structure Operand (accepts admits : Value → Bool) : Prop where
  split : ∀ v, accepts v = (v.isRef || admits v)
  bound : ∀ v, admits v = true → v.isRef = false

namespace Operand

variable {accepts admits : Value → Bool} {v w : Value}

theorem scalar : Operand Condition.isOperand Value.isScalar where
  split _ := rfl
  bound v admitted := by cases v <;> first | rfl | cases admitted

theorem fullText : Operand Condition.isTextOperand Value.isFullText where
  split _ := rfl
  bound v admitted := by cases v <;> first | rfl | cases admitted

theorem part (p : DatePart) : Operand (Condition.acceptsPart p) p.binds where
  split v := by cases p <;> rfl
  bound v admitted := by
    cases p
    case date => exact fullText.bound v admitted
    case time => exact fullText.bound v admitted
    all_goals cases v <;> first | rfl | cases admitted

theorem accepts_eq (operand : Operand accepts admits) (exchanged : v.Exchanged R admits w) :
    accepts w = accepts v := by
  rw [operand.split, operand.split, exchanged.admitted]
  cases admitted : admits v with
  | true => rw [Bool.or_true, Bool.or_true]
  | false => rw [exchanged.eq_of_refused admitted]

theorem eq_of_refused (operand : Operand accepts admits) (exchanged : v.Exchanged R admits w)
    (refused : accepts v = false) : w = v := by
  rw [operand.split, Bool.or_eq_false_iff] at refused
  exact exchanged.eq_of_refused refused.2

/-- An accepted operand is written the same way: a reference as it is, another value as a slot. -/
theorem exchanged (operand : Operand accepts admits) (exchanged : v.Exchanged R admits w)
    (accepted : accepts v = true) :
    Sql.Exchanged R [Condition.operand v] [Condition.operand w] := by
  have slot : ∀ u : Value, u.isRef = false → Condition.operand u = .slot u := by
    intro u plain
    cases u <;> first | rfl | cases plain
  cases admitted : admits v with
  | true =>
    have admitted' := exchanged.admitted.trans admitted
    rw [slot v (operand.bound v admitted), slot w (operand.bound w admitted')]
    exact ⟨rfl, .cons (exchanged.related admitted) .nil⟩
  | false =>
    rw [operand.split, admitted, Bool.or_false] at accepted
    rw [exchanged.eq_of_refused admitted]
    cases v <;> first | exact .literal _ | cases accepted

end Operand

structure Condition.Exchanged (R : Value → Value → Prop) (c d : Condition) : Prop where
  sql : c.sql.Exchanged R d.sql
  depth : d.depth = c.depth
  negating : d.negating = c.negating
  column : d.column = c.column

namespace Condition

variable {c d : Condition}

theorem blank_exchanged : blank.Exchanged R blank := ⟨.nil, rfl, rfl, rfl⟩

theorem Exchanged.text (same : c.Exchanged R d) : d.text = c.text := by
  rw [Condition.text, Condition.text, same.sql.text]

theorem Exchanged.fault? (same : c.Exchanged R d) : d.fault? = c.fault? := by
  rw [Condition.fault?, Condition.fault?, same.depth, same.text]

theorem Exchanged.values (same : c.Exchanged R d) : List.Forall₂ R c.values d.values :=
  same.sql.values

theorem Exchanged.build (same : c.Exchanged R d) :
    Except.Agree Eq (Sql.Exchanged R) c.build d.build := by
  unfold Condition.build
  rw [same.fault?]
  cases c.fault? with
  | some fault => rfl
  | none => exact same.sql.trim

theorem Exchanged.push {t u : Token} (same : c.Exchanged R d) (token : t.sql.Exchanged R u.sql)
    (rise : u.rise = t.rise) : (c.push t).Exchanged R (d.push u) := by
  refine ⟨?_, ?_, same.negating, same.column⟩
  · rw [sql_push, sql_push]
    exact same.sql.append token
  · rw [depth_push, depth_push, same.depth, rise]

theorem Exchanged.pushMark {t : Token} (same : c.Exchanged R d) (plain : t.sql.values = []) :
    (c.push t).Exchanged R (d.push t) := by
  refine same.push ⟨rfl, ?_⟩ rfl
  rw [plain]
  exact .nil

theorem Exchanged.compare {a b : Sql} (same : c.Exchanged R d) (comparison : a.Exchanged R b) :
    (c.compare a).Exchanged R (d.compare b) := by
  have token : (Token.comparison c.negating a).sql.Exchanged R
      (Token.comparison d.negating b).sql := by
    rw [same.negating]
    cases c.negating with
    | false => exact comparison
    | true => exact .cons "NOT " comparison
  have pushed := same.push token rfl
  exact ⟨pushed.sql, pushed.depth, rfl, pushed.column⟩

theorem Exchanged.openGroup (same : c.Exchanged R d) : c.openGroup.Exchanged R d.openGroup :=
  same.pushMark rfl

theorem Exchanged.closeGroup (same : c.Exchanged R d) : c.closeGroup.Exchanged R d.closeGroup :=
  same.pushMark rfl

theorem Exchanged.toggleGroup (same : c.Exchanged R d) :
    c.toggleGroup.Exchanged R d.toggleGroup := by
  unfold Condition.toggleGroup
  rw [same.depth]
  split
  · exact same.openGroup
  · exact same.closeGroup

theorem Exchanged.withColumn {next next' : String → Except Error Condition}
    (same : c.Exchanged R d)
    (agree : ∀ column, Except.Agree Eq (Condition.Exchanged R) (next column) (next' column)) :
    Except.Agree Eq (Condition.Exchanged R) (c.withColumn next) (d.withColumn next') := by
  unfold Condition.withColumn
  rw [same.column]
  cases c.column with
  | none => rfl
  | some column => exact agree column

theorem Exchanged.addRaw {fragment : Value} {values others : List Value}
    (same : c.Exchanged R d)
    (pairs : List.Forall₂ (Value.Exchanged R Value.isScalar) values others) :
    Except.Agree Eq (Condition.Exchanged R) (c.addRaw fragment values)
      (d.addRaw fragment others) := by
  unfold Condition.addRaw
  cases fragment.fullString? with
  | none => rfl
  | some text =>
    have found := Value.find?_refused Value.isScalar pairs fun v w exchanged =>
      ⟨exchanged.admitted, exchanged.eq_of_refused⟩
    rcases Value.find?_not_cases Value.isScalar values with ⟨none, scalar⟩ | ⟨v, first, _⟩
    · have bound : List.Forall₂ R values others := by
        clear found none
        induction pairs with
        | nil => exact .nil
        | cons first _ ih =>
          obtain ⟨admitted, rest⟩ := List.forall_mem_cons.mp scalar
          exact .cons (first.related admitted) (ih rest)
      rw [none] at found
      simp only [none, found]
      refine same.push ⟨rfl, ?_⟩ rfl
      simpa [Token.sql, Piece.values] using bound
    · rw [first] at found
      simp only [first, found]
      rfl

theorem Exchanged.compareWith {sign : String} {part : Part} {accepts admits : Value → Bool}
    {v w : Value} (same : c.Exchanged R d) (operand : Operand accepts admits)
    (exchanged : v.Exchanged R admits w) :
    Except.Agree Eq (Condition.Exchanged R) (c.compareWith sign part accepts v)
      (d.compareWith sign part accepts w) := by
  apply same.withColumn
  intro column
  rw [operand.accepts_eq exchanged]
  cases accepted : accepts v with
  | true => exact same.compare (.cons _ (operand.exchanged exchanged accepted))
  | false =>
    rw [operand.eq_of_refused exchanged accepted]
    rfl

theorem Exchanged.between {low low' high high' : Value} (same : c.Exchanged R d)
    (below : low.Exchanged R Value.isScalar low') (above : high.Exchanged R Value.isScalar high') :
    Except.Agree Eq (Condition.Exchanged R) (c.between low high) (d.between low' high') := by
  apply same.withColumn
  intro column
  rw [Operand.scalar.accepts_eq below, Operand.scalar.accepts_eq above]
  cases first : isOperand low with
  | false =>
    rw [Operand.scalar.eq_of_refused below first]
    rfl
  | true =>
    cases second : isOperand high with
    | false =>
      rw [Operand.scalar.eq_of_refused above second]
      rfl
    | true =>
      have last := Operand.scalar.exchanged above second
      exact same.compare (.cons _ ((Operand.scalar.exchanged below first).append (.cons _ last)))

theorem Exchanged.oneOf {values others : List Value} (same : c.Exchanged R d)
    (pairs : List.Forall₂ (Value.Exchanged R Value.isScalar) values others) :
    Except.Agree Eq (Condition.Exchanged R) (c.oneOf values) (d.oneOf others) := by
  apply same.withColumn
  intro column
  have found := Value.find?_refused isOperand pairs fun v w exchanged =>
    ⟨Operand.scalar.accepts_eq exchanged, Operand.scalar.eq_of_refused exchanged⟩
  have empty : others.isEmpty = values.isEmpty := isEmpty_of_forall₂ pairs
  rw [empty]
  cases values.isEmpty with
  | true => rfl
  | false =>
    rcases Value.find?_not_cases isOperand values with ⟨none, accepted⟩ | ⟨v, first, _⟩
    · rw [none] at found
      simp only [none, found, Bool.false_eq_true, ↓reduceIte]
      have listed : List.Forall₂ (Sql.Exchanged R) (values.map fun v => [operand v])
          (others.map fun v => [operand v]) := by
        clear found none empty
        induction pairs with
        | nil => exact .nil
        | cons first _ ih =>
          obtain ⟨one, rest⟩ := List.forall_mem_cons.mp accepted
          exact .cons (Operand.scalar.exchanged first one) (ih rest)
      exact same.compare (.cons _ ((Sql.Exchanged.joinWith listed).append (.literal ")")))
    · rw [first] at found
      simp only [first, found, Bool.false_eq_true, ↓reduceIte]
      rfl

theorem Exchanged.isNull (same : c.Exchanged R d) :
    Except.Agree Eq (Condition.Exchanged R) c.isNull d.isNull :=
  same.withColumn fun _ => same.compare (.literal _)

theorem Exchanged.select {name : Value} (same : c.Exchanged R d) :
    Except.Agree Eq (Condition.Exchanged R) (c.select name) (d.select name) := by
  unfold Condition.select
  cases name.fullString? with
  | none => rfl
  | some column => exact ⟨same.sql, same.depth, same.negating, rfl⟩

theorem Exchanged.runPart {o : Owner} {part : DatePart} {v w : Value} (same : c.Exchanged R d)
    (exchanged : v.Exchanged R part.binds w) :
    Outcome.Agree Eq (Condition.Exchanged R) (c.runPart o part v) (d.runPart o part w) := by
  unfold Condition.runPart
  rw [same.column, (Operand.part part).accepts_eq exchanged]
  cases c.column with
  | none => exact .fail same rfl
  | some column =>
    cases accepted : acceptsPart part v with
    | false =>
      rw [(Operand.part part).eq_of_refused exchanged accepted]
      exact .fail same rfl
    | true =>
      cases o.driver.kind with
      | error e => exact .fail same rfl
      | ok kind =>
        have extract : Sql.Exchanged R [.extract kind part column] [.extract kind part column] :=
          ⟨rfl, .nil⟩
        have equal := Sql.Exchanged.cons " = " ((Operand.part part).exchanged exchanged accepted)
        exact ⟨same.compare (extract.append equal), .none⟩

end Condition

end SqlBuilder
