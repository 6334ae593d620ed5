import SqlBuilder.Proofs.Condition.Parts
import SqlBuilder.Proofs.Select.Rendering

set_option autoImplicit false

namespace SqlBuilder.Condition

/-- The parts are those that the tokens and the flags of a condition stand for. -/
structure Parts.Refines (p : Parts) (c : Condition) : Prop where
  stack : p.stack = c.tokens.map fun t => t.sql.text
  values : p.values = c.values
  negating : p.negating = c.negating
  opened : p.opened = c.depth
  column : match c.column with
    | none => p.column = .null
    | some name => p.column.fullString? = some name

/-- What an action does to the parts is what an outcome makes of the tokens. -/
structure Work.Mirrors (w : Work) (action : WorkM Unit) (o : Outcome Condition) : Prop where
  failure : failureOf action w = o.failure
  parts : (stateAfter action w).parts.Refines o.state
  notices : (stateAfter action w).notices = w.notices ++ o.notices

namespace Parts.Refines

variable {p : Parts} {c : Condition}

theorem blank : Parts.blank.Refines .blank := ⟨rfl, rfl, rfl, rfl, rfl⟩

variable (refines : p.Refines c)

include refines

theorem text : p.text = c.text := by
  rw [Parts.text, Condition.text, refines.stack]
  congr 1
  unfold sql
  induction c.tokens with
  | nil => rfl
  | cons t rest ih =>
    rw [List.map_cons, String.join_cons, List.flatMap_cons, Sql.text_append, ih]

theorem build : p.build = c.build.map Sql.text := by
  unfold Parts.build Condition.build Condition.fault?
  rw [refines.text, refines.opened]
  cases faultIn c.depth c.text.toList with
  | some fault => rfl
  | none =>
    have trimmed : c.sql.trim.text = c.text := Sql.text_trim c.sql
    rw [← trimmed]
    rfl

/-- A token more, whose text is appended and whose values are bound. -/
theorem push (t : Token) :
    Refines { p with
      stack := p.stack ++ [t.sql.text]
      values := p.values ++ t.sql.values
      opened := p.opened + t.rise } (c.push t) where
  stack := by
    rw [refines.stack, Condition.push, List.map_append]
    rfl
  values := by rw [values_push, refines.values]
  negating := refines.negating
  opened := by rw [depth_push, refines.opened]
  column := refines.column

/-- A token that binds nothing is appended. -/
theorem pushBare (t : Token) (bare : t.sql.values = []) {fragment : String}
    (written : fragment = t.sql.text) :
    Refines { p with stack := p.stack ++ [fragment], opened := p.opened + t.rise } (c.push t) := by
  have pushed := refines.push t
  rw [bare, List.append_nil, ← written] at pushed
  exact pushed

theorem compare (sql : Sql) :
    Refines { p with
      stack := p.stack ++ [(if p.negating then "NOT " else "") ++ sql.text]
      values := p.values ++ sql.values
      negating := false } (c.compare sql) := by
  have written : (Token.comparison c.negating sql).sql.text =
      (if p.negating then "NOT " else "") ++ sql.text := by
    rw [refines.negating]
    cases c.negating with
    | true => exact Sql.text_cons _ _
    | false => exact (String.empty_append).symm
  have bound : (Token.comparison c.negating sql).sql.values = sql.values := by
    cases c.negating <;> rfl
  have pushed := refines.push (.comparison c.negating sql)
  rw [written, bound] at pushed
  exact
    { stack := pushed.stack
      values := pushed.values
      negating := rfl
      opened := (Int.add_zero _).symm.trans pushed.opened
      column := pushed.column }

theorem selected {name : Value} {text : String} (given : name.fullString? = some text) :
    Refines { p with column := name } { c with column := some text } :=
  ⟨refines.stack, refines.values, refines.negating, refines.opened, given⟩

theorem negated : Refines { p with negating := true } { c with negating := true } :=
  ⟨refines.stack, refines.values, rfl, refines.opened, refines.column⟩

end Parts.Refines

namespace Work

variable {w : Work} {c : Condition}

theorem Mirrors.of_same {action other : WorkM Unit} {o : Outcome Condition}
    (mirrors : w.Mirrors action o) (same : other w = action w) : w.Mirrors other o := by
  obtain ⟨failure, parts, notices⟩ := mirrors
  unfold failureOf stateAfter at *
  rw [← same] at failure parts notices
  exact ⟨failure, parts, notices⟩

theorem Mirrors.of_ok {action : WorkM Unit} {p : Parts} {notices : List Notice}
    (refines : p.Refines c) (ran : action w = .ok () ⟨p, w.notices ++ notices⟩) :
    w.Mirrors action ⟨c, notices, none⟩ := by
  constructor
  · rw [failureOf, ran]
  · rw [stateAfter, ran]
    exact refines
  · rw [stateAfter, ran]

theorem Mirrors.of_error {action : WorkM Unit} {p : Parts} {notices : List Notice} {e : Error}
    (refines : p.Refines c) (ran : action w = .error e ⟨p, w.notices ++ notices⟩) :
    w.Mirrors action ⟨c, notices, some e⟩ := by
  constructor
  · rw [failureOf, ran]
  · rw [stateAfter, ran]
    exact refines
  · rw [stateAfter, ran]

theorem Mirrors.done {action : WorkM Unit} {p : Parts} (refines : p.Refines c)
    (ran : action w = .ok () ⟨p, w.notices⟩) : w.Mirrors action (.done c) :=
  .of_ok refines (by rw [ran, List.append_nil])

theorem Mirrors.fail {action : WorkM Unit} {e : Error} (refines : w.parts.Refines c)
    (ran : action w = .error e w) : w.Mirrors action (.fail e c) :=
  .of_error refines (by rw [ran, List.append_nil])

/-- A second action goes on from what the first one has left. -/
theorem Mirrors.andThen {first second : WorkM Unit} {o : Outcome Condition}
    {next : Condition → Outcome Condition} (mirrors : w.Mirrors first o)
    (later : ∀ v : Work, v.parts.Refines o.state → v.Mirrors second (next o.state)) :
    w.Mirrors (first >>= fun _ => second) (o.andThen next) := by
  obtain ⟨failure, parts, notices⟩ := mirrors
  cases ran : first w with
  | error e v =>
    rw [failureOf, ran] at failure
    rw [stateAfter, ran] at parts notices
    rw [Outcome.andThen_of_failure o next e failure.symm]
    constructor
    · rw [failureOf, bind_apply_of_error ran]
      exact failure
    · rw [stateAfter, bind_apply_of_error ran]
      exact parts
    · rw [stateAfter, bind_apply_of_error ran]
      exact notices
  | ok _ v =>
    rw [failureOf, ran] at failure
    rw [stateAfter, ran] at parts notices
    obtain ⟨failure', parts', notices'⟩ := later v parts
    unfold Outcome.andThen
    rw [← failure]
    constructor
    · rw [failureOf, bind_apply_of_ok ran]
      exact failure'
    · rw [stateAfter, bind_apply_of_ok ran]
      exact parts'
    · rw [stateAfter, bind_apply_of_ok ran]
      exact notices'.trans (by rw [notices, List.append_assoc])

theorem Mirrors.caught {action : WorkM Unit} {o : Outcome Condition}
    (mirrors : w.Mirrors action o) : w.Mirrors (tryCatch action fun _ => pure ()) o.caught := by
  have left : stateAfter (tryCatch action fun _ => pure ()) w = stateAfter action w := by
    rw [stateAfter, stateAfter, tryCatch_apply]
    cases action w <;> rfl
  constructor
  · exact certain_catch action w
  · rw [left]
    exact mirrors.parts
  · rw [left]
    exact mirrors.notices

/-- A fragment that is written with its values bound is a comparison. -/
theorem Mirrors.compared_of_notices {action : WorkM Unit} {sql : Sql} {notices : List Notice}
    (refines : w.parts.Refines c) (fragment : String) (values : List Value)
    (written : fragment = sql.text) (bound : values = sql.values)
    (ran : action w =
      push fragment ⟨{ w.parts with values := w.parts.values ++ values }, w.notices ++ notices⟩) :
    w.Mirrors action ⟨c.compare sql, notices, none⟩ := by
  subst written bound
  exact .of_ok (refines.compare sql) ran

theorem Mirrors.compared {action : WorkM Unit} {sql : Sql} (refines : w.parts.Refines c)
    (fragment : String) (values : List Value) (written : fragment = sql.text)
    (bound : values = sql.values)
    (ran : action w =
      push fragment { w with parts := { w.parts with values := w.parts.values ++ values } }) :
    w.Mirrors action (.done (c.compare sql)) :=
  .compared_of_notices refines fragment values written bound (by rw [ran, List.append_nil])

theorem require_true (e : Error) (w : Work) : require true e w = .ok () w := rfl

theorem require_false (e : Error) (w : Work) : require false e w = .error e w := rfl

theorem requireColumn_apply (w : Work) :
    requireColumn w =
      match w.parts.column.fullString? with
      | some name => .ok name w
      | none => .error (.invalid .column w.parts.column) w := by
  simp only [requireColumn, get_bind_apply]
  cases w.parts.column.fullString? <;> rfl

theorem requireColumn_some {name : String} (refines : w.parts.Refines c)
    (chosen : c.column = some name) : requireColumn w = .ok name w := by
  have column := refines.column
  rw [chosen] at column
  rw [requireColumn_apply, column]

theorem requireColumn_none (refines : w.parts.Refines c) (chosen : c.column = none) :
    requireColumn w = .error (.invalid .column .null) w := by
  have column := refines.column
  rw [chosen] at column
  rw [requireColumn_apply, column]
  rfl

/-- The first value that is not accepted is refused. -/
theorem forM_require (accepts : Value → Bool) (fault : Value → Error) (values : List Value)
    (w : Work) :
    (values.forM fun v => require (accepts v) (fault v)) w =
      match values.find? fun v => !accepts v with
      | some v => .error (fault v) w
      | none => .ok () w := by
  induction values with
  | nil => rfl
  | cons v rest ih =>
    have opened : ((v :: rest).forM fun v => require (accepts v) (fault v)) =
        require (accepts v) (fault v) >>= fun _ =>
          rest.forM fun v => require (accepts v) (fault v) := rfl
    rw [opened]
    cases taken : accepts v with
    | true =>
      rw [bind_apply_of_ok (require_true _ w), ih, List.find?_cons_of_neg (by simp [taken])]
    | false =>
      rw [bind_apply_of_error (require_false _ w), List.find?_cons_of_pos (by simp [taken])]

theorem bindOperand_apply (v : Value) (w : Work) :
    bindOperand v w = .ok (operand v).text
      { w with parts := { w.parts with values := w.parts.values ++ (operand v).values } } := by
  cases v with
  | ref column =>
    have same : w.parts.values ++ (operand (.ref column)).values = w.parts.values :=
      List.append_nil _
    rw [same]
    rfl
  | _ => rfl

theorem mapM_bindOperand (values : List Value) (w : Work) :
    values.mapM bindOperand w = .ok (values.map fun v => (operand v).text)
      { w with parts := { w.parts with
          values := w.parts.values ++ values.flatMap fun v => (operand v).values } } := by
  induction values generalizing w with
  | nil =>
    rw [List.flatMap_nil, List.append_nil]
    rfl
  | cons v rest ih =>
    rw [List.mapM_cons, bind_apply_of_ok (bindOperand_apply v w), bind_apply_of_ok (ih _),
      List.flatMap_cons, ← List.append_assoc]
    rfl

theorem mirrors_select (refines : w.parts.Refines c) (name : Value) :
    w.Mirrors (select name) (.ofExcept c (c.select name)) := by
  unfold select Condition.select
  cases given : name.fullString? with
  | some text => exact .done (refines.selected given) rfl
  | none => exact .fail refines rfl

theorem mirrors_addRaw (refines : w.parts.Refines c) (fragment : Value) (values : List Value) :
    w.Mirrors (addRaw fragment values) (.ofExcept c (c.addRaw fragment values)) := by
  unfold addRaw Condition.addRaw
  cases fragment.fullString? with
  | none => exact .fail refines rfl
  | some text =>
    have looked := forM_require Value.isScalar (.invalid .fragmentValue) values w
    dsimp only
    cases found : values.find? fun v => !v.isScalar with
    | some v =>
      rw [found] at looked
      exact .fail refines (bind_apply_of_error looked)
    | none =>
      rw [found] at looked
      have pushed := refines.push (.raw text values)
      have written : (Token.raw text values).sql.text = text := by
        rw [Token.sql, Sql.text_cons, Sql.text_nil, String.append_empty, Piece.text]
      have bound : (Token.raw text values).sql.values = values := List.append_nil _
      rw [written, bound] at pushed
      have same : w.parts.opened + (Token.raw text values).rise = w.parts.opened := Int.add_zero _
      rw [same] at pushed
      exact .done pushed (bind_apply_of_ok looked)

theorem mirrors_compareWith (refines : w.parts.Refines c) (sign : String) (part : Part)
    (accepts : Value → Bool) (v : Value) :
    w.Mirrors (compareWith sign part accepts v)
      (.ofExcept c (c.compareWith sign part accepts v)) := by
  unfold compareWith Condition.compareWith withColumn
  cases chosen : c.column with
  | none => exact .fail refines (bind_apply_of_error (requireColumn_none refines chosen))
  | some column =>
    have first := requireColumn_some refines chosen
    dsimp only
    cases accepts v with
    | false =>
      refine .fail refines ?_
      rw [bind_apply_of_ok first]
      rfl
    | true =>
      refine .compared refines (column ++ " " ++ sign ++ " " ++ (operand v).text)
        (operand v).values ?_ ?_ ?_
      · simp [Piece.text, String.append_assoc]
      · simp [Piece.values]
      · rw [bind_apply_of_ok first, bind_apply_of_ok (require_true _ w),
          bind_apply_of_ok (bindOperand_apply v w)]

theorem mirrors_between (refines : w.parts.Refines c) (low high : Value) :
    w.Mirrors (between low high) (.ofExcept c (c.between low high)) := by
  unfold between Condition.between withColumn
  cases chosen : c.column with
  | none => exact .fail refines (bind_apply_of_error (requireColumn_none refines chosen))
  | some column =>
    have first := requireColumn_some refines chosen
    dsimp only
    cases isOperand low with
    | false =>
      refine .fail refines ?_
      rw [bind_apply_of_ok first]
      rfl
    | true =>
      cases isOperand high with
      | false =>
        refine .fail refines ?_
        rw [bind_apply_of_ok first, bind_apply_of_ok (require_true _ w)]
        rfl
      | true =>
        refine .compared refines
          (column ++ " BETWEEN " ++ (operand low).text ++ " AND " ++ (operand high).text)
          ((operand low).values ++ (operand high).values) ?_ ?_ ?_
        · simp [Piece.text, String.append_assoc]
        · simp [Piece.values]
        · rw [bind_apply_of_ok first, bind_apply_of_ok (require_true _ w),
            bind_apply_of_ok (require_true _ w), bind_apply_of_ok (bindOperand_apply low w),
            bind_apply_of_ok (bindOperand_apply high _), List.append_assoc]

theorem mirrors_oneOf (refines : w.parts.Refines c) (values : List Value) :
    w.Mirrors (oneOf values) (.ofExcept c (c.oneOf values)) := by
  unfold oneOf Condition.oneOf withColumn
  cases chosen : c.column with
  | none => exact .fail refines (bind_apply_of_error (requireColumn_none refines chosen))
  | some column =>
    have first := requireColumn_some refines chosen
    have looked := forM_require isOperand (.invalid .operand) values w
    dsimp only
    cases values.isEmpty with
    | true =>
      refine .fail refines ?_
      rw [bind_apply_of_ok first]
      rfl
    | false =>
      -- All values are looked at before the first is bound, so a refusal comes before any write.
      cases found : values.find? fun v => !isOperand v with
      | some v =>
        rw [found] at looked
        refine .fail refines ?_
        rw [bind_apply_of_ok first, Bool.not_false, bind_apply_of_ok (require_true _ w),
          bind_apply_of_error looked]
      | none =>
        rw [found] at looked
        refine .compared refines
          (column ++ " IN (" ++ ", ".intercalate (values.map fun v => (operand v).text) ++ ")")
          (values.flatMap fun v => (operand v).values) ?_ ?_ ?_
        · have texts : (values.map fun v => [operand v]).map Sql.text =
              values.map fun v => (operand v).text := by
            rw [List.map_map]
            refine List.map_congr_left fun v _ => ?_
            simp only [Function.comp_apply, Sql.text_cons, Sql.text_nil, String.append_empty]
          rw [List.cons_append, Sql.text_cons, Sql.text_append, Sql.text_joinWith, texts]
          simp [Piece.text, String.append_assoc]
        · have bound : (values.map fun v => [operand v]).flatMap Sql.values =
              values.flatMap fun v => (operand v).values := by
            rw [List.flatMap_map]
            congr 1
            funext v
            exact List.append_nil _
          rw [List.cons_append, Sql.values_cons, Sql.values_append, Sql.values_joinWith]
          simp [Piece.values, bound]
        · rw [bind_apply_of_ok first, Bool.not_false, bind_apply_of_ok (require_true _ w),
            bind_apply_of_ok looked, bind_apply_of_ok (mapM_bindOperand values w)]

theorem mirrors_isNull (refines : w.parts.Refines c) :
    w.Mirrors isNull (.ofExcept c c.isNull) := by
  unfold isNull Condition.isNull withColumn
  cases chosen : c.column with
  | none => exact .fail refines (bind_apply_of_error (requireColumn_none refines chosen))
  | some column =>
    refine .compared refines (column ++ " IS NULL") [] ?_ rfl ?_
    · simp [Piece.text]
    · rw [bind_apply_of_ok (requireColumn_some refines chosen), List.append_nil]

theorem mirrors_openGroup (refines : w.parts.Refines c) :
    w.Mirrors openGroup (.done c.openGroup) :=
  .done (refines.pushBare .opening rfl rfl) rfl

theorem mirrors_closeGroup (refines : w.parts.Refines c) :
    w.Mirrors closeGroup (.done c.closeGroup) :=
  .done (refines.pushBare .closing rfl rfl) rfl

theorem mirrors_toggleGroup (refines : w.parts.Refines c) :
    w.Mirrors toggleGroup (.done c.toggleGroup) := by
  have chosen : toggleGroup w = if c.depth = 0 then openGroup w else closeGroup w := by
    rw [toggleGroup, get_bind_apply, refines.opened]
    split <;> rfl
  unfold Condition.toggleGroup
  by_cases none : c.depth = 0
  · rw [if_pos none] at chosen ⊢
    exact .done (refines.pushBare .opening rfl rfl) chosen
  · rw [if_neg none] at chosen ⊢
    exact .done (refines.pushBare .closing rfl rfl) chosen

theorem mirrors_connect (refines : w.parts.Refines c) (k : Connective) :
    w.Mirrors (append (" " ++ k.word ++ " ")) (.done (c.push (.connective k))) := by
  have written : " " ++ k.word ++ " " = (Token.connective k).sql.text := by cases k <;> rfl
  have pushed := refines.pushBare (.connective k) rfl written
  have same : w.parts.opened + (Token.connective k).rise = w.parts.opened := Int.add_zero _
  rw [same] at pushed
  exact .done pushed rfl

theorem mirrors_check (refines : w.parts.Refines c) :
    w.Mirrors check (.ofExcept c (c.build.map fun _ => c)) := by
  have built := refines.build
  cases text : c.build with
  | error e =>
    rw [text] at built
    refine .fail refines ?_
    rw [check, get_bind_apply, built]
    rfl
  | ok sql =>
    rw [text] at built
    refine .done refines ?_
    rw [check, get_bind_apply, built]
    rfl

end Work

end SqlBuilder.Condition
