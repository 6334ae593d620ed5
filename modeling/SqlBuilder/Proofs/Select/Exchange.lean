import SqlBuilder.Proofs.Condition.Exchange
import SqlBuilder.Proofs.Select.Rendering

set_option autoImplicit false

namespace SqlBuilder

variable {R : Value → Value → Prop}

structure Join.Exchanged (R : Value → Value → Prop) (j k : Join) : Prop where
  kind : k.kind = j.kind
  table : k.table = j.table
  condition : j.condition.Exchanged R k.condition

structure Union.Exchanged (R : Value → Value → Prop) (u v : Union) : Prop where
  all : v.all = u.all
  query : u.query.Exchanged R v.query

/-- The condition of a clause, when there is one. -/
abbrev ClauseExchanged (R : Value → Value → Prop) : Option Condition → Option Condition → Prop :=
  Option.Rel (Condition.Exchanged R)

structure Select.Exchanged (R : Value → Value → Prop) (s t : Select) : Prop where
  table : t.table = s.table
  columns : t.columns = s.columns
  distinct : t.distinct = s.distinct
  joins : List.Forall₂ (Join.Exchanged R) s.joins t.joins
  filter : ClauseExchanged R s.filter t.filter
  having : ClauseExchanged R s.having t.having
  groups : t.groups = s.groups
  orders : t.orders = s.orders
  limit : t.limit = s.limit
  offset : t.offset = s.offset
  unions : List.Forall₂ (Union.Exchanged R) s.unions t.unions

theorem ClauseExchanged.getD {f g : Option Condition} (same : ClauseExchanged R f g) :
    (f.getD .blank).Exchanged R (g.getD .blank) := by
  cases same with
  | none => exact Condition.blank_exchanged
  | some same => exact same

namespace Select

variable {s t : Select}

theorem empty_exchanged : empty.Exchanged R empty where
  table := rfl
  columns := rfl
  distinct := rfl
  joins := .nil
  filter := .none
  having := .none
  groups := rfl
  orders := rfl
  limit := rfl
  offset := rfl
  unions := .nil

theorem renderJoin_agree {j k : Join} (same : j.Exchanged R k) :
    Except.Agree Eq (Sql.Exchanged R) (renderJoin j) (renderJoin k) := by
  unfold renderJoin
  rw [same.kind, same.table]
  exact same.condition.build.map fun a b condition => .cons _ condition

theorem renderCondition_agree {keyword : String} {f g : Option Condition}
    (same : ClauseExchanged R f g) :
    Except.Agree Eq (List.Forall₂ (Sql.Exchanged R)) (renderCondition keyword f)
      (renderCondition keyword g) := by
  cases same with
  | none => exact .nil
  | some same => exact same.build.map fun a b condition => .cons (.cons _ condition) .nil

theorem renderUnions_exchanged {unions others : List Union}
    (pairs : List.Forall₂ (Union.Exchanged R) unions others) :
    List.Forall₂ (Sql.Exchanged R) (unions.map renderUnion) (others.map renderUnion) := by
  induction pairs with
  | nil => exact .nil
  | cons first _ ih =>
    refine .cons ?_ ih
    unfold renderUnion
    rw [first.all]
    exact .cons _ first.query

/-- Texts without operands are the same SQL in both. -/
theorem texts_exchanged {parts : List Sql} (plain : ∀ part ∈ parts, part.values = []) :
    List.Forall₂ (Sql.Exchanged R) parts parts := by
  induction parts with
  | nil => exact .nil
  | cons part rest ih =>
    obtain ⟨first, others⟩ := List.forall_mem_cons.mp plain
    refine .cons ⟨rfl, ?_⟩ (ih others)
    rw [first]
    exact .nil

theorem countClause_agree (keyword : String) (n : Option Nat) :
    Except.Agree Eq (List.Forall₂ (Sql.Exchanged R)) (countClause keyword n)
      (countClause keyword n) := by
  cases n with
  | none => exact .nil
  | some n =>
    refine Except.Agree.map (S := Eq) .refl ?_
    rintro text _ rfl
    exact .cons (.literal _) .nil

theorem Exchanged.render (same : s.Exchanged R t) :
    Except.Agree Eq (Sql.Exchanged R) s.render t.render := by
  have head : ∀ table, t.head table = s.head table := by
    intro table
    unfold Select.head
    rw [same.distinct, same.columns]
  have groups : t.groupClause = s.groupClause := by
    unfold groupClause
    rw [same.groups]
  have orders : t.orderClause = s.orderClause := by
    unfold orderClause
    rw [same.orders]
  have plainGroups : ∀ part ∈ s.groupClause, part.values = [] := by
    unfold groupClause
    split
    · nofun
    · intro part member
      rw [List.mem_singleton.mp member]
      rfl
  have plainOrders : ∀ part ∈ s.orderClause, part.values = [] := by
    unfold orderClause
    split
    · nofun
    · intro part member
      rw [List.mem_singleton.mp member]
      rfl
  unfold Select.render
  rw [same.table]
  cases s.table with
  | none => rfl
  | some table =>
    simp only [groups, orders, head, same.limit, same.offset]
    refine (Except.Agree.mapM same.joins fun _ _ => renderJoin_agree).bind fun _ _ joins => ?_
    refine (renderCondition_agree same.filter).bind fun _ _ filter => ?_
    refine (renderCondition_agree same.having).bind fun _ _ having => ?_
    refine (countClause_agree (R := R) "LIMIT" s.limit).bind fun _ _ limit => ?_
    refine (countClause_agree (R := R) "OFFSET" s.offset).bind fun _ _ offset => ?_
    have first : Sql.Exchanged R (s.head table) (s.head table) := .literal _
    have clauses := List.rel_append (List.rel_append (List.rel_append (List.rel_append
      (List.rel_append (List.rel_append (List.rel_append (.cons first joins) filter)
        (texts_exchanged plainGroups)) having) (texts_exchanged plainOrders)) limit) offset)
      (renderUnions_exchanged same.unions)
    exact Sql.Exchanged.joinWith clauses

theorem Exchanged.toSql (same : s.Exchanged R t) : t.toSql = s.toSql := by
  refine (Except.Agree.map same.render fun a b rendered => ?_).eq.symm
  rw [rendered.text]

theorem conditionValues_exchanged {f g : Option Condition} (same : ClauseExchanged R f g) :
    List.Forall₂ R (conditionValues f) (conditionValues g) := by
  cases same with
  | none => exact .nil
  | some same => exact same.values

theorem Exchanged.values (same : s.Exchanged R t) : List.Forall₂ R s.values t.values := by
  have joins : List.Forall₂ R (s.joins.flatMap (·.condition.values))
      (t.joins.flatMap (·.condition.values)) :=
    List.rel_flatMap same.joins fun _ _ join => join.condition.values
  have unions : List.Forall₂ R (s.unions.flatMap (·.query.values))
      (t.unions.flatMap (·.query.values)) :=
    List.rel_flatMap same.unions fun _ _ union => union.query.values
  exact List.rel_append (List.rel_append (List.rel_append joins
    (conditionValues_exchanged same.filter)) (conditionValues_exchanged same.having)) unions

end Select

end SqlBuilder
