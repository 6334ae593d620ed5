import SqlBuilder.Proofs.Outcome
import SqlBuilder.Select.Rendering

set_option autoImplicit false

namespace SqlBuilder

theorem Sql.values_joinWith (separator : String) (parts : List Sql) :
    values (joinWith separator parts) = parts.flatMap values := by
  induction parts with
  | nil => rfl
  | cons part rest ih =>
    cases rest with
    | nil => simp [joinWith]
    | cons next rest =>
      rw [joinWith_cons_cons, values_append, values_cons, ih, List.flatMap_cons]
      rfl

theorem Sql.text_joinWith (separator : String) (parts : List Sql) :
    (joinWith separator parts).text = separator.intercalate (parts.map text) := by
  induction parts with
  | nil => rw [joinWith, List.map_nil, String.intercalate_nil, text_nil]
  | cons part rest ih =>
    cases rest with
    | nil => rw [joinWith, List.map_cons, List.map_nil, String.intercalate_singleton]
    | cons next rest =>
      have others : text (joinWith separator (next :: rest)) =
          separator.intercalate (next.text :: rest.map text) := ih
      rw [joinWith_cons_cons, text_append, text_cons, others, List.map_cons, List.map_cons,
        String.intercalate_cons_cons, String.append_assoc]
      rfl

theorem Sql.text_ofText (s : String) : (Sql.ofText s).text = s := by
  simp [ofText, Piece.text]

/-- The text of a clause that ends with a condition. -/
theorem Condition.text_clause (front : String) (c : Condition) :
    Sql.text (.literal front :: c.sql.trim) = front ++ c.text := by
  rw [Sql.text_cons, Sql.text_trim]
  rfl

theorem Condition.build_eq_ok {c : Condition} {sql : Sql} :
    c.build = .ok sql ↔ c.fault? = none ∧ c.sql.trim = sql := by
  unfold build
  cases c.fault? <;> simp

namespace Select

/-- A join, when its condition has no fault. -/
def joinPart (j : Join) : Sql :=
  .literal (j.kind.keyword ++ " JOIN " ++ j.table ++ " ON ") :: j.condition.sql.trim

/-- A clause made of a keyword and a condition that has no fault. -/
def conditionPart (keyword : String) (c : Condition) : Sql :=
  .literal (keyword ++ " ") :: c.sql.trim

/-- A clause made of a keyword and a number. -/
def countPart (keyword : String) (n : Nat) : Sql := .ofText (keyword ++ " " ++ toString n)

theorem text_head (s : Select) (table : String) : (s.head table).text =
    "SELECT " ++ (if s.distinct then "DISTINCT " else "") ++ columnList s.columns ++ " FROM " ++
      table :=
  Sql.text_ofText _

theorem text_countPart (keyword : String) (n : Nat) :
    (countPart keyword n).text = keyword ++ " " ++ toString n :=
  Sql.text_ofText _

/-- The parts of a query that renders, in their order. -/
def parts (s : Select) (table : String) : List Sql :=
  s.head table :: s.joins.map joinPart ++ s.filter.toList.map (conditionPart "WHERE") ++
    s.groupClause ++ s.having.toList.map (conditionPart "HAVING") ++ s.orderClause ++
    s.limit.toList.map (countPart "LIMIT") ++ s.offset.toList.map (countPart "OFFSET") ++
    s.unions.map renderUnion

theorem parts_eq (s : Select) (table : String) :
    s.parts table = s.head table :: (s.parts table).tail := rfl

/-- What holds of every clause that a query has holds of all its parts behind the head. -/
theorem forall_parts {P : Sql → Prop} {s : Select} {table : String}
    (joins : ∀ j ∈ s.joins, P (joinPart j))
    (filter : ∀ c, s.filter = some c → P (conditionPart "WHERE" c))
    (groups : ∀ part ∈ s.groupClause, P part)
    (having : ∀ c, s.having = some c → P (conditionPart "HAVING" c))
    (orders : ∀ part ∈ s.orderClause, P part) (limit : ∀ n, P (countPart "LIMIT" n))
    (offset : ∀ n, P (countPart "OFFSET" n)) (unions : ∀ u ∈ s.unions, P (renderUnion u)) :
    ∀ part ∈ (s.parts table).tail, P part := by
  intro part member
  simp only [parts, List.cons_append, List.tail_cons, List.mem_append, List.mem_map,
    Option.mem_toList] at member
  rcases member with (((((((member | member) | member) | member) | member) | member) |
    member) | member)
  · obtain ⟨j, given, rfl⟩ := member
    exact joins j given
  · obtain ⟨c, given, rfl⟩ := member
    exact filter c given
  · exact groups part member
  · obtain ⟨c, given, rfl⟩ := member
    exact having c given
  · exact orders part member
  · obtain ⟨n, _, rfl⟩ := member
    exact limit n
  · obtain ⟨n, _, rfl⟩ := member
    exact offset n
  · obtain ⟨u, given, rfl⟩ := member
    exact unions u given

/-- No condition of the query has a fault. -/
structure Faultless (s : Select) : Prop where
  joins : ∀ j ∈ s.joins, j.condition.fault? = none
  filter : ∀ c, s.filter = some c → c.fault? = none
  having : ∀ c, s.having = some c → c.fault? = none

variable {s : Select} {sql : Sql}

theorem renderJoins_eq_ok {joins : List Join} {rendered : List Sql} :
    joins.mapM renderJoin = .ok rendered ↔
      (∀ j ∈ joins, j.condition.fault? = none) ∧ joins.map joinPart = rendered := by
  constructor
  · intro ok
    have pairs := Except.mapM_eq_ok.mp ok
    clear ok
    induction pairs with
    | nil => exact ⟨nofun, rfl⟩
    | @cons j part joins rendered first _ ih =>
      obtain ⟨_, built, rfl⟩ := Except.map_eq_ok.mp first
      obtain ⟨faultless, rfl⟩ := Condition.build_eq_ok.mp built
      obtain ⟨others, rfl⟩ := ih
      exact ⟨List.forall_mem_cons.mpr ⟨faultless, others⟩, rfl⟩
  · rintro ⟨faultless, rfl⟩
    rw [Except.mapM_eq_ok, List.forall₂_map_right_iff, List.forall₂_same]
    intro j member
    exact Except.map_eq_ok.mpr ⟨_, Condition.build_eq_ok.mpr ⟨faultless j member, rfl⟩, rfl⟩

theorem renderCondition_eq_ok {keyword : String} {f : Option Condition} {rendered : List Sql} :
    renderCondition keyword f = .ok rendered ↔
      (∀ c, f = some c → c.fault? = none) ∧ f.toList.map (conditionPart keyword) = rendered := by
  cases f with
  | none => simp [renderCondition]
  | some c =>
    constructor
    · intro ok
      obtain ⟨_, built, rfl⟩ := Except.map_eq_ok.mp ok
      obtain ⟨faultless, rfl⟩ := Condition.build_eq_ok.mp built
      exact ⟨by simpa using faultless, rfl⟩
    · rintro ⟨faultless, rfl⟩
      exact Except.map_eq_ok.mpr ⟨_, Condition.build_eq_ok.mpr ⟨faultless c rfl, rfl⟩, rfl⟩

/-- The number, if there is one, has a decimal text. -/
def Writable (n : Option Nat) : Prop :=
  ∀ m, n = some m → (Nat.toDigits 10 m).length ≤ Chars.digitLimit

/-- A count is written as a decimal number, if that is not too long. -/
theorem countClause_eq_ok {keyword : String} {n : Option Nat} {rendered : List Sql} :
    countClause keyword n = .ok rendered ↔
      Writable n ∧ n.toList.map (countPart keyword) = rendered := by
  cases n with
  | none => simp [countClause, Writable]
  | some n =>
    have short : Writable (some n) ↔
        ¬ Chars.digitLimit < (Nat.toDigits 10 (n : Int).natAbs).length := by
      rw [Int.natAbs_natCast, Nat.not_lt]
      exact ⟨fun written => written n rfl, fun written m same => Option.some.inj same ▸ written⟩
    rw [countClause, Except.map_eq_ok, Value.integerText, short]
    split
    · next long =>
      refine iff_of_false ?_ fun written => absurd long written.1
      rintro ⟨_, refused, _⟩
      cases refused
    · next written =>
      simp only [Except.ok.injEq, exists_eq_left']
      exact (and_iff_right written).symm

/-- A query renders exactly when it has a table, no fault and a window that can be written. It is
its parts then, with spaces between them. -/
theorem render_eq_ok : s.render = .ok sql ↔
    ∃ table, s.table = some table ∧ s.Faultless ∧ Writable s.limit ∧ Writable s.offset ∧
      Sql.joinWith " " (s.parts table) = sql := by
  unfold render
  cases s.table with
  | none => simp
  | some table =>
    simp only [Except.bind_eq_ok, renderJoins_eq_ok, renderCondition_eq_ok, countClause_eq_ok, pure,
      Except.pure, Except.ok.injEq, Option.some.injEq, exists_eq_left']
    constructor
    · rintro ⟨_, ⟨joins, rfl⟩, _, ⟨filter, rfl⟩, _, ⟨having, rfl⟩, _, ⟨limit, rfl⟩, _,
        ⟨offset, rfl⟩, rfl⟩
      exact ⟨⟨joins, filter, having⟩, limit, offset, rfl⟩
    · rintro ⟨⟨joins, filter, having⟩, limit, offset, rfl⟩
      exact ⟨_, ⟨joins, rfl⟩, _, ⟨filter, rfl⟩, _, ⟨having, rfl⟩, _, ⟨limit, rfl⟩, _,
        ⟨offset, rfl⟩, rfl⟩

theorem render_of_ok (rendered : s.render = .ok sql) :
    ∃ table, s.table = some table ∧ s.Faultless ∧ Sql.joinWith " " (s.parts table) = sql := by
  obtain ⟨table, named, faultless, _, _, spelled⟩ := render_eq_ok.mp rendered
  exact ⟨table, named, faultless, spelled⟩

/-- The rendered SQL holds exactly the bound values, in their order. -/
theorem values_of_render (rendered : s.render = .ok sql) : sql.values = s.values := by
  obtain ⟨table, _, _, rfl⟩ := render_of_ok rendered
  have head : (s.head table).values = [] := rfl
  have joins : (s.joins.map joinPart).flatMap Sql.values =
      s.joins.flatMap (·.condition.values) := by
    simp [List.flatMap_map, joinPart, Piece.values, Condition.values]
  have conditions : ∀ keyword (f : Option Condition),
      (f.toList.map (conditionPart keyword)).flatMap Sql.values = conditionValues f := by
    intro keyword f
    cases f <;> simp [conditionPart, conditionValues, Piece.values, Condition.values]
  have counts : ∀ keyword (n : Option Nat),
      (n.toList.map (countPart keyword)).flatMap Sql.values = [] := by
    intro keyword n
    cases n <;> rfl
  have groups : s.groupClause.flatMap Sql.values = [] := by
    unfold groupClause
    split <;> rfl
  have orders : s.orderClause.flatMap Sql.values = [] := by
    unfold orderClause
    split <;> rfl
  have unions : (s.unions.map renderUnion).flatMap Sql.values =
      s.unions.flatMap (·.query.values) := List.flatMap_map ..
  rw [Sql.values_joinWith, parts]
  simp only [List.flatMap_cons, List.flatMap_append, List.cons_append, head, joins, conditions,
    counts, groups, orders, unions, List.append_nil, List.nil_append]
  rfl

end Select

end SqlBuilder
