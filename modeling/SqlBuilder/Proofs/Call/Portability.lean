import SqlBuilder.Proofs.Call.Legibility
import SqlBuilder.Proofs.Condition.Respelling

set_option autoImplicit false

namespace SqlBuilder

/-- The SQL opens with the same mark, leaves the same one pending and holds the same in every
spelling. -/
def Sql.Marked (opens : Option Mark) (sql : Sql) : Prop :=
  ∀ l, ∃ pends, SameMarks sql.text (sql.respell l).text opens pends

/-- A comparison that may stand in any spelling, and that all drivers read alike. -/
structure Sql.Portable (sql : Sql) : Prop where
  calm : sql.Calm
  respelled : ∀ l, Sql.Calm (sql.respell l)
  marks : ∀ l, SameMarks sql.text (sql.respell l).text none none

/-- A query that may stand in any spelling, and that all drivers read alike. -/
structure Sql.Embeddable (sql : Sql) : Prop where
  fitting : sql.Fitting none
  respelled : ∀ l, Sql.Fitting none (sql.respell l)
  marks : sql.Marked none

/-- Plain names, and no callback that has its query read. -/
def unread : Vocabulary := { identifiers with reads := False }

def portable : Diction where
  toVocabulary := unread
  comparison := Sql.Portable
  query := Sql.Embeddable

variable {l : DriverKind}

namespace Token.Spoken

variable {t : Token} (spoken : t.Spoken portable)

include spoken

theorem calm : t.Spoken calm := by
  cases t with
  | comparison negated sql => exact Sql.Portable.calm spoken
  | _ => exact spoken

theorem respell (l : DriverKind) : (t.respell l).Spoken SqlBuilder.calm := by
  cases t with
  | comparison negated sql => exact Sql.Portable.respelled spoken l
  | _ => exact spoken

theorem respellable (l : DriverKind) : t.Respellable l := by
  have legible := spoken.calm.legible
  cases t with
  | comparison negated sql =>
    have own : ∀ negated, (comparison negated sql).Spoken portable := fun _ => spoken
    exact respellable_comparison negated (fun negated => (own negated).calm.legible)
      (fun negated => ((own negated).respell l).legible) (Sql.Portable.marks spoken l)
  | _ => exact respellable_of_same rfl legible

end Token.Spoken

namespace Condition.Spoken

variable {c : Condition} (spoken : c.Spoken portable)

include spoken

theorem calm : c.Spoken calm :=
  ⟨fun t token => (spoken.tokens t token).calm, spoken.column⟩

theorem respell (l : DriverKind) : (c.respell l).Spoken SqlBuilder.calm := by
  refine ⟨fun t token => ?_, spoken.column⟩
  obtain ⟨u, given, rfl⟩ := List.mem_map.mp token
  exact (spoken.tokens u given).respell l

theorem respellable (l : DriverKind) : ∀ t ∈ c.tokens, t.Respellable l :=
  fun t token => (spoken.tokens t token).respellable l

end Condition.Spoken

/-- Steps that commute with a map make a computation that does. -/
theorem Except.bind_comm {ε α β γ δ : Type} {f : α → β} {h : γ → δ} {x : Except ε α}
    {y : Except ε β} {next : α → Except ε γ} {next' : β → Except ε δ} (first : y = x.map f)
    (second : ∀ a, next' (f a) = (next a).map h) : (y >>= next') = (x >>= next).map h := by
  subst first
  cases x with
  | error e => rfl
  | ok a => exact second a

namespace Select

variable {s : Select}

theorem Spoken.calm (spoken : s.Spoken portable) : s.Spoken calm where
  table := spoken.table
  columns := spoken.columns
  joins j given := ⟨(spoken.joins j given).1, (spoken.joins j given).2.calm⟩
  filter c given := (spoken.filter c given).calm
  having c given := (spoken.having c given).calm
  groups := spoken.groups
  orders := spoken.orders
  unions u given := (spoken.unions u given).fitting

theorem Spoken.respell (spoken : s.Spoken portable) (l : DriverKind) :
    (s.respell l).Spoken SqlBuilder.calm where
  table := spoken.table
  columns := spoken.columns
  joins j member := by
    obtain ⟨i, given, rfl⟩ := List.mem_map.mp member
    exact ⟨(spoken.joins i given).1, (spoken.joins i given).2.respell l⟩
  filter c member := by
    obtain ⟨d, given, rfl⟩ := Option.map_eq_some_iff.mp member
    exact (spoken.filter d given).respell l
  having c member := by
    obtain ⟨d, given, rfl⟩ := Option.map_eq_some_iff.mp member
    exact (spoken.having d given).respell l
  groups := spoken.groups
  orders := spoken.orders
  unions u member := by
    obtain ⟨v, given, rfl⟩ := List.mem_map.mp member
    exact (spoken.unions v given).respelled l

theorem renderJoin_respell {j : Join} (spoken : j.condition.Spoken portable) :
    renderJoin (j.respell l) = (renderJoin j).map (Sql.respell l) := by
  have built := Condition.build_respell (spoken.respellable l)
  simp only [renderJoin, Join.respell, built]
  cases j.condition.build <;> rfl

theorem renderJoins_respell {joins : List Join}
    (spoken : ∀ j ∈ joins, j.condition.Spoken portable) :
    (joins.map (Join.respell l)).mapM renderJoin =
      (joins.mapM renderJoin).map (List.map (Sql.respell l)) := by
  induction joins with
  | nil => rfl
  | cons j rest ih =>
    obtain ⟨first, others⟩ := List.forall_mem_cons.mp spoken
    rw [List.map_cons, List.mapM_cons, List.mapM_cons, renderJoin_respell first, ih others]
    cases renderJoin j with
    | error e => rfl
    | ok part => cases rest.mapM renderJoin <;> rfl

theorem renderCondition_respell {keyword : String} {f : Option Condition}
    (spoken : ∀ c, f = some c → c.Spoken portable) :
    renderCondition keyword (f.map (Condition.respell l)) =
      (renderCondition keyword f).map (List.map (Sql.respell l)) := by
  cases f with
  | none => rfl
  | some c =>
    have built := Condition.build_respell ((spoken c rfl).respellable l)
    simp only [Option.map_some, renderCondition, built]
    cases c.build <;> rfl

theorem countClause_respell (keyword : String) (n : Option Nat) :
    countClause keyword n = (countClause keyword n).map (List.map (Sql.respell l)) := by
  cases n with
  | none => rfl
  | some n =>
    simp only [countClause]
    cases Value.integerText n <;> rfl

theorem common_groupClause (s : Select) : ∀ part ∈ s.groupClause, part.Common := by
  unfold groupClause
  split
  · nofun
  · exact List.forall_mem_singleton.mpr (.literal _)

theorem common_orderClause (s : Select) : ∀ part ∈ s.orderClause, part.Common := by
  unfold orderClause
  split
  · nofun
  · exact List.forall_mem_singleton.mpr (.literal _)

/-- A respelt query renders to the respelt SQL, or fails for the same reason. -/
theorem render_respell (spoken : s.Spoken portable) :
    (s.respell l).render = s.render.map (Sql.respell l) := by
  have source : (s.respell l).table = s.table := rfl
  unfold render
  rw [source]
  cases s.table with
  | none => rfl
  | some table =>
    have conditions : ∀ j ∈ s.joins, j.condition.Spoken portable := fun j given =>
      (spoken.joins j given).2
    refine Except.bind_comm (renderJoins_respell conditions) fun joins => ?_
    refine Except.bind_comm (renderCondition_respell spoken.filter) fun filter => ?_
    refine Except.bind_comm (renderCondition_respell spoken.having) fun having => ?_
    refine Except.bind_comm (countClause_respell (l := l) "LIMIT" s.limit) fun limit => ?_
    refine Except.bind_comm (countClause_respell (l := l) "OFFSET" s.offset) fun offset => ?_
    refine congrArg Except.ok ?_
    have groups := Sql.map_respell_of_common s.common_groupClause l
    have orders := Sql.map_respell_of_common s.common_orderClause l
    have head : (s.head table).respell l = s.head table := rfl
    rw [Sql.respell_joinWith]
    have unions : (s.respell l).unions.map renderUnion =
        (s.unions.map renderUnion).map (Sql.respell l) := by
      rw [List.map_map]
      exact List.map_map
    simp only [List.map_cons, List.map_append, groups, orders, head, unions]
    rfl

end Select

namespace Sql

/-- SQL without date parts has the same marks as itself. -/
theorem Marked.of_common {sql : Sql} {opens : Option Mark} (same : sql.Common)
    (fitting : sql.Fitting opens) : sql.Marked opens := by
  intro l
  obtain ⟨pends, portion⟩ := fitting
  rw [same l]
  exact ⟨pends, .refl portion.toReads⟩

theorem Marked.cons {word : String} {sql : Sql} {opens : Option Mark} (lead : Lead word)
    (marked : sql.Marked opens) : Marked none (.literal word :: sql) := by
  intro l
  obtain ⟨pends, marks⟩ := marked l
  refine ⟨pends, ?_⟩
  rw [respell_cons, text_cons, text_cons]
  exact (SameMarks.refl lead.still.toReads).append marks

theorem Marked.joinWith {part : Sql} {rest : List Sql} {opens : Option Mark}
    (first : part.Marked opens) (others : ∀ other ∈ rest, ∃ seen, other.Marked seen) :
    (joinWith " " (part :: rest)).Marked opens := by
  induction rest generalizing part opens with
  | nil => exact first
  | cons next rest ih =>
    obtain ⟨seen, marked⟩ := others next List.mem_cons_self
    have tail := ih marked fun other member => others other (List.mem_cons_of_mem next member)
    intro l
    obtain ⟨_, here⟩ := first l
    obtain ⟨pends, behind⟩ := tail l
    refine ⟨pends, ?_⟩
    rw [joinWith_cons_cons, respell_append, respell_cons, text_append, text_append, text_cons,
      text_cons]
    exact here.append behind.space

end Sql

theorem Condition.Spoken.marked {c : Condition} (spoken : c.Spoken portable)
    (faultless : c.fault? = none) : ∃ opens, c.sql.trim.Marked opens :=
  ⟨_, fun l => ⟨_, marks_of_faultless (spoken.respellable l) faultless⟩⟩

namespace Select

variable {s : Select}

theorem lead_joinPart {j : Join} (named : identifiers.name j.table) :
    Lead (j.kind.keyword ++ " JOIN " ++ j.table ++ " ON ") := by
  have word : Lead (j.kind.keyword ++ " JOIN ") := by
    cases j.kind <;> exact ⟨rfl, _, _, rfl, rfl⟩
  exact (word.append (plain_name named).silent).append rfl

theorem lead_renderUnion (u : Union) : Lead (if u.all then "UNION ALL " else "UNION ") := by
  split <;> exact ⟨rfl, _, _, rfl, rfl⟩

theorem marked_parts (spoken : s.Spoken portable) (faultless : s.Faultless) (table : String) :
    ∀ part ∈ (s.parts table).tail, ∃ opens, part.Marked opens := by
  have clause : ∀ {word : String} {c : Condition}, Lead word → c.Spoken portable →
      c.fault? = none → ∃ opens, Sql.Marked opens (.literal word :: c.sql.trim) := by
    intro word c lead spoken faultless
    obtain ⟨_, marked⟩ := spoken.marked faultless
    exact ⟨none, marked.cons lead⟩
  exact forall_parts
    (fun j given => clause (lead_joinPart (spoken.joins j given).1) (spoken.joins j given).2
      (faultless.joins j given))
    (fun c given => clause ⟨rfl, _, _, rfl, rfl⟩ (spoken.filter c given)
      (faultless.filter c given))
    (fun part member => ⟨none, .of_common (s.common_groupClause part member)
      (fitting_groupClause spoken.calm part member)⟩)
    (fun c given => clause ⟨rfl, _, _, rfl, rfl⟩ (spoken.having c given)
      (faultless.having c given))
    (fun part member => ⟨some .order, .of_common (s.common_orderClause part member)
      (fitting_orderClause spoken.calm part member)⟩)
    (fun n => ⟨none, .of_common (.literal _) (fitting_countPart n ⟨rfl, _, _, rfl, rfl⟩)⟩)
    (fun n => ⟨none, .of_common (.literal _) (fitting_countPart n ⟨rfl, _, _, rfl, rfl⟩)⟩)
    (fun u given => ⟨none, (spoken.unions u given).marks.cons (lead_renderUnion u)⟩)

theorem embeddable_of_render {sql : Sql} (spoken : s.Spoken portable)
    (rendered : s.render = .ok sql) : sql.Embeddable where
  fitting := fitting_of_render spoken.calm rendered
  respelled l := by
    refine fitting_of_render (spoken.respell l) ?_
    rw [render_respell spoken, rendered]
    rfl
  marks := by
    obtain ⟨table, named, faultless, rfl⟩ := render_of_ok rendered
    rw [parts_eq]
    exact .joinWith (.of_common (.literal _) (fitting_head spoken.calm named))
      (marked_parts spoken faultless table)

end Select

namespace Sql

/-- A comparison without date parts. -/
theorem Portable.of_common {sql : Sql} (same : sql.Common) (calm : sql.Calm) : sql.Portable where
  calm := calm
  respelled l := (same l).symm ▸ calm
  marks l := by
    rw [same l]
    exact .refl calm.harmless.toReads

/-- A comparison with a query between parentheses. -/
theorem Portable.enclosed {opening word : String} {sql : Sql} (spelled : opening = word ++ "(")
    (lead : Lead word) (inside : sql.Embeddable) : (enclosed opening sql).Portable where
  calm := by
    rw [spelled]
    exact .enclosed lead inside.fitting
  respelled l := by
    rw [respell_enclosed, spelled]
    exact .enclosed lead (inside.respelled l)
  marks l := by
    obtain ⟨pends, marks⟩ := inside.marks l
    have front : Reads (word ++ "(") none (some .opening) := lead.still.toReads.append .opening
    rw [respell_enclosed, spelled, text_group, text_group]
    exact (((SameMarks.refl front).append marks).append (.refl .closing)).of_closing

end Sql

/-- Every comparison and every query that is written with plain names is portable. -/
theorem portable_closed : portable.Closed where
  compare column s v named accepted cites :=
    .of_common ((Sql.Common.literal _).append (.operand v))
      (calm_closed.compare column s v named accepted cites)
  like column v named accepted cites :=
    .of_common ((Sql.Common.literal _).append (.operand v))
      (calm_closed.like column v named accepted cites)
  between column low high named first second below above :=
    .of_common (((Sql.Common.literal _).append (.operand low)).append
        ((Sql.Common.literal " AND ").append (.operand high)))
      (calm_closed.between column low high named first second below above)
  oneOf column values named given accepted cites :=
    .of_common ((Sql.Common.literal _).append ((Sql.Common.operands values).append (.literal ")")))
      (calm_closed.oneOf column values named given accepted cites)
  isNull column named := .of_common (.literal _) (calm_closed.isNull column named)
  part kind part column v named accepted cites := by
    have calm := fun kind => calm_closed.part kind part column v named accepted cites
    have still : ∀ kind,
        Still (Sql.text [.extract kind part column, .literal " = ", Condition.operand v]) none
          none := by
      intro kind
      rcases (calm kind).plain with still | ⟨_, _, shape, _⟩
      · exact still
      · simp [Sql.enclosed] at shape
    refine ⟨calm kind, fun l => ?_, fun l => ?_⟩
    · rw [Sql.respell_cons, Sql.respell_cons, Sql.Common.operand v l]
      exact calm l
    · rw [Sql.respell_cons, Sql.respell_cons, Sql.Common.operand v l]
      exact .of_still (still kind) (still l)
  inQuery column sql named inside := by
    have spelled : column ++ " IN (" = column ++ " IN " ++ "(" := by
      rw [String.append_assoc]
      rfl
    exact .enclosed spelled ((plain_name named).toLead.append rfl) inside
  existsIn sql inside := by
    have lead : Lead "EXISTS " := ⟨rfl, _, _, rfl, rfl⟩
    exact .enclosed rfl lead inside
  quantified column sign quantifier sql named inside := by
    have operator : Silent sign.spelling := by cases sign <;> rfl
    have word : Silent quantifier.keyword := by cases quantifier <;> rfl
    have spelled : column ++ " " ++ sign.spelling ++ " " ++ quantifier.keyword ++ " (" =
        column ++ " " ++ sign.spelling ++ " " ++ quantifier.keyword ++ " " ++ "(" := by
      simp only [String.append_assoc]
      rfl
    have lead := (((plain_name named).toLead.append (t := " ") rfl).append operator).append
      (t := " ") rfl
    exact .enclosed spelled ((lead.append word).append rfl) inside
  render s sql spoken rendered := Select.embeddable_of_render spoken rendered

end SqlBuilder
