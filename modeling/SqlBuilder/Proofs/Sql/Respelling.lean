import SqlBuilder.Proofs.Condition.Fragment
import SqlBuilder.Proofs.Select.Rendering
import SqlBuilder.Select.Basic
import SqlBuilder.Statement

set_option autoImplicit false

namespace SqlBuilder

/-- A date part as a driver of this kind spells it; any other piece is spelt alike by all. -/
def Piece.respell (l : DriverKind) : Piece → Piece
  | .extract _ part column => .extract l part column
  | p => p

namespace Sql

variable (l : DriverKind)

def respell (sql : Sql) : Sql := sql.map (Piece.respell l)

@[simp] theorem respell_nil : respell l [] = [] := rfl

@[simp] theorem respell_cons (p : Piece) (sql : Sql) :
    respell l (p :: sql) = p.respell l :: respell l sql := rfl

@[simp] theorem respell_append (a b : Sql) : respell l (a ++ b) = respell l a ++ respell l b :=
  List.map_append

theorem respell_joinWith (separator : String) (parts : List Sql) :
    respell l (joinWith separator parts) = joinWith separator (parts.map (respell l)) := by
  induction parts with
  | nil => rfl
  | cons part rest ih =>
    cases rest with
    | nil => rfl
    | cons next rest =>
      rw [joinWith_cons_cons, respell_append, respell_cons, ih]
      rfl

@[simp] theorem respell_enclosed (opening : String) (sql : Sql) :
    respell l (enclosed opening sql) = enclosed opening (respell l sql) := by
  simp [enclosed, Piece.respell]

@[simp] theorem values_respell (sql : Sql) : (respell l sql).values = sql.values := by
  induction sql with
  | nil => rfl
  | cons p rest ih =>
    rw [respell_cons, values_cons, values_cons, ih]
    cases p <;> rfl

end Sql

@[simp] theorem Condition.respell_operand (l : DriverKind) (v : Value) :
    (operand v).respell l = operand v := by
  cases v <;> rfl

/-- SQL without date parts is the same for every driver. -/
def Sql.Common (sql : Sql) : Prop := ∀ l, sql.respell l = sql

namespace Sql

variable {a b : Sql}

theorem Common.append (first : a.Common) (second : b.Common) : Common (a ++ b) := fun l => by
  rw [respell_append, first l, second l]

theorem Common.literal (s : String) : Common [.literal s] := fun _ => rfl

theorem Common.operand (v : Value) : Common [Condition.operand v] := fun l => by
  rw [respell_cons, Condition.respell_operand, respell_nil]

theorem map_respell_of_common {parts : List Sql} (each : ∀ part ∈ parts, part.Common)
    (l : DriverKind) : parts.map (respell l) = parts := by
  rw [List.map_congr_left fun part member => each part member l]
  exact List.map_id _

theorem Common.joinWith {separator : String} {parts : List Sql}
    (each : ∀ part ∈ parts, part.Common) : (joinWith separator parts).Common := fun l => by
  rw [respell_joinWith, map_respell_of_common each]

theorem Common.operands (values : List Value) :
    (Sql.joinWith ", " (values.map fun v => [Condition.operand v])).Common := by
  refine .joinWith fun part member => ?_
  obtain ⟨v, _, rfl⟩ := List.mem_map.mp member
  exact .operand v

end Sql

namespace Chars

theorem trimTextStart_of_starts {s : String} (starts : Starts s) : trimTextStart s = s := by
  obtain ⟨c, rest, shape, solid⟩ := starts
  rw [trimTextStart, shape, dropWhile_isBlank_cons solid, ← shape, String.ofList_toList]

theorem trimTextEnd_of_ends {s : String} (ends : Ends s) : trimTextEnd s = s := by
  obtain ⟨rest, c, shape, solid⟩ := ends
  rw [trimTextEnd, shape, List.reverse_append, List.reverse_singleton, List.singleton_append,
    dropWhile_isBlank_cons solid, ← List.singleton_append, ← List.reverse_singleton,
    ← List.reverse_append, List.reverse_reverse, ← shape, String.ofList_toList]

end Chars

namespace Sql

theorem withText_self (p : Piece) : withText p.text p = p := if_pos rfl

theorem trimAlong_of_kept {cut : String → String} {p : Piece} {rest : Sql}
    (kept : cut p.text = p.text) :
    trimAlong cut (p :: rest) = p :: if p.text = "" then trimAlong cut rest else rest := by
  simp only [trimAlong, kept, withText_self]

/-- Nothing is cut at the start of SQL that starts with no white space, in whichever piece. -/
theorem trimAlong_of_starts {sql : Sql} (starts : Starts sql.text) :
    trimAlong Chars.trimTextStart sql = sql := by
  induction sql with
  | nil => rfl
  | cons p rest ih =>
    by_cases empty : p.text = ""
    · rw [text_cons, empty, String.empty_append] at starts
      have kept : Chars.trimTextStart p.text = p.text := by
        rw [empty]
        rfl
      rw [trimAlong_of_kept kept, if_pos empty, ih starts]
    · have first : Starts p.text := by
        obtain ⟨c, others, shape, solid⟩ := starts
        rw [text_cons, String.toList_append] at shape
        cases spelled : p.text.toList with
        | nil => exact absurd (String.toList_eq_nil_iff.mp spelled) empty
        | cons d more =>
          rw [spelled, List.cons_append] at shape
          cases shape
          exact ⟨c, more, spelled, solid⟩
      rw [trimAlong_of_kept (Chars.trimTextStart_of_starts first), if_neg empty]

theorem trimAlong_of_ends {sql : Sql} (ends : Ends (text sql.reverse)) :
    trimAlong Chars.trimTextEnd sql = sql := by
  induction sql with
  | nil => rfl
  | cons p rest ih =>
    rw [List.reverse_cons, text_append, text_cons, text_nil, String.append_empty] at ends
    by_cases empty : p.text = ""
    · rw [empty, String.append_empty] at ends
      have kept : Chars.trimTextEnd p.text = p.text := by
        rw [empty]
        rfl
      rw [trimAlong_of_kept kept, if_pos empty, ih ends]
    · have last : Ends p.text := by
        obtain ⟨others, c, shape, solid⟩ := ends
        rw [String.toList_append] at shape
        rcases List.eq_nil_or_concat p.text.toList with none | ⟨more, d, spelled⟩
        · exact absurd (String.toList_eq_nil_iff.mp none) empty
        · rw [List.concat_eq_append] at spelled
          rw [spelled, ← List.append_assoc] at shape
          have lasts := congrArg List.getLast? shape
          simp only [List.getLast?_concat, Option.some.injEq] at lasts
          exact ⟨more, d, spelled, lasts ▸ solid⟩
      rw [trimAlong_of_kept (Chars.trimTextEnd_of_ends last), if_neg empty]

/-- SQL without white space at its ends is already trimmed, piece by piece. -/
theorem trim_of_bare {sql : Sql} (starts : Starts sql.text) (ends : Ends sql.text) :
    sql.trim = sql := by
  rw [trim, trimAlong_of_starts starts, trimAlong_of_ends, List.reverse_reverse]
  rw [List.reverse_reverse]
  exact ends

end Sql

section

variable (l : DriverKind)

def Token.respell : Token → Token
  | .comparison negated sql => .comparison negated (sql.respell l)
  | t => t

def Condition.respell (c : Condition) : Condition :=
  { c with tokens := c.tokens.map (Token.respell l) }

def Join.respell (j : Join) : Join := { j with condition := j.condition.respell l }

def Union.respell (u : Union) : Union := { u with query := u.query.respell l }

def Select.respell (s : Select) : Select :=
  { s with
    joins := s.joins.map (Join.respell l)
    filter := s.filter.map (Condition.respell l)
    having := s.having.map (Condition.respell l)
    unions := s.unions.map (Union.respell l) }

def Update.respell (s : Update) : Update := { s with filter := s.filter.map (Condition.respell l) }

def Delete.respell (s : Delete) : Delete := { s with filter := s.filter.map (Condition.respell l) }

/-- Insertions hold no condition. -/
def Statement.respell : Statement → Statement
  | .select s => .select (s.respell l)
  | .insert s => .insert s
  | .update s => .update (s.respell l)
  | .delete s => .delete (s.respell l)

@[simp] theorem Token.sql_respell (t : Token) : (t.respell l).sql = t.sql.respell l := by
  cases t with
  | comparison negated sql => cases negated <;> rfl
  | _ => rfl

@[simp] theorem Token.rise_respell (t : Token) : (t.respell l).rise = t.rise := by
  cases t <;> rfl

namespace Condition

@[simp] theorem column_respell (c : Condition) : (c.respell l).column = c.column := rfl

@[simp] theorem sql_respell (c : Condition) : (c.respell l).sql = c.sql.respell l := by
  simp only [sql, respell, Sql.respell, List.flatMap_map, List.map_flatMap, Token.sql_respell]

@[simp] theorem values_respell (c : Condition) : (c.respell l).values = c.values := by
  rw [values, sql_respell, Sql.values_respell, values]

@[simp] theorem depth_respell (c : Condition) : (c.respell l).depth = c.depth := by
  have each : ∀ tokens : List Token, Token.depth (tokens.map (Token.respell l)) =
      Token.depth tokens := by
    intro tokens
    induction tokens with
    | nil => rfl
    | cons t rest ih => rw [List.map_cons, Token.depth, Token.depth, ih, Token.rise_respell]
  exact each c.tokens

theorem respell_push (t : Token) (c : Condition) :
    (c.push t).respell l = (c.respell l).push (t.respell l) := by
  simp only [respell, push, List.map_append, List.map_singleton]

theorem respell_compare (sql : Sql) (c : Condition) :
    (c.compare sql).respell l = (c.respell l).compare (sql.respell l) := by
  simp only [respell, compare, push, List.map_append, List.map_singleton, Token.respell]

theorem respell_toggleGroup (c : Condition) :
    c.toggleGroup.respell l = (c.respell l).toggleGroup := by
  unfold toggleGroup
  rw [depth_respell]
  split
  · exact respell_push l .opening c
  · exact respell_push l .closing c

theorem respell_getD (f : Option Condition) :
    (f.map (respell l)).getD .blank = (f.getD .blank).respell l := by
  cases f <;> rfl

end Condition

namespace Select

@[simp] theorem conditionValues_respell (f : Option Condition) :
    conditionValues (f.map (Condition.respell l)) = conditionValues f := by
  cases f <;> simp [conditionValues]

@[simp] theorem values_respell (s : Select) : (s.respell l).values = s.values := by
  simp [values, respell, List.flatMap_map, Join.respell, Union.respell]

end Select

@[simp] theorem Statement.values_respell (s : Statement) : (s.respell l).values = s.values := by
  cases s with
  | select s => exact s.values_respell l
  | insert s => rfl
  | update s => simp [respell, values, Update.values, Update.respell]
  | delete s => simp [respell, values, Delete.values, Delete.respell]

@[simp] theorem Statement.respell_empty (kind : StatementKind) :
    (empty kind).respell l = empty kind := by
  cases kind <;> rfl

end

end SqlBuilder
