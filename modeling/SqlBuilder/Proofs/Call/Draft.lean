import SqlBuilder.Call.Run
import SqlBuilder.Proofs.Sql.Script

set_option autoImplicit false

namespace SqlBuilder

open Script (ofText)

/-- An operand in its place: a reference by its column, any other value as itself. -/
def Script.operand : Value → Script
  | .ref column => ofText column.chars
  | v => [.value v]

namespace Condition

def selected (c : Condition) : String := c.column.getD ""

/-- A comparison, behind the word of a pending negation. -/
def comparisonScript (c : Condition) (x : Script) : Script :=
  ofText (if c.negating then "NOT " else "") ++ x

/-- What a call without a callback writes when it succeeds. -/
def fragmentScript (o : Owner) (c : Condition) : ConditionCall → Script
  | .raw fragment values => weave (fragment.fullString?.getD "").toList values
  | .openGroup => ofText "("
  | .closeGroup => ofText ")"
  | .toggleGroup => ofText (if c.depth = 0 then "(" else ")")
  | .connect w => ofText (" " ++ w.word ++ " ")
  | .compare s v =>
    c.comparisonScript (ofText (c.selected ++ " " ++ s.sign ++ " ") ++ Script.operand v)
  | .like v => c.comparisonScript (ofText (c.selected ++ " LIKE ") ++ Script.operand v)
  | .between low high =>
    c.comparisonScript (ofText (c.selected ++ " BETWEEN ") ++ Script.operand low ++
      ofText " AND " ++ Script.operand high)
  | .oneOf values =>
    c.comparisonScript (ofText (c.selected ++ " IN (") ++
      Script.joinWith ", " (values.map Script.operand) ++ ofText ")")
  | .isNull => c.comparisonScript (ofText (c.selected ++ " IS NULL"))
  | .inPart part v =>
    match o.driver.kind with
    | .ok kind =>
      c.comparisonScript (ofText (kind.extract part c.selected ++ " = ") ++ Script.operand v)
    | .error _ => []
  | _ => []

end Condition

/-- The clauses that can hold operands: joins and unions whole, conditions without their keyword. -/
structure Draft where
  joins : List Script
  filter : Option Script
  having : Option Script
  unions : List Script
  /-- The rows of an insertion or the one of an update, as they were given. -/
  rows : List Entries

def Draft.empty : Draft := ⟨[], none, none, [], []⟩

/-- A clause after a callback wrote to its condition: a new one counts only on success. -/
def Draft.extend (before : Option Condition) (succeeded : Bool) (x : Option Script)
    (written : Script) : Option Script :=
  match before with
  | some _ => x.map (· ++ written)
  | none => if succeeded then some written else none

def Draft.clause (keyword : String) (x : Option Script) : List Script :=
  x.toList.map fun x => ofText (keyword ++ " ") ++ x.trim

/-- The query that a draft belongs to: its clauses in the order of SQL, joins before `WHERE` before
`HAVING` before unions. -/
def Select.script (s : Select) (draft : Draft) : Script :=
  Script.joinWith " " <|
    [ofText ("SELECT " ++ (if s.distinct then "DISTINCT " else "") ++ columnList s.columns ++
      " FROM " ++ s.table.getD "")] ++
    draft.joins ++
    Draft.clause "WHERE" draft.filter ++
    (if s.groups.isEmpty then [] else [ofText ("GROUP BY " ++ ", ".intercalate s.groups)]) ++
    Draft.clause "HAVING" draft.having ++
    (if s.orders.isEmpty then []
      else [ofText ("ORDER BY " ++ ", ".intercalate (s.orders.map fun (column, order) =>
        column ++ " " ++ order.spelling))]) ++
    s.limit.toList.map (fun n => ofText ("LIMIT " ++ toString n)) ++
    s.offset.toList.map (fun n => ofText ("OFFSET " ++ toString n)) ++
    draft.unions

mutual

/-- What a call writes at the end of a condition. -/
def ConditionCall.script (o : Owner) : ConditionCall → Condition → Script
  | .apply predicate, c => predicate.script o c
  | .attempt call, c => call.script o c
  | .inSubquery query, c =>
    if ((ConditionCall.inSubquery query).run o c).succeeded then
      c.comparisonScript (ofText (c.selected ++ " IN (") ++ query.script o.driver ++ ofText ")")
    else []
  | .existsIn query, c =>
    if ((ConditionCall.existsIn query).run o c).succeeded then
      c.comparisonScript (ofText "EXISTS (" ++ query.script o.driver ++ ofText ")")
    else []
  | .quantified quantifier operator query, c =>
    if ((ConditionCall.quantified quantifier operator query).run o c).succeeded then
      c.comparisonScript (ofText (c.selected ++ " " ++ operator.display ++ " " ++
        quantifier.keyword ++ " (") ++ query.script o.driver ++ ofText ")")
    else []
  | call, c => if (call.run o c).succeeded then c.fragmentScript o call else []

def ConditionCall.scriptAll (o : Owner) : Bool → List ConditionCall → Condition → Script
  | _, [], _ => []
  | held, call :: rest, c =>
    if held || call.standsAlone then
      call.script o c ++
        if (call.run o c).succeeded then ConditionCall.scriptAll o true rest (call.run o c).state
        else []
    else []

def Predicate.script (o : Owner) : Predicate → Condition → Script
  | .callback parameters calls, c => ConditionCall.scriptAll o (acceptsCondition parameters) calls c
  | .other _, _ => []

/-- The text of a subquery, as its own calls build it. -/
def Subquery.script (driver : Driver) : Subquery → Script
  | .callback calls =>
    (SelectCall.runAll driver calls .empty).state.script
      (SelectCall.draftAll driver calls .empty .empty)
  | .other _ => []

def FilterCall.draft (driver : Driver) (kind : StatementKind) :
    FilterCall → Option Condition → Option Script → Option Script
  | .extend predicate, f, x =>
    let succeeded := (predicate.extend driver (.filter kind) f).succeeded
    let written := predicate.script ⟨driver, none⟩ (f.getD .blank)
    Draft.extend f succeeded x written
  | .connect w, _, x => x.map (· ++ ofText (" " ++ w.word ++ " "))
  | .openGroup, _, x => some (x.getD [] ++ ofText "(")
  | .closeGroup, _, x => x.map (· ++ ofText ")")
  | .toggleGroup, f, x =>
    some (x.getD [] ++ ofText (if (f.getD .blank).depth = 0 then "(" else ")"))

def SelectCall.draft (driver : Driver) : SelectCall → Select → Draft → Draft
  | .join kind table on, s, draft =>
    let head := ofText (kind.keyword ++ " JOIN " ++ table.fullString?.getD "" ++ " ON ")
    let condition := on.script ⟨driver, none⟩ .blank
    if ((SelectCall.join kind table on).run driver s).succeeded then
      { draft with joins := draft.joins ++ [head ++ condition.trim] }
    else draft
  | .filter call, s, draft =>
    { draft with filter := call.draft driver .select s.filter draft.filter }
  | .having predicate, s, draft =>
    let succeeded := (predicate.extend driver .having s.having).succeeded
    let written := predicate.script ⟨driver, none⟩ (s.having.getD .blank)
    { draft with having := Draft.extend s.having succeeded draft.having written }
  | .union all query, s, draft =>
    let head := ofText (if all then "UNION ALL " else "UNION ")
    if ((SelectCall.union all query).run driver s).succeeded then
      { draft with unions := draft.unions ++ [head ++ query.script driver] }
    else draft
  | .attempt call, s, draft => call.draft driver s draft
  | .reset, _, _ => .empty
  | _, _, draft => draft

def SelectCall.draftAll (driver : Driver) : List SelectCall → Select → Draft → Draft
  | [], _, draft => draft
  | call :: rest, s, draft =>
    if (call.run driver s).succeeded then
      SelectCall.draftAll driver rest (call.run driver s).state (call.draft driver s draft)
    else call.draft driver s draft

end

end SqlBuilder
