import SqlBuilder.Builder

set_option autoImplicit false

namespace SqlBuilder

/-- What a run may be written with. -/
structure Vocabulary where
  name : String → Prop
  fragment : String → List Value → Prop
  /-- Callbacks may have their queries read by the parser. -/
  reads : Prop := True

namespace Value

variable (w : Vocabulary)

/-- A value that is given where a name belongs. -/
def Names (v : Value) : Prop := ∀ s, v.fullString? = some s → w.name s

/-- A value given where an operand belongs, which spells a name only when it is a reference. -/
def Cites (v : Value) : Prop := ∀ column, v = .ref column → w.name column.chars

/-- A value given as the key of a row, which names a column by the text that it is shown as. -/
def Heads (v : Value) : Prop := ∀ s, v.shown = .ok s → w.name s

/-- A value that is given as a row. -/
def Columns (v : Value) : Prop :=
  ∀ entries, v.entries? = some entries → ∀ key ∈ entries.keys, key.Heads w

end Value

section

variable (w : Vocabulary)

mutual

def ConditionCall.Uses : ConditionCall → Prop
  | .col name => name.Names w
  | .raw fragment values => ∀ text, fragment.fullString? = some text → w.fragment text values
  | .compare _ v => v.Cites w
  | .like v => v.Cites w
  | .between low high => low.Cites w ∧ high.Cites w
  | .oneOf values => ∀ v ∈ values, v.Cites w
  | .inPart _ v => v.Cites w
  | .inSubquery query => query.Uses
  | .existsIn query => query.Uses
  | .quantified _ _ query => query.Uses
  | .apply predicate => predicate.Uses
  | .attempt call => call.Uses
  | _ => True

def ConditionCall.AllUse : List ConditionCall → Prop
  | [] => True
  | call :: rest => call.Uses ∧ ConditionCall.AllUse rest

def Predicate.Uses : Predicate → Prop
  | .callback _ calls => ConditionCall.AllUse calls
  | .other _ => True

def Subquery.Uses : Subquery → Prop
  | .callback calls => SelectCall.AllUse calls
  | .other _ => True

def FilterCall.Uses : FilterCall → Prop
  | .extend predicate => predicate.Uses
  | _ => True

def SelectCall.Uses : SelectCall → Prop
  | .table name => name.Names w
  | .columns names => ∀ v ∈ names, v.Names w
  | .join _ table on => table.Names w ∧ on.Uses
  | .filter call => call.Uses
  | .groupBy columns => ∀ v ∈ columns, v.Names w
  | .having predicate => predicate.Uses
  | .orderBy column _ => column.Names w
  | .union _ query => query.Uses
  | .attempt call => call.Uses
  | .parse => w.reads
  | _ => True

def SelectCall.AllUse : List SelectCall → Prop
  | [] => True
  | call :: rest => call.Uses ∧ SelectCall.AllUse rest

end

def InsertCall.Uses : InsertCall → Prop
  | .into name => name.Names w
  | .row entries => entries.Columns w
  | .rows items => ∀ rows, items.items? = some rows → ∀ row ∈ rows, row.Columns w
  | .returning names => ∀ v ∈ names, v.Names w
  | .reset => True

def UpdateCall.Uses : UpdateCall → Prop
  | .table name => name.Names w
  | .assign row => row.Columns w
  | .filter call => call.Uses w
  | .reset => True

def DeleteCall.Uses : DeleteCall → Prop
  | .table name => name.Names w
  | .filter call => call.Uses w
  | .reset => True

def Call.Uses : Call → Prop
  | .select call => call.Uses w
  | .insert call => call.Uses w
  | .update call => call.Uses w
  | .delete call => call.Uses w

/-- Operations that change no clause name nothing in one. -/
def Operation.Uses : Operation → Prop
  | .call c => c.Uses w
  | _ => True

end

end SqlBuilder
