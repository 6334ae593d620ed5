import SqlBuilder.Error

set_option autoImplicit false

namespace SqlBuilder

/-- The member of an enumeration that a text spells. -/
def Enumeration.ofValue (α : Type) [Enumeration α] (v : Value) : Except Error α :=
  let found : Option α := match v with
    | .text t => Enumeration.find? t.chars
    | _ => none
  match found with
  | some m => .ok m
  | none => .error (.notMember (Enumeration.title α) v)

/-- A reference to a column, which must be a non-empty text. -/
def Value.reference (column : Value) : Except Error Value :=
  match column.fullText? with
  | some t => .ok (.ref t)
  | none => .error (.invalid .reference column)

end SqlBuilder
