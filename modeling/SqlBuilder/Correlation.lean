import SqlBuilder.Value.Basic

set_option autoImplicit false

namespace SqlBuilder

structure Correlation where
  bound : Option Value
  issued : Nat

/-- What opening a scope comes to: the id in force, the binding inside, and what is put back when
the scope is closed. A scope that goes on with an id it finds bound puts nothing back. -/
structure Opening where
  id : Value
  inner : Correlation
  token : Option (Option Value)

namespace Correlation

def none : Correlation := ⟨.none, 0⟩

/-- Opens a scope. Without an id it keeps the id that is bound already; otherwise it takes the id
that it is given, or a fresh one when it is given none that counts as true. -/
def enter (supply : Nat → String) (id : Option Value) (c : Correlation) : Opening :=
  match id, c.bound with
  | .none, some current => ⟨current, c, .none⟩
  | id, before =>
    let given := id.getD .null
    if given.truthy then ⟨given, { c with bound := some given }, some before⟩
    else
      let fresh := Value.str (supply c.issued)
      ⟨fresh, ⟨some fresh, c.issued + 1⟩, some before⟩

/-- Closes a scope; ids once issued stay issued. -/
def leave (token : Option (Option Value)) (c : Correlation) : Correlation :=
  match token with
  | .none => c
  | some before => { c with bound := before }

end Correlation

/-- Nested scopes: the binding in force, and what the open scopes put back, the innermost first. -/
structure Scopes where
  current : Correlation
  tokens : List (Option (Option Value))

namespace Scopes

def none : Scopes := ⟨.none, []⟩

def enter (supply : Nat → String) (id : Option Value) (s : Scopes) : Value × Scopes :=
  let opening := s.current.enter supply id
  (opening.id, ⟨opening.inner, opening.token :: s.tokens⟩)

def leave (s : Scopes) : Scopes :=
  match s.tokens with
  | [] => s
  | token :: outer => ⟨s.current.leave token, outer⟩

end Scopes

end SqlBuilder
