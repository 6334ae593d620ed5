import SqlBuilder.Value.Basic

set_option autoImplicit false

namespace SqlBuilder

namespace Value

/-- The integer that a truth value or an integer amounts to. -/
def intLike? : Value → Option Int
  | .bool b => some (if b then 1 else 0)
  | .int n => some n
  | _ => none

mutual

def same : Value → Value → Bool
  | .null, .null => true
  | .bool a, w => w.intLike? == some (if a then 1 else 0) ||
      match w with
      | .float y => y.equalsInt (if a then 1 else 0)
      | _ => false
  | .int m, w => w.intLike? == some m ||
      match w with
      | .float y => y.equalsInt m
      | _ => false
  | .float x, w =>
    match w with
    | .float y => x.same y
    | w => (w.intLike?.map x.equalsInt).getD false
  | .text t, .text u => t.chars == u.chars
  | .bytes as, .bytes bs => as == bs
  | .list vs, .list ws => allSame vs ws
  | .tuple vs, .tuple ws => allSame vs ws
  | .ref c, .ref d => c.chars == d.chars
  | _, _ => false

def allSame : List Value → List Value → Bool
  | [], [] => true
  | v :: vs, w :: ws => same v w && allSame vs ws
  | _, _ => false

end

end Value

namespace Entries

def get? (key : Value) (entries : Entries) : Option Value :=
  (entries.find? fun entry => entry.1.same key).map Prod.snd

def hasKey (key : Value) (entries : Entries) : Bool := entries.any fun entry => entry.1.same key

def put (key v : Value) : Entries → Entries
  | [] => [(key, v)]
  | (k, old) :: rest => if k.same key then (k, v) :: rest else (k, old) :: put key v rest

/-- Writes every entry of `later`, in order. -/
def update (entries later : Entries) : Entries :=
  later.foldl (fun acc entry => put entry.1 entry.2 acc) entries

def ofList (pairs : List (Value × Value)) : Entries := update [] pairs

def keys (entries : Entries) : List Value := entries.map Prod.fst

def values (entries : Entries) : List Value := entries.map Prod.snd

end Entries

def Value.ofPairs (pairs : List (Value × Value)) : Value := .map (Entries.ofList pairs)

end SqlBuilder
