import SqlBuilder.Error
import SqlBuilder.Value.Mapping

set_option autoImplicit false

namespace SqlBuilder

namespace Value

/-- What a value gives one after the other, if it can be gone through. -/
def iterate? : Value → Option (List Value)
  | .list items | .tuple items => some items
  | .text t => some (t.chars.toList.map fun c => .str c.toString)
  | .bytes bs => some (bs.map fun b => .int b.toNat)
  | .map entries => some (Entries.keys entries)
  | _ => none

mutual

/-- The part of a value that keeps it from being a key. -/
def unhashable? : Value → Option Value
  | .list items => some (.list items)
  | .map entries => some (.map entries)
  | .tuple items => firstUnhashable? items
  | _ => none

def firstUnhashable? : List Value → Option Value
  | [] => none
  | v :: rest =>
    match unhashable? v with
    | some part => some part
    | none => firstUnhashable? rest

end

/-- The value, if it can be a key. -/
def asKey (v : Value) : Except Error Value :=
  match v.unhashable? with
  | some part => .error (.entries (.unhashable part))
  | none => .ok v

end Value

namespace Entries

/-- Writes an entry, whose key must be fit for one. -/
def insert (key v : Value) (entries : Entries) : Except Error Entries :=
  key.asKey.map fun key => put key v entries

/-- Writes the entry that a pair spells; `index` is the place of the pair among others. -/
def insertPair (entries : Entries) (pair : Value) (index : Nat) : Except Error Entries :=
  match pair.iterate? with
  | none => .error (.entries (.notSequence index))
  | some [key, v] => insert key v entries
  | some parts => .error (.entries (.notPair index parts.length))

/-- Writes the entries of a map, or those that the pairs of a sequence spell. -/
def merge (entries : Entries) (source : Value) : Except Error Entries :=
  match source with
  | .map later => .ok (entries.update later)
  | source =>
    match source.iterate? with
    | none => .error (.entries (.notIterable source))
    | some pairs =>
      pairs.zipIdx.foldlM (fun entries (pair, index) => insertPair entries pair index) entries

end Entries

end SqlBuilder
