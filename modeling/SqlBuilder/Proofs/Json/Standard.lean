import SqlBuilder.Proofs.Json.Document

set_option autoImplicit false

namespace SqlBuilder.Json

variable {v : Value} {items : List Value} {entries : Entries}

theorem spellsItems_writeItems {v : Value} (items : List Value)
    (each : ∀ w ∈ v :: items, Spells w (write w)) :
    SpellsItems (v :: items) (writeItems (v :: items)) := by
  induction items generalizing v with
  | nil =>
    rw [writeItems, writeFurther, List.append_nil]
    exact .last (each v List.mem_cons_self)
  | cons w items ih =>
    have spelled : writeItems (v :: w :: items) = write v ++ ',' :: writeItems (w :: items) := rfl
    rw [spelled]
    exact .cons (each v List.mem_cons_self)
      (ih fun u member => each u (List.mem_cons_of_mem v member))

theorem spellsMembers_writeMembers {key : String} {v : Value} (entries : Entries)
    (keyed : entries.StringKeyed) (first : Spells v (write v))
    (each : ∀ entry ∈ entries, Spells entry.2 (write entry.2)) :
    SpellsMembers ((.str key, v) :: entries) (writeMembers ((.str key, v) :: entries)) := by
  have named : ∀ key, SpellsText key (writeKey (.str key)) := spellsText_writeText
  induction entries generalizing key v with
  | nil =>
    rw [writeMembers, writeFurtherMembers, List.append_nil]
    exact .last (named key) first
  | cons entry entries ih =>
    obtain ⟨k, w⟩ := entry
    obtain ⟨s, rfl, _⟩ := keyed.head
    have spelled : writeMembers ((.str key, v) :: (.str s, w) :: entries) =
        writeKey (.str key) ++ ':' :: (write v ++ ',' :: writeMembers ((.str s, w) :: entries)) :=
      rfl
    rw [spelled]
    exact .cons (named key) first (ih keyed.tail (each _ List.mem_cons_self)
      fun other member => each other (List.mem_cons_of_mem _ member))

/-- Documents are written in the grammar. -/
theorem Document.spells_write (document : Document v) : Spells v (write v) := by
  induction document with
  | null => exact .null
  | bool b => cases b <;> exact .bool _
  | int word => exact .int _
  | text s => exact .text (spellsText_writeText s)
  | @list items each ih =>
    cases items with
    | nil => exact .emptyList
    | cons v items =>
      rw [write, List.cons_append]
      exact .list (spellsItems_writeItems items ih)
  | @map entries keyed each ih =>
    cases entries with
    | nil => exact .emptyMap
    | cons entry entries =>
      obtain ⟨k, v⟩ := entry
      obtain ⟨key, rfl, _⟩ := keyed.head
      rw [write, List.cons_append]
      exact .map (spellsMembers_writeMembers entries keyed.tail (ih _ List.mem_cons_self)
        fun other member => ih other (List.mem_cons_of_mem _ member))

theorem anyHoldsQuery_eq_false (none : ∀ v ∈ items, holdsQuery v = false) :
    anyHoldsQuery items = false := by
  induction items with
  | nil => rfl
  | cons v items ih =>
    rw [anyHoldsQuery, none v List.mem_cons_self,
      ih fun w member => none w (List.mem_cons_of_mem v member)]
    rfl

theorem anyEntryHoldsQuery_eq_false (keyed : entries.StringKeyed)
    (none : ∀ entry ∈ entries, holdsQuery entry.2 = false) :
    anyEntryHoldsQuery entries = false := by
  induction entries with
  | nil => rfl
  | cons entry entries ih =>
    obtain ⟨k, v⟩ := entry
    obtain ⟨key, rfl, _⟩ := keyed.head
    have first : holdsQuery v = false := none _ List.mem_cons_self
    rw [anyEntryHoldsQuery, first,
      ih keyed.tail fun other member => none other (List.mem_cons_of_mem _ member)]
    rfl

theorem Document.holdsQuery_eq_false (document : Document v) : holdsQuery v = false := by
  induction document with
  | null => rfl
  | bool b => rfl
  | int word => rfl
  | text s => rfl
  | list each ih => exact anyHoldsQuery_eq_false ih
  | map keyed each ih => exact anyEntryHoldsQuery_eq_false keyed ih

/-- Every document is encoded. -/
theorem Document.encode_eq (document : Document v) : encode v = .ok (String.ofList (write v)) := by
  rw [encode, document.holdsQuery_eq_false, if_neg Bool.false_ne_true]

/-- Where the reader has the room, nothing more is asked of a codec. -/
theorem standard_roomyCodec : roomyCodec.Standard where
  encodes v document :=
    ⟨_, document.encode_eq, by rw [String.toList_ofList]; exact document.spells_write⟩
  decodes v text document spells := by
    refine spells.readWithin document ?_
    rw [← String.length_toList]
    exact spells.nesting_le

end SqlBuilder.Json
