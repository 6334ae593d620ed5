import Mathlib.Data.List.Nodup
import SqlBuilder.Value.Mapping

set_option autoImplicit false

namespace SqlBuilder

theorem Value.same_str (s t : String) : (Value.str s).same (.str t) = (s == t) := by
  simp only [str, same, Text.chars]

theorem Value.str_inj {s t : String} : Value.str s = .str t ↔ s = t := by
  simp only [str, text.injEq, Text.plain.injEq]

namespace Entries

/-- All keys are strings, and no two of them are the same. -/
structure StringKeyed (entries : Entries) : Prop where
  strings : ∀ key ∈ entries.keys, ∃ s, key = .str s
  apart : entries.keys.Nodup

variable {entries later : Entries} {key s : String} {v : Value}

theorem StringKeyed.nil : StringKeyed [] := ⟨nofun, List.nodup_nil⟩

theorem StringKeyed.tail {entry : Value × Value} (keyed : StringKeyed (entry :: entries)) :
    entries.StringKeyed where
  strings key member := keyed.strings key (List.mem_cons_of_mem entry.1 member)
  apart := (List.nodup_cons.mp keyed.apart).2

/-- The first entry of a map with string keys has a string for its key, which no other entry has. -/
theorem StringKeyed.head {k : Value} (keyed : StringKeyed ((k, v) :: entries)) :
    ∃ s, k = .str s ∧ .str s ∉ entries.keys := by
  obtain ⟨s, named⟩ := keyed.strings k List.mem_cons_self
  exact ⟨s, named, named ▸ (List.nodup_cons.mp keyed.apart).1⟩

theorem get?_cons (s key : String) (v : Value) (entries : Entries) :
    get? (.str key) ((.str s, v) :: entries) =
      if s = key then some v else entries.get? (.str key) := by
  by_cases same : s = key <;> simp [get?, Value.same_str, same]

theorem put_cons (s key : String) (v old : Value) (entries : Entries) :
    put (.str key) v ((.str s, old) :: entries) =
      if s = key then (.str s, v) :: entries else (.str s, old) :: put (.str key) v entries := by
  by_cases same : s = key <;> simp [put, Value.same_str, same]

theorem get?_of_absent (keyed : entries.StringKeyed) (absent : .str key ∉ entries.keys) :
    entries.get? (.str key) = none := by
  induction entries with
  | nil => rfl
  | cons entry rest ih =>
    obtain ⟨k, v⟩ := entry
    obtain ⟨s, rfl, _⟩ := keyed.head
    have differ : s ≠ key := by
      rintro rfl
      exact absent List.mem_cons_self
    rw [get?_cons, if_neg differ]
    exact ih keyed.tail fun member => absent (List.mem_cons_of_mem _ member)

/-- A key that is not there yet is written behind the others. -/
theorem put_of_absent (keyed : entries.StringKeyed) (absent : .str s ∉ entries.keys) :
    put (.str s) v entries = entries ++ [(.str s, v)] := by
  induction entries with
  | nil => rfl
  | cons entry rest ih =>
    obtain ⟨k, old⟩ := entry
    obtain ⟨t, rfl, _⟩ := keyed.head
    have differ : t ≠ s := by
      rintro rfl
      exact absent List.mem_cons_self
    rw [put_cons, if_neg differ,
      ih keyed.tail fun member => absent (List.mem_cons_of_mem _ member), List.cons_append]

theorem keys_put_of_present (keyed : entries.StringKeyed) (present : .str s ∈ entries.keys) :
    (put (.str s) v entries).keys = entries.keys := by
  induction entries with
  | nil => cases present
  | cons entry rest ih =>
    obtain ⟨k, old⟩ := entry
    obtain ⟨t, rfl, _⟩ := keyed.head
    rw [put_cons]
    split
    · rfl
    · next differ =>
      have further : .str s ∈ keys rest := by
        rcases List.mem_cons.mp present with same | further
        · exact absurd (Value.str_inj.mp same).symm differ
        · exact further
      exact congrArg (Value.str t :: ·) (ih keyed.tail further)

theorem StringKeyed.put (keyed : entries.StringKeyed) (s : String) (v : Value) :
    StringKeyed (entries.put (.str s) v) := by
  by_cases present : .str s ∈ entries.keys
  · have same := keys_put_of_present (v := v) keyed present
    exact ⟨by rw [same]; exact keyed.strings, by rw [same]; exact keyed.apart⟩
  · have keys : (entries.put (.str s) v).keys = entries.keys ++ [.str s] := by
      rw [put_of_absent keyed present]
      exact List.map_append
    constructor
    · rw [keys]
      intro key member
      rcases List.mem_append.mp member with before | last
      · exact keyed.strings key before
      · exact ⟨s, List.mem_singleton.mp last⟩
    · rw [keys, ← List.concat_eq_append, List.nodup_concat]
      exact ⟨present, keyed.apart⟩

/-- What is written under a key is what is found there; all else is found as before. -/
theorem get?_put (keyed : entries.StringKeyed) :
    (put (.str s) v entries).get? (.str key) =
      if s = key then some v else entries.get? (.str key) := by
  induction entries with
  | nil => exact get?_cons s key v []
  | cons entry rest ih =>
    obtain ⟨k, old⟩ := entry
    obtain ⟨t, rfl, _⟩ := keyed.head
    rw [put_cons, get?_cons]
    by_cases written : t = s
    · subst written
      rw [if_pos rfl, get?_cons]
      split <;> rfl
    · rw [if_neg written, get?_cons, ih keyed.tail]
      by_cases first : t = key
      · rw [if_pos first, if_pos first, if_neg fun same => written (first.trans same.symm)]
      · rw [if_neg first, if_neg first]

theorem mem_put {entry : Value × Value} (member : entry ∈ put (.str s) v entries) :
    entry ∈ entries ∨ entry.2 = v := by
  induction entries with
  | nil => exact .inr (by rw [List.mem_singleton.mp member])
  | cons first rest ih =>
    rw [put] at member
    split at member
    · rcases List.mem_cons.mp member with rfl | behind
      · exact .inr rfl
      · exact .inl (List.mem_cons_of_mem first behind)
    · rcases List.mem_cons.mp member with rfl | behind
      · exact .inl List.mem_cons_self
      · exact (ih behind).imp_left (List.mem_cons_of_mem first)

theorem update_cons (entry : Value × Value) :
    entries.update (entry :: later) = (entries.put entry.1 entry.2).update later := rfl

theorem StringKeyed.update (keyed : entries.StringKeyed) (others : later.StringKeyed) :
    (entries.update later).StringKeyed := by
  induction later generalizing entries with
  | nil => exact keyed
  | cons entry rest ih =>
    obtain ⟨k, v⟩ := entry
    obtain ⟨s, rfl, _⟩ := others.head
    rw [update_cons]
    exact ih (keyed.put s v) others.tail

/-- The values of a map that took the entries of another are those of the two. -/
theorem mem_update (others : later.StringKeyed) {entry : Value × Value}
    (member : entry ∈ entries.update later) :
    entry ∈ entries ∨ ∃ other ∈ later, other.2 = entry.2 := by
  induction later generalizing entries with
  | nil => exact .inl member
  | cons first rest ih =>
    obtain ⟨k, v⟩ := first
    obtain ⟨s, rfl, _⟩ := others.head
    rw [update_cons] at member
    rcases ih others.tail member with before | ⟨other, behind, same⟩
    · rcases mem_put before with kept | written
      · exact .inl kept
      · exact .inr ⟨_, List.mem_cons_self, written.symm⟩
    · exact .inr ⟨other, List.mem_cons_of_mem _ behind, same⟩

/-- Where both maps have a key, the value is that of the one whose entries were taken. -/
theorem get?_update (keyed : entries.StringKeyed) (others : later.StringKeyed) (key : String) :
    (entries.update later).get? (.str key) =
      (later.get? (.str key)).or (entries.get? (.str key)) := by
  induction later generalizing entries with
  | nil => rfl
  | cons entry rest ih =>
    obtain ⟨k, v⟩ := entry
    obtain ⟨s, rfl, absent⟩ := others.head
    rw [update_cons, ih (keyed.put s v) others.tail, get?_put keyed, get?_cons]
    by_cases same : s = key
    · subst same
      rw [get?_of_absent others.tail absent, if_pos rfl, if_pos rfl]
      rfl
    · rw [if_neg same, if_neg same]

/-- The entries of a map, written one after the other, are the map. -/
theorem ofList_of_stringKeyed (keyed : entries.StringKeyed) : ofList entries = entries := by
  have behind : ∀ front back : Entries, StringKeyed (front ++ back) →
      front.update back = front ++ back := by
    intro front back
    induction back generalizing front with
    | nil => exact fun _ => (List.append_nil front).symm
    | cons entry rest ih =>
      obtain ⟨k, v⟩ := entry
      intro keyed
      have spread : keys (front ++ (k, v) :: rest) = front.keys ++ k :: keys rest :=
        List.map_append
      have apart := keyed.apart
      rw [spread, List.nodup_append] at apart
      have before : front.StringKeyed :=
        ⟨fun key member => keyed.strings key (by rw [spread]; exact List.mem_append_left _ member),
          apart.1⟩
      obtain ⟨s, rfl⟩ := keyed.strings k (by rw [spread]; exact List.mem_append_right _ (.head _))
      have absent : .str s ∉ front.keys := fun member =>
        apart.2.2 _ member _ List.mem_cons_self rfl
      have last : (front ++ [(.str s, v)]) ++ rest = front ++ (.str s, v) :: rest := by
        rw [List.append_assoc, List.singleton_append]
      rw [update_cons, put_of_absent before absent, ih _ (last ▸ keyed), last]
  exact behind [] entries keyed

end Entries

end SqlBuilder
