import SqlBuilder.Proofs.Json.Number
import SqlBuilder.Proofs.Json.Text
import SqlBuilder.Proofs.Value.Mapping

set_option autoImplicit false

namespace SqlBuilder.Json

mutual

/-- The greatest number of lists and maps that stand inside each other. -/
def nesting : Value → Nat
  | .list items => nestingOfItems items + 1
  | .map entries => nestingOfMembers entries + 1
  | _ => 0

def nestingOfItems : List Value → Nat
  | [] => 0
  | v :: rest => max (nesting v) (nestingOfItems rest)

def nestingOfMembers : List (Value × Value) → Nat
  | [] => 0
  | (_, v) :: rest => max (nesting v) (nestingOfMembers rest)

end

variable {v : Value} {items : List Value} {entries : Entries} {fuel depth : Nat}
  {text rest : List Char}

theorem skip_cons {c : Char} (shown : isSpace c = false) (cs : List Char) :
    skip (c :: cs) = c :: cs := by
  rw [skip, List.dropWhile_cons_of_neg (by simp [shown])]

theorem toString_eq_cons (n : Int) :
    ∃ c cs, (toString n).toList = c :: cs ∧ (c = '-' ∨ Numeral.isDigit c = true) := by
  rcases toString_cases n with ⟨m, -, spelled⟩ | ⟨m, -, spelled⟩
  · obtain ⟨c, cs, front⟩ := List.exists_cons_of_ne_nil (Nat.toDigits_ne_nil (b := 10) (n := m))
    exact ⟨c, cs, spelled.trans front,
      .inr (Numeral.isDigit_of_mem_toDigits (n := m) (front ▸ List.mem_cons_self))⟩
  · exact ⟨_, _, spelled, .inl rfl⟩

/-- A value opens with a character that is neither a space nor the end of a list. -/
theorem Spells.eq_cons (spells : Spells v text) :
    ∃ c cs, text = c :: cs ∧ isSpace c = false ∧ c ≠ ']' := by
  cases spells with
  | int n =>
    obtain ⟨c, cs, spelled, sign | digit⟩ := toString_eq_cons n
    · subst sign
      exact ⟨_, _, spelled, by decide, by decide⟩
    · refine ⟨c, cs, spelled, ?_, ?_⟩
      · by_contra space
        simp only [isSpace, Bool.or_eq_true, decide_eq_true_eq, Bool.not_eq_false] at space
        rcases space with ((rfl | rfl) | rfl) | rfl <;> exact absurd digit (by decide)
      · rintro rfl
        exact absurd digit (by decide)
  | bool b => cases b <;> exact ⟨_, _, rfl, by decide, by decide⟩
  | text quoted =>
    obtain ⟨_⟩ := quoted
    exact ⟨_, _, rfl, by decide, by decide⟩
  | _ => exact ⟨_, _, rfl, by decide, by decide⟩

theorem Spells.skip (spells : Spells v text) (rest : List Char) :
    Json.skip (text ++ rest) = text ++ rest := by
  obtain ⟨c, cs, rfl, shown, _⟩ := spells.eq_cons
  rw [List.cons_append, skip_cons shown]

theorem SpellsText.skip {s : String} (spells : SpellsText s text) (rest : List Char) :
    Json.skip (text ++ rest) = text ++ rest := (Spells.text spells).skip rest

theorem readValue_int {n : Int} (word : IsWord n) (ends : Ends rest) :
    readValue (fuel + 1) depth ((toString n).toList ++ rest) = .ok (.int n, rest) := by
  obtain ⟨c, cs, spelled, front⟩ := toString_eq_cons n
  have number := readNumber_toString word ends
  have other : ∀ d : Char, d ≠ '-' → Numeral.isDigit d = false → c ≠ d := by
    rintro d sign digit rfl
    rcases front with same | same
    · exact sign same
    · exact Bool.false_ne_true (digit.symm.trans same)
  rw [spelled, List.cons_append] at number ⊢
  rw [readValue]
  · exact number
  all_goals
    rintro _ ⟨⟩
    exact other _ (by decide) (by decide) rfl

theorem readValue_text {s : String} (spells : SpellsText s text) (rest : List Char) :
    readValue (fuel + 1) depth (text ++ rest) = .ok (.str s, rest) := by
  have read := readText_spelled spells rest
  obtain ⟨_⟩ := spells
  rw [List.cons_append] at read ⊢
  rw [readValue, read]
  rfl

theorem readWord_append (word : String) (v : Value) (rest : List Char) :
    readWord word v (word.toList ++ rest) = .ok (v, rest) := by
  rw [readWord, if_pos (List.isPrefixOf_iff_prefix.mpr (List.prefix_append _ _)),
    ← String.length_toList, List.drop_left]

theorem readItems_last {cs : List Char}
    (read : readValue fuel depth (skip cs) = .ok (v, ']' :: rest)) :
    readItems (fuel + 1) depth cs = .ok ([v], rest) := by
  rw [readItems, read]
  rfl

theorem readItems_further {cs : List Char} (behind : List Char)
    (read : readValue fuel depth (skip cs) = .ok (v, ',' :: behind))
    (others : readItems fuel depth behind = .ok (items, rest)) :
    readItems (fuel + 1) depth cs = .ok (v :: items, rest) := by
  rw [readItems, read]
  simp only [bind, Except.bind, skip_cons (c := ',') (by decide), others]
  rfl

theorem readMembers_last {key : String} {cs behind : List Char}
    (named : readText (skip cs) = some (key, ':' :: behind))
    (read : readValue fuel depth (skip behind) = .ok (v, '\x7d' :: rest)) :
    readMembers (fuel + 1) depth cs = .ok ([(.str key, v)], rest) := by
  rw [readMembers, named]
  simp only [orMalformed, bind, Except.bind, skip_cons (c := ':') (by decide), read]
  rfl

theorem readMembers_further {key : String} {cs : List Char} (behind further : List Char)
    (named : readText (skip cs) = some (key, ':' :: behind))
    (read : readValue fuel depth (skip behind) = .ok (v, ',' :: further))
    (others : readMembers fuel depth further = .ok (entries, rest)) :
    readMembers (fuel + 1) depth cs = .ok ((.str key, v) :: entries, rest) := by
  rw [readMembers, named]
  simp only [orMalformed, bind, Except.bind, skip_cons (c := ':') (by decide), read,
    skip_cons (c := ',') (by decide), others]
  rfl

mutual

theorem Spells.nesting_le : ∀ {v : Value} {text : List Char}, Spells v text →
    nesting v ≤ text.length
  | _, _, .null | _, _, .bool _ | _, _, .int _ | _, _, .text _ => Nat.zero_le _
  | _, _, .emptyList | _, _, .emptyMap => by decide
  | _, _, .list each => by
    have inside := each.nesting_le
    rw [nesting, List.length_cons, List.length_append]
    omega
  | _, _, .map each => by
    have inside := each.nesting_le
    rw [nesting, List.length_cons, List.length_append]
    omega

theorem SpellsItems.nesting_le : ∀ {items : List Value} {text : List Char},
    SpellsItems items text → nestingOfItems items ≤ text.length
  | _, _, .last value => by
    have inside := value.nesting_le
    simp only [nestingOfItems]
    omega
  | _, _, .cons value others => by
    have first := value.nesting_le
    have later := others.nesting_le
    rw [nestingOfItems, List.length_append, List.length_cons]
    omega

theorem SpellsMembers.nesting_le : ∀ {entries : Entries} {text : List Char},
    SpellsMembers entries text → nestingOfMembers entries ≤ text.length
  | _, _, .last named value => by
    have inside := value.nesting_le
    simp only [nestingOfMembers, List.length_append, List.length_cons]
    omega
  | _, _, .cons named value others => by
    have first := value.nesting_le
    have later := others.nesting_le
    simp only [nestingOfMembers, List.length_append, List.length_cons]
    omega

end

theorem Spells.length_pos (spells : Spells v text) : 0 < text.length := by
  obtain ⟨c, cs, rfl, _⟩ := spells.eq_cons
  exact Nat.succ_pos _

/-- A reader with room for `depth` lists and maps takes up the value whole. -/
def ReadsBack (depth : Nat) (v : Value) (text : List Char) : Prop :=
  ∀ {fuel : Nat} {rest : List Char}, text.length ≤ fuel → Ends rest →
    readValue fuel depth (text ++ rest) = .ok (v, rest)

theorem readsBack_of_step (spells : Spells v text)
    (step : ∀ fuel rest, Ends rest → readValue (fuel + 1) depth (text ++ rest) = .ok (v, rest)) :
    ReadsBack depth v text := by
  intro fuel rest enough ends
  have positive := spells.length_pos
  obtain ⟨fuel, rfl⟩ : ∃ k, fuel = k + 1 := ⟨fuel - 1, by omega⟩
  exact step fuel rest ends

theorem SpellsItems.eq_cons (spells : SpellsItems items text) :
    ∃ c cs, text = c :: cs ∧ isSpace c = false ∧ c ≠ ']' := by
  cases spells with
  | last value => exact value.eq_cons
  | cons value _ =>
    obtain ⟨c, cs, rfl, shown, other⟩ := value.eq_cons
    exact ⟨c, _, List.cons_append, shown, other⟩

theorem SpellsMembers.eq_cons (spells : SpellsMembers entries text) :
    ∃ cs, text = '"' :: cs := by
  cases spells with
  | last named _ =>
    obtain ⟨_⟩ := named
    exact ⟨_, rfl⟩
  | cons named _ _ =>
    obtain ⟨_⟩ := named
    exact ⟨_, rfl⟩

/-- A list is read by its items. -/
theorem readsBack_list (spells : SpellsItems items text)
    (read : ∀ {fuel : Nat} {rest : List Char}, text.length < fuel →
      readItems fuel depth (text ++ ']' :: rest) = .ok (items, rest)) :
    ReadsBack (depth + 1) (.list items) ('[' :: (text ++ [']'])) := by
  intro fuel rest enough ends
  rw [List.length_cons, List.length_append, List.length_singleton] at enough
  obtain ⟨fuel, rfl⟩ : ∃ k, fuel = k + 1 := ⟨fuel - 1, by omega⟩
  have inside : readItems fuel depth (text ++ ']' :: rest) = .ok (items, rest) := read (by omega)
  rw [List.cons_append, List.append_assoc, List.singleton_append, readValue]
  obtain ⟨c, cs, rfl, shown, other⟩ := spells.eq_cons
  rw [List.cons_append] at inside ⊢
  rw [skip_cons shown]
  split
  · next same => exact absurd (List.head_eq_of_cons_eq same) other
  · rw [inside]
    rfl

/-- A map is read by its members. -/
theorem readsBack_map (keyed : entries.StringKeyed) (spells : SpellsMembers entries text)
    (read : ∀ {fuel : Nat} {rest : List Char}, text.length < fuel →
      readMembers fuel depth (text ++ '\x7d' :: rest) = .ok (entries, rest)) :
    ReadsBack (depth + 1) (.map entries) ('\x7b' :: (text ++ ['\x7d'])) := by
  intro fuel rest enough ends
  rw [List.length_cons, List.length_append, List.length_singleton] at enough
  obtain ⟨fuel, rfl⟩ : ∃ k, fuel = k + 1 := ⟨fuel - 1, by omega⟩
  have inside : readMembers fuel depth (text ++ '\x7d' :: rest) = .ok (entries, rest) :=
    read (by omega)
  rw [List.cons_append, List.append_assoc, List.singleton_append, readValue]
  obtain ⟨cs, rfl⟩ := spells.eq_cons
  rw [List.cons_append] at inside ⊢
  rw [skip_cons (by decide)]
  split
  · next same => exact absurd (List.head_eq_of_cons_eq same) (by decide)
  · rw [inside]
    exact congrArg (fun found => Except.ok (Value.map found, rest))
      (Entries.ofList_of_stringKeyed keyed)

theorem Document.each_item (document : Document (.list items)) : ∀ v ∈ items, Document v := by
  cases document
  assumption

theorem Document.keyed_members (document : Document (.map entries)) :
    entries.StringKeyed ∧ ∀ entry ∈ entries, Document entry.2 := by
  cases document with
  | map keyed each => exact ⟨keyed, each⟩

mutual

/-- A document reads as itself wherever it may stand, if its lists and maps are not too deep. -/
theorem Spells.readsBack : ∀ {v : Value} {text : List Char} {depth : Nat}, Spells v text →
    Document v → nesting v ≤ depth → ReadsBack depth v text
  | _, _, _, .null, _, _ =>
    readsBack_of_step .null fun _ rest _ => readWord_append "null" .null rest
  | _, _, _, .bool b, _, _ => readsBack_of_step (.bool b) fun _ rest _ => by
    cases b with
    | true => exact readWord_append "true" (.bool true) rest
    | false => exact readWord_append "false" (.bool false) rest
  | _, _, _, .int n, document, _ => readsBack_of_step (.int n) fun _ _ ends => by
    cases document with
    | int word => exact readValue_int word ends
  | _, _, _, .text quoted, _, _ =>
    readsBack_of_step (.text quoted) fun _ rest _ => readValue_text quoted rest
  | _, _, depth, .emptyList, _, room => readsBack_of_step .emptyList fun _ rest _ => by
    obtain ⟨depth, rfl⟩ : ∃ d, depth = d + 1 := ⟨depth - 1, by rw [nesting] at room; omega⟩
    rfl
  | _, _, depth, .list each, document, room => by
    rw [nesting] at room
    obtain ⟨depth, rfl⟩ : ∃ d, depth = d + 1 := ⟨depth - 1, by omega⟩
    exact readsBack_list each (each.read document.each_item (by omega))
  | _, _, depth, .emptyMap, _, room => readsBack_of_step .emptyMap fun _ rest _ => by
    obtain ⟨depth, rfl⟩ : ∃ d, depth = d + 1 := ⟨depth - 1, by rw [nesting] at room; omega⟩
    rfl
  | _, _, depth, .map each, document, room => by
    rw [nesting] at room
    obtain ⟨depth, rfl⟩ : ∃ d, depth = d + 1 := ⟨depth - 1, by omega⟩
    obtain ⟨keyed, documents⟩ := document.keyed_members
    exact readsBack_map keyed each (each.read documents (by omega))

theorem SpellsItems.read : ∀ {items : List Value} {text : List Char} {depth : Nat},
    SpellsItems items text → (∀ v ∈ items, Document v) → nestingOfItems items ≤ depth →
    ∀ {fuel : Nat} {rest : List Char}, text.length < fuel →
      readItems fuel depth (text ++ ']' :: rest) = .ok (items, rest)
  | _, text, depth, .last value, documents, room, fuel, rest, enough => by
    obtain ⟨fuel, rfl⟩ : ∃ k, fuel = k + 1 := ⟨fuel - 1, by omega⟩
    simp only [nestingOfItems] at room
    apply readItems_last
    rw [value.skip]
    exact value.readsBack (documents _ List.mem_cons_self) (by omega) (by omega)
      (ends_cons (.inr (.inl rfl)))
  | _, _, depth, @SpellsItems.cons v items first text value others, documents, room, fuel, rest,
      enough => by
    -- The reader spends two of its fuel here: the value has a character, and a comma follows it.
    have front := value.length_pos
    rw [List.length_append, List.length_cons] at enough
    obtain ⟨fuel, rfl⟩ : ∃ k, fuel = k + 2 := ⟨fuel - 2, by omega⟩
    rw [nestingOfItems] at room
    rw [List.append_assoc, List.cons_append]
    refine readItems_further (text ++ ']' :: rest) ?_ ?_
    · rw [value.skip]
      exact value.readsBack (documents _ List.mem_cons_self) (by omega) (by omega)
        (ends_cons (.inl rfl))
    · exact others.read (fun u member => documents u (List.mem_cons_of_mem _ member)) (by omega)
        (by omega)

theorem SpellsMembers.read : ∀ {entries : Entries} {text : List Char} {depth : Nat},
    SpellsMembers entries text → (∀ entry ∈ entries, Document entry.2) →
    nestingOfMembers entries ≤ depth → ∀ {fuel : Nat} {rest : List Char}, text.length < fuel →
      readMembers fuel depth (text ++ '\x7d' :: rest) = .ok (entries, rest)
  | _, _, depth, .last named value, documents, room, fuel, rest, enough => by
    rw [List.length_append, List.length_cons] at enough
    obtain ⟨fuel, rfl⟩ : ∃ k, fuel = k + 1 := ⟨fuel - 1, by omega⟩
    simp only [nestingOfMembers] at room
    rw [List.append_assoc, List.cons_append]
    apply readMembers_last
    · rw [named.skip, readText_spelled named]
    · rw [value.skip]
      exact value.readsBack (documents _ List.mem_cons_self) (by omega) (by omega)
        (ends_cons (.inr (.inr rfl)))
  | _, _, depth, @SpellsMembers.cons _ _ _ _ first text named value others, documents, room, fuel,
      rest, enough => by
    have front := value.length_pos
    rw [List.length_append, List.length_cons, List.length_append, List.length_cons] at enough
    obtain ⟨fuel, rfl⟩ : ∃ k, fuel = k + 2 := ⟨fuel - 2, by omega⟩
    rw [nestingOfMembers] at room
    rw [List.append_assoc, List.cons_append, List.append_assoc, List.cons_append]
    refine readMembers_further (first ++ ',' :: (text ++ '\x7d' :: rest))
      (text ++ '\x7d' :: rest) ?_ ?_ ?_
    · rw [named.skip, readText_spelled named]
    · rw [value.skip]
      exact value.readsBack (documents _ List.mem_cons_self) (by omega) (by omega)
        (ends_cons (.inl rfl))
    · exact others.read (fun other member => documents other (List.mem_cons_of_mem _ member))
        (by omega) (by omega)

end

/-- A text of a document reads as the document. -/
theorem Spells.readWithin (spells : Spells v text) (document : Document v)
    (room : nesting v ≤ depth) : readWithin depth text = .ok v := by
  have length : text.length ≤ 2 * text.length + 2 := by omega
  have read := spells.readsBack document room length ends_nil
  have front := spells.skip []
  rw [List.append_nil] at read front
  rw [Json.readWithin, front, read]
  rfl

end SqlBuilder.Json
