import SqlBuilder.Proofs.Call.Vocabulary
import SqlBuilder.Proofs.Condition.Fragment

set_option autoImplicit false

namespace SqlBuilder

def isNameChar (c : Char) : Bool := c.isLower || c.isDigit || c = '_' || c = '.'

/-- Names of small letters, digits, underscores and points, and no raw fragments. -/
def identifiers : Vocabulary where
  name s := s ≠ "" ∧ ∀ c ∈ s.toList, isNameChar c = true
  fragment _ _ := False

/-- A letter, a digit, an underscore or a point. -/
def isWordChar (c : Char) : Bool := c.isAlphanum || c = '_' || c = '.'

theorem toNat_of_isAlphanum {c : Char} (word : c.isAlphanum = true) :
    (65 ≤ c.toNat ∧ c.toNat ≤ 90) ∨ (97 ≤ c.toNat ∧ c.toNat ≤ 122) ∨
      (48 ≤ c.toNat ∧ c.toNat ≤ 57) := by
  rcases Bool.or_eq_true_iff.mp word with letter | digit
  · rcases Bool.or_eq_true_iff.mp letter with capital | small
    · have ends : c.val ≥ 'A'.val ∧ c.val ≤ 'Z'.val := of_decide_eq_true capital
      exact .inl ends
    · have ends := Bool.and_eq_true_iff.mp small
      exact .inr (.inl ⟨of_decide_eq_true ends.1, of_decide_eq_true ends.2⟩)
  · have ends := Bool.and_eq_true_iff.mp digit
    exact .inr (.inr ⟨of_decide_eq_true ends.1, of_decide_eq_true ends.2⟩)

theorem isBlank_of_isWordChar {c : Char} (word : isWordChar c = true) :
    Chars.isBlank c = false := by
  simp only [isWordChar, Bool.or_eq_true, decide_eq_true_eq] at word
  rcases word with (letter | rfl) | rfl
  · have bounds := toNat_of_isAlphanum letter
    simp only [Chars.isBlank, Bool.or_eq_false_iff, Bool.and_eq_false_iff, decide_eq_false_iff_not,
      beq_eq_false_iff_ne]
    omega
  · rfl
  · rfl

theorem isWordChar_of_isNameChar {c : Char} (named : isNameChar c = true) :
    isWordChar c = true := by
  have letter : (c.isUpper || c.isLower || c.isDigit) = c.isAlphanum := rfl
  simp only [isNameChar, isWordChar, ← letter, Bool.or_eq_true] at named ⊢
  tauto

theorem ne_of_isNameChar {c other : Char} (named : isNameChar c = true)
    (foreign : isNameChar other = false) : c ≠ other := by
  rintro rfl
  rw [foreign] at named
  cases named

/-- A text in which no mark starts. -/
def Silent (s : String) : Prop := silent s.toList = true

theorem Silent.append {s t : String} (first : Silent s) (second : Silent t) : Silent (s ++ t) := by
  rw [Silent, String.toList_append]
  exact silent_append first second

theorem Silent.intercalate {separator : String} {parts : List String} (plain : Silent separator)
    (each : ∀ part ∈ parts, Silent part) : Silent (separator.intercalate parts) := by
  induction parts with
  | nil =>
    rw [String.intercalate_nil]
    rfl
  | cons part rest ih =>
    have first := each part List.mem_cons_self
    have others := ih fun other member => each other (List.mem_cons_of_mem part member)
    cases rest with
    | nil => rwa [String.intercalate_singleton]
    | cons next rest =>
      rw [String.intercalate_cons_cons]
      exact (first.append plain).append others

theorem Starts.intercalate {separator part : String} {rest : List String} (starts : Starts part) :
    Starts (separator.intercalate (part :: rest)) := by
  cases rest with
  | nil => rwa [String.intercalate_singleton]
  | cons next rest =>
    rw [String.intercalate_cons_cons, String.append_assoc]
    exact starts.append _

theorem silent_toString (n : Nat) : Silent (toString n) := by
  apply silent_of_plain
  intro c member
  rw [Nat.toString_eq_ofList_toDigits, String.toList_ofList] at member
  have digit := Nat.isDigit_of_mem_toDigits (by decide) (by decide) member
  refine ⟨?_, ?_, ?_, ?_⟩ <;> rintro rfl <;> exact absurd digit (by decide)

/-- A text without marks that does not start with white space. -/
structure Lead (s : String) : Prop where
  silent : Silent s
  starts : Starts s

namespace Lead

variable {s t : String}

theorem append (lead : Lead s) (more : Silent t) : Lead (s ++ t) :=
  ⟨lead.silent.append more, lead.starts.append t⟩

theorem still (lead : Lead s) : Still s none none :=
  .silent lead.silent lead.starts.exists_solid

theorem portion (lead : Lead s) : Portion s none none := .silent lead.silent lead.starts

theorem net_eq_zero (lead : Lead s) : net s.toList = 0 := net_of_silent lead.silent

end Lead

/-- What stands between marks: a text without any, and without white space at its ends. -/
structure Plain (s : String) : Prop extends Lead s where
  finishes : Finishes s

theorem plain_name {name : String} (named : identifiers.name name) : Plain name where
  silent := silent_of_plain fun c member => ⟨ne_of_isNameChar (named.2 c member) rfl,
    ne_of_isNameChar (named.2 c member) rfl, ne_of_isNameChar (named.2 c member) rfl,
    ne_of_isNameChar (named.2 c member) rfl⟩
  starts := by
    cases shape : name.toList with
    | nil => exact absurd (String.toList_eq_nil_iff.mp shape) named.1
    | cons c rest =>
      have first : c ∈ name.toList := by rw [shape]; exact List.mem_cons_self
      exact ⟨c, rest, shape, isBlank_of_isWordChar (isWordChar_of_isNameChar (named.2 c first))⟩
  finishes := by
    rcases List.eq_nil_or_concat name.toList with empty | ⟨rest, c, shape⟩
    · exact absurd (String.toList_eq_nil_iff.mp empty) named.1
    · rw [List.concat_eq_append] at shape
      have last := named.2 c (by simp [shape])
      have solid := isBlank_of_isWordChar (isWordChar_of_isNameChar last)
      exact ⟨rest, c, shape, solid, ne_of_isNameChar last rfl, ne_of_isNameChar last rfl⟩

/-- An operand is written as a name or as a placeholder. -/
theorem Condition.plain_operand {v : Value} (cites : v.Cites identifiers) :
    Plain (operand v).text := by
  have mark : Plain "?" :=
    ⟨⟨rfl, '?', [], rfl, rfl⟩, ⟨[], '?', rfl, rfl, by decide, by decide⟩⟩
  unfold operand
  split
  · next column => exact plain_name (cites column rfl)
  · exact mark

/-- A group of anything silent behind anything silent. -/
theorem still_group {front inside : String} (lead : Lead front) (within : Silent inside)
    (spoken : ∃ c ∈ inside.toList, Chars.isBlank c = false) :
    Still (front ++ "(" ++ inside ++ ")") none none := by
  have opened := lead.still.append .opening (.inl rfl)
  have filled := opened.append (.silent within spoken) (.inr rfl)
  exact (filled.append .closing (.inl rfl)).of_closing

theorem net_group {front inside : String} (lead : Lead front) (within : Silent inside) :
    net (front ++ "(" ++ inside ++ ")").toList = 0 := by
  have second := net_of_silent within
  simp only [String.toList_append, net_append, lead.net_eq_zero, second]
  rfl

/-- A date part is a cast of its column, or a group behind a word in which the column stands. -/
theorem DriverKind.extract_frame (k : DriverKind) (part : DatePart) :
    (∀ column, k.extract part column = column ++ "::DATE") ∨
      ∃ word before after,
        (∀ column, k.extract part column = word ++ "(" ++ (before ++ column ++ after) ++ ")") ∧
        Lead word ∧ (before = "" ∨ Lead before) ∧ (after = "" ∨ after = ", 'HH24:MI:SS'") := by
  have keyword : Lead part.keyword := by cases part <;> exact ⟨rfl, _, _, rfl, rfl⟩
  cases k with
  | mysql =>
    refine .inr ⟨part.keyword, "", "", fun column => ?_, keyword, .inl rfl, .inl rfl⟩
    rw [String.empty_append, String.append_empty]
    rfl
  | postgresql =>
    by_cases whole : part = .date
    · subst whole
      exact .inl fun column => rfl
    by_cases clock : part = .time
    · subst clock
      refine .inr ⟨"TO_CHAR", "", ", 'HH24:MI:SS'", fun column => ?_, ⟨rfl, _, _, rfl, rfl⟩,
        .inl rfl, .inr rfl⟩
      rw [← String.toList_inj]
      simp [extract]
    have origin : Lead (part.keyword ++ " FROM ") := keyword.append rfl
    refine .inr ⟨"EXTRACT", part.keyword ++ " FROM ", "", fun column => ?_, ⟨rfl, _, _, rfl, rfl⟩,
      .inr origin, .inl rfl⟩
    rw [← String.toList_inj]
    cases part <;> simp_all [extract]
  | sqlite =>
    by_cases whole : part = .date
    · subst whole
      refine .inr ⟨"DATE", "", "", fun column => ?_, ⟨rfl, _, _, rfl, rfl⟩, .inl rfl, .inl rfl⟩
      rw [String.empty_append, String.append_empty]
      rfl
    have format : Lead ("'" ++ part.directive ++ "', ") := by
      cases part <;> exact ⟨rfl, _, _, rfl, rfl⟩
    refine .inr ⟨"STRFTIME", "'" ++ part.directive ++ "', ", "", fun column => ?_,
      ⟨rfl, _, _, rfl, rfl⟩, .inr format, .inl rfl⟩
    rw [← String.toList_inj]
    cases part <;> simp_all [extract]

theorem DriverKind.still_extract (k : DriverKind) (part : DatePart) {column : String}
    (named : identifiers.name column) :
    Still (k.extract part column) none none ∧ net (k.extract part column).toList = 0 ∧
      Starts (k.extract part column) := by
  have plain := plain_name named
  rcases k.extract_frame part with cast | ⟨word, before, after, frame, lead, first, last⟩
  · have whole : Lead (column ++ "::DATE") := plain.toLead.append rfl
    rw [cast]
    exact ⟨whole.still, whole.net_eq_zero, whole.starts⟩
  · have inside : Lead (before ++ column ++ after) := by
      have behind : Silent after := by rcases last with rfl | rfl <;> rfl
      rcases first with rfl | format
      · rw [String.empty_append]
        exact plain.toLead.append behind
      · exact (format.append plain.silent).append behind
    rw [frame]
    exact ⟨still_group lead inside.silent inside.starts.exists_solid,
      net_group lead inside.silent, ((lead.starts.append _).append _).append _⟩

end SqlBuilder
