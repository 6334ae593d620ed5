import Mathlib.Data.List.Induction
import Mathlib.Data.List.TakeWhile
import SqlBuilder.Chars.Search

set_option autoImplicit false

namespace SqlBuilder.Chars

/-- A word that is not empty and has no white space at its ends. -/
structure Solid (word : List Char) : Prop where
  first : ∀ c rest, word = c :: rest → isBlank c = false
  last : ∀ rest c, word = rest ++ [c] → isBlank c = false
  nonempty : word ≠ []

variable {first second word cs : List Char} {c : Char}

theorem dropWhile_isBlank_cons (solid : isBlank c = false) (rest : List Char) :
    (c :: rest).dropWhile isBlank = c :: rest := by
  apply List.dropWhile_cons_of_neg
  rw [solid]
  exact Bool.false_ne_true

theorem Solid.exists_cons (solid : Solid word) :
    ∃ c rest, word = c :: rest ∧ isBlank c = false := by
  cases shape : word with
  | nil => exact absurd shape solid.nonempty
  | cons c rest => exact ⟨c, rest, rfl, solid.first c rest shape⟩

theorem Solid.reverse (solid : Solid word) : Solid word.reverse where
  first c rest shape := by
    rw [List.reverse_eq_cons_iff] at shape
    exact solid.last _ c shape
  last rest c shape := by
    rw [List.reverse_eq_append_iff] at shape
    exact solid.first c _ shape
  nonempty := by simpa using solid.nonempty

theorem Solid.not_isPrefixOf_nil (solid : Solid word) : word.isPrefixOf [] = false := by
  obtain ⟨c, rest, rfl, _⟩ := solid.exists_cons
  rfl

/-- No solid word starts with white space. -/
theorem Solid.isPrefixOf_blank (solid : Solid word) (blank : isBlank c = true) :
    word.isPrefixOf (c :: cs) = false := by
  obtain ⟨d, rest, rfl, solidFirst⟩ := solid.exists_cons
  have other : (d == c) = false := by
    rw [beq_eq_false_iff_ne]
    rintro rfl
    rw [blank] at solidFirst
    cases solidFirst
  rw [List.isPrefixOf_cons_cons, other, Bool.false_and]

/-- White space behind a text completes no solid word. -/
theorem Solid.isPrefixOf_append_blank (solid : Solid word) (blank : isBlank c = true) :
    word.isPrefixOf (cs ++ [c]) = word.isPrefixOf cs := by
  have other : word ≠ cs ++ [c] := by
    intro shape
    rw [solid.last cs c shape] at blank
    cases blank
  rw [Bool.eq_iff_iff, List.isPrefixOf_iff_prefix, List.isPrefixOf_iff_prefix,
    List.prefix_concat_iff]
  exact or_iff_right other

theorem dropWhile_append_blank (cs : List Char) (blank : isBlank c = true) :
    (cs ++ [c]).dropWhile isBlank = cs.dropWhile isBlank ++ [c] ∨
      (cs ++ [c]).dropWhile isBlank = cs.dropWhile isBlank := by
  rw [List.dropWhile_append]
  split
  · next empty =>
    refine .inr ?_
    rw [List.isEmpty_iff.mp empty, List.dropWhile_cons_of_pos blank]
    rfl
  · exact .inl rfl

theorem opensWith_blank (solid : Solid first) (blank : isBlank c = true) :
    opensWith first second (c :: cs) = false := by
  rw [opensWith, solid.isPrefixOf_blank blank, Bool.false_and]

theorem opensWith_append_blank (cs : List Char) (one : Solid first) (two : Solid second)
    (blank : isBlank c = true) :
    opensWith first second (cs ++ [c]) = opensWith first second cs := by
  unfold opensWith
  rw [one.isPrefixOf_append_blank blank]
  cases opened : first.isPrefixOf cs with
  | false => rfl
  | true =>
    obtain ⟨rest, rfl⟩ := List.isPrefixOf_iff_prefix.mp opened
    rw [List.append_assoc, List.drop_left, List.drop_left]
    rcases dropWhile_append_blank rest blank with kept | gone
    · rw [kept, two.isPrefixOf_append_blank blank]
    · rw [gone]

theorem meets_blank (solid : Solid first) (blank : isBlank c = true) :
    meets first second (c :: cs) = meets first second cs := by
  rw [meets, someTail, opensWith_blank solid blank, Bool.false_or]
  rfl

theorem meets_append_blank (one : Solid first) (two : Solid second) (blank : isBlank c = true) :
    meets first second (cs ++ [c]) = meets first second cs := by
  unfold meets
  induction cs with
  | nil =>
    have empty := opensWith_append_blank [] one two blank
    rw [List.nil_append] at empty
    simp only [List.nil_append, someTail, empty, Bool.or_self]
  | cons d rest ih =>
    have here := opensWith_append_blank (d :: rest) one two blank
    rw [List.cons_append] at here
    rw [List.cons_append, someTail, here, ih, someTail]

theorem meets_dropWhile (solid : Solid first) (cs : List Char) :
    meets first second (cs.dropWhile isBlank) = meets first second cs := by
  induction cs with
  | nil => rfl
  | cons c rest ih =>
    by_cases blank : isBlank c = true
    · rw [List.dropWhile_cons_of_pos blank, ih, meets_blank solid blank]
    · rw [List.dropWhile_cons_of_neg blank]

theorem meets_dropWhile_reverse (one : Solid first) (two : Solid second) (cs : List Char) :
    meets first second (cs.reverse.dropWhile isBlank).reverse = meets first second cs := by
  induction cs using List.reverseRecOn with
  | nil => rfl
  | append_singleton rest c ih =>
    rw [List.reverse_append, List.reverse_singleton, List.singleton_append]
    by_cases blank : isBlank c = true
    · rw [List.dropWhile_cons_of_pos blank, ih, meets_append_blank one two blank]
    · rw [List.dropWhile_cons_of_neg blank, List.reverse_cons, List.reverse_reverse]

/-- Trimming a text changes nothing for a search. -/
theorem meets_trim (one : Solid first) (two : Solid second) (cs : List Char) :
    meets first second (trim cs) = meets first second cs := by
  rw [trim, trimBy, meets_dropWhile_reverse one two, meets_dropWhile one]

theorem isPrefixOf_dropWhile_reverse (solid : Solid word) (cs : List Char) :
    word.isPrefixOf (cs.reverse.dropWhile isBlank).reverse = word.isPrefixOf cs := by
  induction cs using List.reverseRecOn with
  | nil => rfl
  | append_singleton rest c ih =>
    rw [List.reverse_append, List.reverse_singleton, List.singleton_append]
    by_cases blank : isBlank c = true
    · rw [List.dropWhile_cons_of_pos blank, ih, solid.isPrefixOf_append_blank blank]
    · rw [List.dropWhile_cons_of_neg blank, List.reverse_cons, List.reverse_reverse]

/-- A trimmed text starts with a word when the word comes first behind white space. -/
theorem isPrefixOf_trim (solid : Solid word) (cs : List Char) :
    word.isPrefixOf (trim cs) = word.isPrefixOf (cs.dropWhile isBlank) := by
  rw [trim, trimBy, isPrefixOf_dropWhile_reverse solid]

/-- It is the same to cut white space from the start first or from the end first. -/
theorem dropWhile_comm (cs : List Char) :
    ((cs.dropWhile isBlank).reverse.dropWhile isBlank).reverse =
      (cs.reverse.dropWhile isBlank).reverse.dropWhile isBlank := by
  induction cs with
  | nil => rfl
  | cons c rest ih =>
    rw [List.reverse_cons, List.dropWhile_append]
    by_cases blank : isBlank c = true
    · rw [List.dropWhile_cons_of_pos blank, ih, List.dropWhile_cons_of_pos blank]
      split
      · next empty => rw [List.isEmpty_iff.mp empty, List.dropWhile_nil]
      · rw [List.reverse_append, List.reverse_singleton, List.singleton_append,
          List.dropWhile_cons_of_pos blank]
    · rw [List.dropWhile_cons_of_neg blank, List.reverse_cons, List.dropWhile_append,
        List.dropWhile_cons_of_neg blank]
      split
      · rw [List.reverse_singleton, List.dropWhile_cons_of_neg blank]
      · rw [List.reverse_append, List.reverse_singleton, List.singleton_append,
          List.dropWhile_cons_of_neg blank]

/-- Trimming does not depend on the direction in which a text is read. -/
theorem reverse_trim (cs : List Char) : (trim cs).reverse = trim cs.reverse := by
  rw [trim, trimBy, List.reverse_reverse, trim, trimBy, dropWhile_comm, List.reverse_reverse]

theorem isSuffixOf_trim (solid : Solid word) (cs : List Char) :
    word.isSuffixOf (trim cs) = word.reverse.isPrefixOf (cs.reverse.dropWhile isBlank) := by
  rw [List.isSuffixOf, reverse_trim, isPrefixOf_trim solid.reverse]

/-- Trimming leaves nothing of white space, and something of any other text. -/
theorem trim_eq_nil : trim cs = [] ↔ ∀ c ∈ cs, isBlank c = true := by
  rw [← List.dropWhile_eq_nil_iff, trim, trimBy, List.reverse_eq_nil_iff]
  constructor
  · intro empty
    have blank := List.dropWhile_eq_nil_iff.mp empty
    have start := List.head?_dropWhile_not isBlank cs
    cases shape : cs.dropWhile isBlank with
    | nil => rfl
    | cons c rest =>
      have first := blank c (by simp [shape])
      simp only [shape, List.head?_cons, first] at start
      cases start
  · intro empty
    rw [empty]
    rfl

/-- A trimmed text ends with no white space. -/
theorem trim_last {front : List Char} (shape : trim cs = front ++ [c]) : isBlank c = false := by
  rw [trim, trimBy, List.reverse_eq_append_iff] at shape
  have start := List.head?_dropWhile_not isBlank (cs.dropWhile isBlank).reverse
  rw [shape] at start
  simpa using start

theorem Solid.isPrefixOf_dropWhile (solid : Solid word) (behind : List Char) :
    word.isPrefixOf ((word ++ behind).dropWhile isBlank) = true := by
  obtain ⟨c, rest, rfl, first⟩ := solid.exists_cons
  rw [List.cons_append, dropWhile_isBlank_cons first, List.isPrefixOf_iff_prefix]
  exact List.prefix_append _ _

theorem someTail_append {found : List Char → Bool} (holds : someTail found cs = true)
    (front : List Char) : someTail found (front ++ cs) = true := by
  induction front with
  | nil => exact holds
  | cons c rest ih => rw [List.cons_append, someTail, ih, Bool.or_true]

/-- Two words with nothing but white space between them are found. -/
theorem meets_of_apart (solid : Solid second) (front : List Char) {gap : List Char}
    (blank : ∀ c ∈ gap, isBlank c = true) (behind : List Char) :
    meets first second (front ++ (first ++ (gap ++ (second ++ behind)))) = true := by
  have here : opensWith first second (first ++ (gap ++ (second ++ behind))) = true := by
    rw [opensWith, List.drop_left, List.dropWhile_append_of_pos blank,
      solid.isPrefixOf_dropWhile, Bool.and_true, List.isPrefixOf_iff_prefix]
    exact List.prefix_append _ _
  apply someTail_append
  cases shape : first ++ (gap ++ (second ++ behind)) with
  | nil => rw [someTail, ← shape, here]
  | cons c rest => rw [someTail, ← shape, here, Bool.true_or]

/-- Where two words are found, nothing but white space is between them. -/
theorem exists_apart_of_meets (met : meets first second cs = true) :
    ∃ front gap behind, cs = front ++ (first ++ (gap ++ (second ++ behind))) ∧
      ∀ c ∈ gap, isBlank c = true := by
  have opened : ∀ {ds : List Char}, opensWith first second ds = true →
      ∃ gap behind, ds = first ++ (gap ++ (second ++ behind)) ∧
        ∀ c ∈ gap, isBlank c = true := by
    intro ds opens
    rw [opensWith, Bool.and_eq_true, List.isPrefixOf_iff_prefix,
      List.isPrefixOf_iff_prefix] at opens
    obtain ⟨⟨rest, rfl⟩, next⟩ := opens
    rw [List.drop_left] at next
    obtain ⟨behind, shape⟩ := next
    refine ⟨rest.takeWhile isBlank, behind, ?_, fun c member => List.mem_takeWhile_imp member⟩
    rw [shape, List.takeWhile_append_dropWhile]
  unfold meets at met
  induction cs with
  | nil =>
    obtain ⟨gap, behind, shape, blank⟩ := opened met
    exact ⟨[], gap, behind, shape, blank⟩
  | cons c rest ih =>
    rw [someTail, Bool.or_eq_true] at met
    rcases met with here | later
    · obtain ⟨gap, behind, shape, blank⟩ := opened here
      exact ⟨[], gap, behind, shape, blank⟩
    · obtain ⟨front, gap, behind, shape, blank⟩ := ih later
      exact ⟨c :: front, gap, behind, by rw [shape, List.cons_append], blank⟩

end SqlBuilder.Chars
