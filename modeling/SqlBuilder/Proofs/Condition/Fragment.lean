import SqlBuilder.Proofs.Condition.Mark

set_option autoImplicit false

namespace SqlBuilder

open Chars (isBlank)

/-- Two marks that no harmless text has together. -/
def Mark.barred : Mark → Mark → Bool
  | .opening, .connective c => c = .and
  | .connective _, .closing => true
  | .connective a, .connective b => a = b
  | _, _ => false

theorem Mark.leads_of_barred {one two : Mark} (barred : one.barred two = true) :
    one.leads = true := by
  cases one with
  | opening => rfl
  | connective c => rfl
  | closing => cases barred
  | order => cases barred

/-- The marks at the ends of two harmless texts, when these can stand behind each other. -/
def mild : Option Mark → Option Mark → Bool
  | none, _ => true
  | _, none => true
  | some pending, some seen => pending = .opening && (seen = .closing || seen = .order)

theorem barred_of_mild {pends opens : Option Mark} {one two : Mark}
    (apart : mild pends opens = true) (barred : one.barred two = true) :
    (pends = some one && opens.any (·.reads two)) = false := by
  rcases pends with _ | pending
  · rfl
  · rcases opens with _ | seen
    · exact Bool.and_false _
    · simp only [mild, Bool.and_eq_true, Bool.or_eq_true, decide_eq_true_eq] at apart
      obtain ⟨rfl, seen⟩ := apart
      rcases one with _ | _ | _ | _
      case opening =>
        rcases two with _ | _ | (_ | _) | _ <;> try cases barred
        rcases seen with rfl | rfl <;> rfl
      all_goals rfl

theorem order_of_mild {pends opens : Option Mark} (apart : mild pends opens = true) :
    (pends = some .opening && opens.any (·.reads (.connective .or))) =
      (pends = some .opening && opens.any (·.reads .order)) := by
  rcases pends with _ | pending
  · rfl
  · rcases opens with _ | seen
    · rfl
    · simp only [mild, Bool.and_eq_true, Bool.or_eq_true, decide_eq_true_eq] at apart
      obtain ⟨rfl, seen⟩ := apart
      rcases seen with rfl | rfl <;> rfl

/-- No white space at the start of a text. -/
def Starts (s : String) : Prop := ∃ c rest, s.toList = c :: rest ∧ isBlank c = false

/-- No white space and no last letter of a connective at the end of a text. -/
def Finishes (s : String) : Prop :=
  ∃ rest c, s.toList = rest ++ [c] ∧ isBlank c = false ∧ c ≠ 'D' ∧ c ≠ 'R'

/-- No white space at the end of a text. -/
def Ends (s : String) : Prop := ∃ rest c, s.toList = rest ++ [c] ∧ isBlank c = false

theorem Finishes.ends {s : String} (finishes : Finishes s) : Ends s := by
  obtain ⟨rest, c, shape, solid, _⟩ := finishes
  exact ⟨rest, c, shape, solid⟩

theorem Ends.append {t : String} (ends : Ends t) (s : String) : Ends (s ++ t) := by
  obtain ⟨rest, c, shape, solid⟩ := ends
  exact ⟨s.toList ++ rest, c, by rw [String.toList_append, shape, List.append_assoc], solid⟩

theorem Starts.append {s : String} (starts : Starts s) (t : String) : Starts (s ++ t) := by
  obtain ⟨c, rest, shape, solid⟩ := starts
  exact ⟨c, rest ++ t.toList, by rw [String.toList_append, shape, List.cons_append], solid⟩

theorem Finishes.append {t : String} (finishes : Finishes t) (s : String) : Finishes (s ++ t) := by
  obtain ⟨rest, c, shape, other⟩ := finishes
  exact ⟨s.toList ++ rest, c, by rw [String.toList_append, shape, List.append_assoc], other⟩

theorem Starts.exists_solid {s : String} (starts : Starts s) :
    ∃ c ∈ s.toList, isBlank c = false := by
  obtain ⟨c, rest, shape, solid⟩ := starts
  exact ⟨c, by rw [shape]; exact List.mem_cons_self, solid⟩

theorem starts_opening : Starts "(" := ⟨'(', [], rfl, rfl⟩

theorem finishes_opening : Finishes "(" := ⟨[], '(', rfl, rfl, by decide, by decide⟩

theorem starts_closing : Starts ")" := ⟨')', [], rfl, rfl⟩

theorem finishes_closing : Finishes ")" := ⟨[], ')', rfl, rfl, by decide, by decide⟩

/-- The opening parentheses of a text less its closing ones. -/
def net (cs : List Char) : Int := (cs.count '(' : Int) - cs.count ')'

theorem net_append (a b : List Char) : net (a ++ b) = net a + net b := by
  simp only [net, List.count_append, Int.natCast_add]
  omega

theorem net_of_silent {cs : List Char} (quiet : silent cs = true) : net cs = 0 := by
  induction cs with
  | nil => rfl
  | cons c rest ih =>
    obtain ⟨apart, others⟩ := silent_cons quiet
    have notOpening : c ≠ '(' := by
      rintro rfl
      cases apart .opening
    have notClosing : c ≠ ')' := by
      rintro rfl
      cases apart .closing
    have rest := ih others
    simpa [net, List.count_cons_of_ne notOpening, List.count_cons_of_ne notClosing] using rest

theorem net_blank {c : Char} (blank : isBlank c = true) (cs : List Char) :
    net (c :: cs) = net cs := by
  have notOpening : c ≠ '(' := by
    rintro rfl
    cases blank
  have notClosing : c ≠ ')' := by
    rintro rfl
    cases blank
  rw [net, List.count_cons_of_ne notOpening, List.count_cons_of_ne notClosing, net]

theorem net_dropWhile (cs : List Char) : net (cs.dropWhile isBlank) = net cs := by
  induction cs with
  | nil => rfl
  | cons c rest ih =>
    by_cases blank : isBlank c = true
    · rw [List.dropWhile_cons_of_pos blank, ih, net_blank blank]
    · rw [List.dropWhile_cons_of_neg blank]

theorem net_reverse (cs : List Char) : net cs.reverse = net cs := by
  rw [net, List.count_reverse, List.count_reverse, net]

theorem net_trim (cs : List Char) : net (Chars.trim cs) = net cs := by
  rw [Chars.trim, Chars.trimBy, net_reverse, net_dropWhile, net_reverse, net_dropWhile]

/-- Somewhere the text has closed a parenthesis that it had not opened. -/
def Dips (s : String) : Prop := ∃ front, front <+: s.toList ∧ net front < 0

theorem Dips.append {s : String} (dips : Dips s) (t : String) : Dips (s ++ t) := by
  obtain ⟨front, starts, below⟩ := dips
  refine ⟨front, ?_, below⟩
  rw [String.toList_append]
  exact starts.trans (List.prefix_append _ _)

theorem Dips.behind {s t : String} (dips : Dips t) (level : net s.toList = 0) :
    Dips (s ++ t) := by
  obtain ⟨front, starts, below⟩ := dips
  refine ⟨s.toList ++ front, ?_, ?_⟩
  · rw [String.toList_append]
    exact (List.prefix_append_right_inj _).mpr starts
  · rw [net_append, level]
    omega

/-- A text in which a search finds nothing at all. -/
structure Still (s : String) (opens pends : Option Mark) : Prop extends Reads s opens pends where
  empty : ∀ one two : Mark, one.leads = true → one.meet two s.toList = false

namespace Still

variable {s t : String} {opens opens' pends pends' : Option Mark}

theorem append (first : Still s opens pends) (second : Still t opens' pends')
    (apart : pends = none ∨ opens' = none) : Still (s ++ t) opens pends' where
  toReads := first.toReads.append second.toReads
  empty one two leads := by
    rw [first.toReads.meet_append second.toReads one two leads, first.empty one two leads,
      second.empty one two leads]
    rcases apart with rfl | rfl
    · rfl
    · simp

theorem of_closing (text : Still s opens (some .closing)) : Still s opens none where
  toReads := text.toReads.of_closing
  empty := text.empty

theorem silent (quiet : silent s.toList = true) (spoken : ∃ c ∈ s.toList, isBlank c = false) :
    Still s none none where
  toReads := .silent quiet spoken
  empty one two _ := one.meet_of_silent two quiet

theorem opening : Still "(" (some .opening) (some .opening) where
  toReads := .opening
  empty one two _ := by
    rcases one with _ | _ | (_ | _) | _ <;> rcases two with _ | _ | (_ | _) | _ <;> rfl

theorem closing : Still ")" (some .closing) (some .closing) where
  toReads := .closing
  empty one two _ := by
    rcases one with _ | _ | (_ | _) | _ <;> rcases two with _ | _ | (_ | _) | _ <;> rfl

theorem connective (c : Connective) :
    Still (" " ++ c.word ++ " ") (some (.connective c)) (some (.connective c)) where
  toReads := .connective c
  empty one two _ := by
    cases c <;> rcases one with _ | _ | (_ | _) | _ <;> rcases two with _ | _ | (_ | _) | _ <;> rfl

theorem order : Still "ORDER BY " (some .order) none where
  toReads := .order
  empty one two _ := by
    rcases one with _ | _ | (_ | _) | _ <;> rcases two with _ | _ | (_ | _) | _ <;> rfl

end Still

structure Harmless (s : String) (opens pends : Option Mark) : Prop extends Reads s opens pends where
  barred : ∀ one two : Mark, one.barred two = true → one.meet two s.toList = false
  /-- An `OR` behind a parenthesis is the beginning of `ORDER BY`. -/
  order : Mark.opening.meet (.connective .or) s.toList = Mark.opening.meet .order s.toList

theorem Still.harmless {s : String} {opens pends : Option Mark} (text : Still s opens pends) :
    Harmless s opens pends where
  toReads := text.toReads
  barred one two barred := text.empty one two (Mark.leads_of_barred barred)
  order := by rw [text.empty _ _ rfl, text.empty _ _ rfl]

namespace Harmless

variable {s t : String} {opens opens' pends pends' : Option Mark}

theorem append (first : Harmless s opens pends) (second : Harmless t opens' pends')
    (apart : mild pends opens' = true) : Harmless (s ++ t) opens pends' where
  toReads := first.toReads.append second.toReads
  barred one two barred := by
    rw [first.toReads.meet_append second.toReads one two (Mark.leads_of_barred barred),
      first.barred one two barred, second.barred one two barred, barred_of_mild apart barred]
    rfl
  order := by
    rw [first.toReads.meet_append second.toReads _ _ rfl,
      first.toReads.meet_append second.toReads _ _ rfl, first.order, second.order,
      order_of_mild apart]

theorem space (text : Harmless s opens pends) : Harmless (" " ++ s) opens pends where
  toReads := text.toReads.space
  barred one two barred := by
    rw [String.toList_append]
    exact (one.meet_blank two rfl _).trans (text.barred one two barred)
  order := by
    rw [String.toList_append]
    exact text.order

theorem of_closing (text : Harmless s opens (some .closing)) : Harmless s opens none where
  toReads := text.toReads.of_closing
  barred := text.barred
  order := text.order

end Harmless

/-- A harmless text with as many closing parentheses as opening ones, in which an opening one is the
last of a condition only after another was closed too many. -/
structure Portion (s : String) (opens pends : Option Mark) : Prop
    extends Harmless s opens pends where
  pending : pends = none ∨ pends = some .opening
  level : net s.toList = 0
  dips : pends = some .opening ∨ Mark.opening.meet .closing s.toList = true ∨
    Mark.opening.meet .order s.toList = true → Dips s

namespace Portion

variable {s t : String} {opens opens' pends pends' : Option Mark}

theorem silent (quiet : silent s.toList = true) (starts : Starts s) : Portion s none none where
  toHarmless := (Still.silent quiet starts.exists_solid).harmless
  pending := .inl rfl
  level := net_of_silent quiet
  dips loose := by simp [Mark.meet_of_silent _ _ quiet] at loose

theorem orderBy : Portion "ORDER BY " (some .order) none where
  toHarmless := Still.order.harmless
  pending := .inl rfl
  level := rfl
  dips loose := by
    rw [Still.order.empty .opening .closing rfl, Still.order.empty .opening .order rfl] at loose
    simp at loose

theorem append (first : Portion s opens pends) (second : Portion t opens' pends')
    (apart : mild pends opens' = true) : Portion (s ++ t) opens pends' where
  toHarmless := first.toHarmless.append second.toHarmless apart
  pending := second.pending
  level := by rw [String.toList_append, net_append, first.level, second.level]; rfl
  dips loose := by
    rw [first.toReads.meet_append second.toReads _ _ rfl,
      first.toReads.meet_append second.toReads _ _ rfl] at loose
    by_cases behind : pends' = some .opening ∨ Mark.opening.meet .closing t.toList = true ∨
        Mark.opening.meet .order t.toList = true
    · exact (second.dips behind).behind first.level
    · refine (first.dips ?_).append t
      simp only [not_or, Bool.not_eq_true] at behind
      simp only [behind, Bool.or_false, false_or, Bool.or_eq_true, Bool.and_eq_true,
        decide_eq_true_eq] at loose
      rcases loose with (inside | ⟨same, _⟩) | (inside | ⟨same, _⟩)
      · exact .inr (.inl inside)
      · exact .inl same
      · exact .inr (.inr inside)
      · exact .inl same

theorem space (text : Portion s opens pends) : Portion (" " ++ s) opens pends where
  toHarmless := text.toHarmless.space
  pending := text.pending
  level := by rw [String.toList_append, net_append, text.level]; rfl
  dips loose := by
    rw [String.toList_append] at loose
    exact (text.dips loose).behind rfl

end Portion

end SqlBuilder
