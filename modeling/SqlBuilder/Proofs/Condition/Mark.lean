import SqlBuilder.Condition.Grammar
import SqlBuilder.Proofs.Chars.Search

set_option autoImplicit false

namespace SqlBuilder

open Chars (isBlank meets someTail opensWith)

/-- A word that is looked for; `ORDER BY` is taken for an `OR`. -/
inductive Mark
  | opening
  | closing
  | connective (c : Connective)
  | order
  deriving DecidableEq

namespace Mark

def word : Mark → String
  | .opening => "("
  | .closing => ")"
  | .connective c => c.word
  | .order => "ORDER BY"

/-- The mark can be the first of the two that a search looks for. -/
def leads : Mark → Bool
  | .opening | .connective _ => true
  | _ => false

/-- Two marks that no accepted text has with white space alone between them. -/
def clashes : Mark → Mark → Bool
  | .opening, .closing | .opening, .connective _ | .connective _, .closing => true
  | .connective a, .connective b => a = b
  | _, _ => false

/-- Somewhere in the text the two marks stand apart by white space alone. -/
def meet (one two : Mark) (cs : List Char) : Bool := meets one.word.toList two.word.toList cs

/-- The text starts with the mark, behind any white space. -/
def heads (m : Mark) (cs : List Char) : Bool := m.word.toList.isPrefixOf (cs.dropWhile isBlank)

/-- A text that opens with the first mark starts with the second. -/
def reads (seen m : Mark) : Bool := m.word.toList.isPrefixOf seen.word.toList

theorem solid (m : Mark) : Chars.Solid m.word.toList := by
  have first : (m.word.toList.head?.all fun c => !isBlank c) = true := by
    rcases m with _ | _ | (_ | _) | _ <;> rfl
  have last : (m.word.toList.getLast?.all fun c => !isBlank c) = true := by
    rcases m with _ | _ | (_ | _) | _ <;> rfl
  refine ⟨fun c rest shape => ?_, fun rest c shape => ?_, ?_⟩
  · rw [shape] at first
    simpa using first
  · rw [shape] at last
    simpa using last
  · rcases m with _ | _ | (_ | _) | _ <;> nofun

theorem meet_cons (one two : Mark) (c : Char) (cs : List Char) :
    one.meet two (c :: cs) =
      (opensWith one.word.toList two.word.toList (c :: cs) || one.meet two cs) := rfl

theorem meet_blank (one two : Mark) {c : Char} (blank : isBlank c = true) (cs : List Char) :
    one.meet two (c :: cs) = one.meet two cs :=
  Chars.meets_blank one.solid blank

theorem heads_blank (m : Mark) {c : Char} (blank : isBlank c = true) (cs : List Char) :
    m.heads (c :: cs) = m.heads cs := by
  rw [heads, List.dropWhile_cons_of_pos blank, heads]

theorem meet_apart (one two : Mark) (front : List Char) {gap : List Char}
    (blank : ∀ c ∈ gap, isBlank c = true) (behind : List Char) :
    one.meet two (front ++ (one.word.toList ++ (gap ++ (two.word.toList ++ behind)))) = true :=
  Chars.meets_of_apart two.solid front blank behind

/-- A text in which a search finds nothing does not have its two marks apart by white space. -/
theorem not_apart (one two : Mark) {text front gap behind : List Char}
    (missed : one.meet two text = false) (blank : ∀ c ∈ gap, isBlank c = true) :
    text ≠ front ++ (one.word.toList ++ (gap ++ (two.word.toList ++ behind))) := by
  rintro rfl
  rw [one.meet_apart two front blank behind] at missed
  cases missed

theorem heads_behind (m : Mark) {gap : List Char} (blank : ∀ c ∈ gap, isBlank c = true)
    (behind : List Char) : m.heads (gap ++ (m.word.toList ++ behind)) = true := by
  rw [heads, List.dropWhile_append_of_pos blank, m.solid.isPrefixOf_dropWhile]

end Mark

/-- How a text reads in front of any remainder: the mark it opens with, the mark it leaves pending,
and no mark that begins in it and ends in the remainder. -/
structure Reads (s : String) (opens pends : Option Mark) : Prop where
  heads : ∀ (m : Mark) rest, m.heads (s.toList ++ rest) = opens.any (·.reads m)
  meet : ∀ (one two : Mark) rest, one.leads = true →
    one.meet two (s.toList ++ rest) =
      (one.meet two s.toList || (pends = some one && two.heads rest) || one.meet two rest)

namespace Reads

variable {s t : String} {opens opens' pends pends' : Option Mark}

theorem meet_append (first : Reads s opens pends) (second : Reads t opens' pends')
    (one two : Mark) (leads : one.leads = true) :
    one.meet two (s ++ t).toList =
      (one.meet two s.toList || (pends = some one && opens'.any (·.reads two)) ||
        one.meet two t.toList) := by
  have start : two.heads t.toList = opens'.any (·.reads two) := by
    simpa only [List.append_nil] using second.heads two []
  rw [String.toList_append, first.meet one two _ leads, start]

theorem append (first : Reads s opens pends) (second : Reads t opens' pends') :
    Reads (s ++ t) opens pends' where
  heads m rest := by
    rw [String.toList_append, List.append_assoc, first.heads]
  meet one two rest leads := by
    rw [meet_append first second one two leads, String.toList_append, List.append_assoc,
      first.meet one two _ leads, second.heads, second.meet one two _ leads]
    simp only [Bool.or_assoc]

/-- White space in front makes no difference. -/
theorem space (text : Reads s opens pends) : Reads (" " ++ s) opens pends where
  heads m rest := by
    rw [String.toList_append, List.append_assoc]
    exact (m.heads_blank rfl _).trans (text.heads m rest)
  meet one two rest leads := by
    have blank : ∀ cs, one.meet two (" ".toList ++ cs) = one.meet two cs :=
      one.meet_blank two rfl
    rw [String.toList_append, List.append_assoc, blank, blank, text.meet one two rest leads]

/-- No search starts from a closing parenthesis. -/
theorem of_closing (text : Reads s opens (some .closing)) : Reads s opens none where
  heads := text.heads
  meet one two rest leads := by
    rw [text.meet one two rest leads]
    cases one with
    | closing => cases leads
    | _ => rfl

theorem opening : Reads "(" (some .opening) (some .opening) where
  heads m rest := by rcases m with _ | _ | (_ | _) | _ <;> rfl
  meet one two rest leads := by
    rcases one with _ | _ | (_ | _) | _
    case opening => rcases two with _ | _ | (_ | _) | _ <;> rfl
    all_goals rfl

theorem closing : Reads ")" (some .closing) (some .closing) where
  heads m rest := by rcases m with _ | _ | (_ | _) | _ <;> rfl
  meet one two rest leads := by
    rcases one with _ | _ | (_ | _) | _
    case closing => cases leads
    all_goals rfl

theorem connective (c : Connective) :
    Reads (" " ++ c.word ++ " ") (some (.connective c)) (some (.connective c)) where
  heads m rest := by cases c <;> rcases m with _ | _ | (_ | _) | _ <;> rfl
  meet one two rest leads := by
    cases c <;> rcases one with _ | _ | (_ | _) | _ <;>
      rcases two with _ | _ | (_ | _) | _ <;> rfl

theorem order : Reads "ORDER BY " (some .order) none where
  heads m rest := by rcases m with _ | _ | (_ | _) | _ <;> rfl
  meet one two rest leads := by
    rcases one with _ | _ | (_ | _) | _ <;>
      rcases two with _ | _ | (_ | _) | _ <;> first | rfl | cases leads

end Reads

/-- The mark starts the text, or the text starts the mark and a remainder could complete it. -/
def Mark.touches (m : Mark) (cs : List Char) : Bool :=
  m.word.toList.isPrefixOf cs || cs.isPrefixOf m.word.toList

def Mark.all : List Mark := [.opening, .closing, .connective .and, .connective .or, .order]

theorem Mark.mem_all (m : Mark) : m ∈ Mark.all := by
  rcases m with _ | _ | (_ | _) | _ <;> decide

/-- No mark starts in the text, whatever comes behind it. -/
def silent : List Char → Bool
  | [] => true
  | c :: rest => (Mark.all.all fun m => !m.touches (c :: rest)) && silent rest

theorem silent_cons {c : Char} {rest : List Char} (quiet : silent (c :: rest) = true) :
    (∀ m : Mark, m.touches (c :: rest) = false) ∧ silent rest = true := by
  rw [silent, Bool.and_eq_true, List.all_eq_true] at quiet
  exact ⟨fun m => by simpa using quiet.1 m m.mem_all, quiet.2⟩

/-- A mark that does not touch a text does not start it, whatever comes behind. -/
theorem Mark.not_isPrefixOf_append (m : Mark) {cs : List Char} (apart : m.touches cs = false)
    (rest : List Char) : m.word.toList.isPrefixOf (cs ++ rest) = false := by
  rw [touches, Bool.or_eq_false_iff] at apart
  rw [← Bool.not_eq_true, List.isPrefixOf_iff_prefix]
  intro starts
  rcases List.prefix_or_prefix_of_prefix starts (List.prefix_append cs rest) with short | long
  · rw [List.isPrefixOf_iff_prefix.mpr short] at apart
    cases apart.1
  · rw [List.isPrefixOf_iff_prefix.mpr long] at apart
    cases apart.2

theorem Mark.touches_append (m : Mark) {cs : List Char} (apart : m.touches cs = false)
    (rest : List Char) : m.touches (cs ++ rest) = false := by
  rw [touches, m.not_isPrefixOf_append apart, Bool.false_or, ← Bool.not_eq_true,
    List.isPrefixOf_iff_prefix]
  intro long
  have shorter : cs <+: m.word.toList := (List.prefix_append cs rest).trans long
  rw [touches, List.isPrefixOf_iff_prefix.mpr shorter, Bool.or_true] at apart
  cases apart

theorem silent_append {a b : List Char} (first : silent a = true) (second : silent b = true) :
    silent (a ++ b) = true := by
  induction a with
  | nil => exact second
  | cons c rest ih =>
    obtain ⟨apart, others⟩ := silent_cons first
    rw [List.cons_append, silent, ih others, Bool.and_true, List.all_eq_true]
    intro m _
    rw [← List.cons_append, m.touches_append (apart m)]
    rfl

/-- Every mark starts with a parenthesis or with the first letter of a connective. -/
theorem Mark.exists_start (m : Mark) :
    ∃ c rest, m.word.toList = c :: rest ∧ (c = '(' ∨ c = ')' ∨ c = 'A' ∨ c = 'O') := by
  rcases m with _ | _ | (_ | _) | _
  case opening => exact ⟨'(', [], rfl, by decide⟩
  case closing => exact ⟨')', [], rfl, by decide⟩
  case connective.and => exact ⟨'A', ['N', 'D'], rfl, by decide⟩
  case connective.or => exact ⟨'O', ['R'], rfl, by decide⟩
  case order => exact ⟨'O', "RDER BY".toList, rfl, by decide⟩

theorem silent_of_plain {cs : List Char}
    (plain : ∀ c ∈ cs, c ≠ '(' ∧ c ≠ ')' ∧ c ≠ 'A' ∧ c ≠ 'O') : silent cs = true := by
  induction cs with
  | nil => rfl
  | cons c rest ih =>
    have here := plain c List.mem_cons_self
    rw [silent, ih fun d member => plain d (List.mem_cons_of_mem c member), Bool.and_true,
      List.all_eq_true]
    intro m _
    obtain ⟨start, others, spelled, marked⟩ := m.exists_start
    have other : start ≠ c := by
      rintro rfl
      rcases marked with same | same | same | same <;> simp [same] at here
    simp [Mark.touches, spelled, List.isPrefixOf_cons_cons, other, other.symm]

/-- In front of a remainder, a text without marks is passed over. -/
theorem Mark.meet_silent (one two : Mark) {cs : List Char} (quiet : silent cs = true)
    (rest : List Char) : one.meet two (cs ++ rest) = one.meet two rest := by
  induction cs with
  | nil => rfl
  | cons c cs ih =>
    obtain ⟨apart, others⟩ := silent_cons quiet
    have start := one.not_isPrefixOf_append (apart one) rest
    rw [List.cons_append] at start ⊢
    rw [Mark.meet_cons, opensWith, start, Bool.false_and, Bool.false_or, ih others]

theorem Mark.meet_of_silent (one two : Mark) {cs : List Char} (quiet : silent cs = true) :
    one.meet two cs = false := by
  have passed := one.meet_silent two quiet []
  rw [List.append_nil] at passed
  rw [passed, Mark.meet, meets, someTail, opensWith, one.solid.not_isPrefixOf_nil, Bool.false_and]

theorem Reads.silent {s : String} (quiet : silent s.toList = true)
    (spoken : ∃ c ∈ s.toList, isBlank c = false) : Reads s none none where
  heads m rest := by
    revert quiet spoken
    induction s.toList with
    | nil => simp
    | cons c cs ih =>
      intro quiet spoken
      obtain ⟨apart, others⟩ := silent_cons quiet
      by_cases blank : isBlank c = true
      · rw [List.cons_append, m.heads_blank blank]
        refine ih others ?_
        obtain ⟨d, member, solid⟩ := spoken
        rcases List.mem_cons.mp member with rfl | member
        · rw [blank] at solid
          cases solid
        · exact ⟨d, member, solid⟩
      · have start := m.not_isPrefixOf_append (apart m) rest
        rw [List.cons_append] at start ⊢
        rw [Mark.heads, List.dropWhile_cons_of_neg blank, start, Option.any_none]
  meet one two rest _ := by
    rw [one.meet_silent two quiet, one.meet_of_silent two quiet]
    rfl

end SqlBuilder
