import SqlBuilder.Proofs.Condition.Verdict

set_option autoImplicit false

namespace SqlBuilder

open Chars (isBlank)

/-- A comparison, or a raw fragment that is more than white space. -/
def Token.Substantial : Token → Prop
  | .comparison .. => True
  | .raw text _ => ∃ c ∈ text.toList, isBlank c = false
  | _ => False

/-- No group was closed while none was open. -/
def Condition.Nested (c : Condition) : Prop :=
  ∀ front back, c.tokens = front ++ .closing :: back → 0 < Token.depth front

namespace Token

theorem toList_connective (k : Connective) :
    (connective k).sql.text.toList = ' ' :: (k.word.toList ++ [' ']) := by
  cases k <;> rfl

/-- What is neither of substance nor a mark is white space. -/
theorem isBlank_of_hollow {t : Token} (hollow : ¬ t.Substantial) (unmarked : t.mark? = none) :
    ∀ c ∈ t.sql.text.toList, isBlank c = true := by
  cases t with
  | comparison negated sql => exact absurd trivial hollow
  | raw text values =>
    intro c member
    have spelled : (raw text values).sql.text = text := by simp [sql, Piece.text]
    rw [spelled] at member
    by_contra solid
    exact hollow ⟨c, member, by simpa using solid⟩
  | _ => cases unmarked

theorem isBlank_joined {tokens : List Token} (hollow : ∀ t ∈ tokens, ¬ t.Substantial)
    (unmarked : ∀ t ∈ tokens, t.mark? = none) :
    ∀ c ∈ (joined tokens).toList, isBlank c = true := by
  induction tokens with
  | nil => nofun
  | cons t rest ih =>
    have first := isBlank_of_hollow (hollow t List.mem_cons_self) (unmarked t List.mem_cons_self)
    have others := ih (fun u member => hollow u (List.mem_cons_of_mem t member))
      fun u member => unmarked u (List.mem_cons_of_mem t member)
    intro c member
    rw [joined_cons, String.toList_append] at member
    rcases List.mem_append.mp member with here | later
    · exact first c here
    · exact others c later

/-- The first mark among tokens. -/
theorem first_marked (tokens : List Token) :
    (∀ t ∈ tokens, t.mark? = none) ∨ ∃ front t back, tokens = front ++ t :: back ∧
      t.mark? ≠ none ∧ ∀ u ∈ front, u.mark? = none := by
  cases found : tokens.find? fun t => t.mark?.isSome with
  | none =>
    rw [List.find?_eq_none] at found
    exact .inl fun t member => by simpa using found t member
  | some t =>
    obtain ⟨marked, front, back, shape, before⟩ := List.find?_eq_some_iff_append.mp found
    refine .inr ⟨front, t, back, shape, Option.isSome_iff_ne_none.mp marked, fun u member => ?_⟩
    simpa using before u member

/-- The last mark among tokens. -/
theorem last_marked (tokens : List Token) :
    (∀ t ∈ tokens, t.mark? = none) ∨ ∃ front t back, tokens = front ++ t :: back ∧
      t.mark? ≠ none ∧ ∀ u ∈ back, u.mark? = none := by
  rcases first_marked tokens.reverse with none | ⟨front, t, back, shape, marked, unmarked⟩
  · exact .inl fun t member => none t (List.mem_reverse.mpr member)
  · refine .inr ⟨back.reverse, t, front.reverse, ?_, marked, fun u member => ?_⟩
    · rw [← List.reverse_reverse tokens, shape]
      simp
    · exact unmarked u (List.mem_reverse.mp member)

end Token

namespace Condition

variable {c : Condition}

theorem nested_blank : blank.Nested := by
  intro front back shape
  cases front <;> cases shape

/-- A push keeps groups nested, unless it closes one while none is open. -/
theorem nested_push {t : Token} :
    (c.push t).Nested ↔ c.Nested ∧ (t.mark? = some .closing → 0 < c.depth) := by
  constructor
  · intro nested
    refine ⟨fun front back shape => ?_, fun marked => ?_⟩
    · apply nested front (back ++ [t])
      rw [push, shape, List.append_assoc, List.cons_append]
    · cases t with
      | closing => exact nested c.tokens [] rfl
      | _ => cases marked
  · rintro ⟨nested, last⟩ front back shape
    rcases List.eq_nil_or_concat back with rfl | ⟨before, u, rfl⟩
    · obtain ⟨rfl, closing⟩ := List.append_inj' (shape : c.tokens ++ [t] = front ++ [.closing]) rfl
      apply last
      rw [List.singleton_inj.mp closing]
      rfl
    · rw [List.concat_eq_append, ← List.cons_append, ← List.append_assoc] at shape
      obtain ⟨earlier, _⟩ := List.append_inj' shape rfl
      exact nested front before earlier

/-- What some of the checks on the text of a condition say when all are passed. -/
structure Checked (c : Condition) : Prop where
  level : c.depth = 0
  beforeClosing : ∀ k : Connective,
    (Mark.connective k).meet .closing (Token.joined c.tokens).toList = false
  group : Mark.opening.meet .closing (Token.joined c.tokens).toList = false
  starts : ∀ k, (Mark.connective k).heads (Token.joined c.tokens).toList = false
  nonempty : c.text ≠ ""

theorem checked_of_faultless (faultless : c.fault? = none) : c.Checked := by
  obtain ⟨level, apart, _, starts, nonempty⟩ := fault?_eq_none.mp faultless
  refine ⟨level, fun k => ?_, ?_, fun k => ?_, fun empty => nonempty ?_⟩
  · rw [← meets_text]
    exact apart (.connective k) .closing rfl
  · rw [← meets_text]
    exact apart .opening .closing rfl
  · rw [← isPrefixOf_text]
    exact starts k
  · rw [empty]
    rfl

/-- Where a group is closed for the first time, it holds a token of substance. -/
theorem Checked.substantial_of_closing (checked : c.Checked) (nested : c.Nested)
    {front back : List Token} (shape : c.tokens = front ++ .closing :: back)
    (first : ∀ t ∈ front, t.mark? ≠ some .closing) : ∃ t ∈ c.tokens, t.Substantial := by
  by_contra none
  have hollow : ∀ t ∈ c.tokens, ¬ t.Substantial := fun t member found => none ⟨t, member, found⟩
  have opened : 0 < Token.depth front := nested front back shape
  have closings : front.countP (·.mark? = some .closing) = 0 := by
    rw [List.countP_eq_zero]
    intro t member
    simpa using first t member
  rw [Token.depth_eq_count, closings] at opened
  -- Something was opened, so there is a mark in front; the last one decides which check fails.
  rcases Token.last_marked front with unmarked | ⟨outer, t, gap, within, marked, unmarked⟩
  · have openings : front.countP (·.mark? = some .opening) = 0 := by
      rw [List.countP_eq_zero]
      intro t member
      simp [unmarked t member]
    omega
  · rw [within] at shape first
    have blank : ∀ d ∈ (Token.joined gap).toList, isBlank d = true :=
      Token.isBlank_joined (fun u member => hollow u (by rw [shape]; simp [member])) unmarked
    have joined : (Token.joined c.tokens).toList = (Token.joined outer).toList ++
        (t.sql.text.toList ++ ((Token.joined gap).toList ++
          (")".toList ++ (Token.joined back).toList))) := by
      rw [shape]
      simp only [Token.joined_append, Token.joined_cons, String.toList_append, List.append_assoc]
      rfl
    cases t with
    | opening => exact Mark.not_apart .opening .closing checked.group blank joined
    | closing => exact first .closing (by simp) rfl
    | connective k =>
      have spaced : ∀ d ∈ ' ' :: (Token.joined gap).toList, isBlank d = true :=
        List.forall_mem_cons.mpr ⟨rfl, blank⟩
      have apart : (Token.joined c.tokens).toList = ((Token.joined outer).toList ++ [' ']) ++
          ((Mark.connective k).word.toList ++ ((' ' :: (Token.joined gap).toList) ++
            (")".toList ++ (Token.joined back).toList))) := by
        rw [joined, Token.toList_connective]
        simp only [List.append_assoc, List.cons_append, List.nil_append]
        rfl
      exact Mark.not_apart (.connective k) .closing (checked.beforeClosing k) spaced apart
    | comparison negated sql => exact marked rfl
    | raw text values => exact marked rfl

/-- Without any group, the first mark would start the text. -/
theorem Checked.substantial_of_flat (checked : c.Checked)
    (flat : ∀ t ∈ c.tokens, t.mark? ≠ some .closing) : ∃ t ∈ c.tokens, t.Substantial := by
  by_contra none
  have hollow : ∀ t ∈ c.tokens, ¬ t.Substantial := fun t member found => none ⟨t, member, found⟩
  have closings : c.tokens.countP (·.mark? = some .closing) = 0 := by
    rw [List.countP_eq_zero]
    intro t member
    simpa using flat t member
  have level := checked.level
  rw [depth, Token.depth_eq_count, closings] at level
  -- No group was closed, so none was opened, and only connectives are left as marks.
  have openings : c.tokens.countP (·.mark? = some .opening) = 0 := by omega
  rw [List.countP_eq_zero] at openings
  rcases Token.first_marked c.tokens with unmarked | ⟨gap, t, back, shape, marked, unmarked⟩
  · have empty := Chars.trim_eq_nil.mpr (Token.isBlank_joined hollow unmarked)
    apply checked.nonempty
    rw [text, ← String.toList_eq_nil_iff, Chars.trimText, String.toList_ofList]
    exact empty
  · have member : t ∈ c.tokens := by rw [shape]; simp
    have blank : ∀ d ∈ (Token.joined gap).toList, isBlank d = true :=
      Token.isBlank_joined (fun u member => hollow u (by rw [shape]; simp [member])) unmarked
    cases t with
    | opening => exact openings .opening member (by decide)
    | closing => exact flat .closing member rfl
    | connective k =>
      have missed := checked.starts k
      have spaced : ∀ d ∈ (Token.joined gap).toList ++ [' '], isBlank d = true := by
        intro d inside
        rcases List.mem_append.mp inside with before | last
        · exact blank d before
        · rw [List.mem_singleton.mp last]
          rfl
      have found := (Mark.connective k).heads_behind spaced
        (' ' :: (Token.joined back).toList)
      have joined : (Token.joined c.tokens).toList = (Token.joined gap).toList ++ [' '] ++
          ((Mark.connective k).word.toList ++ (' ' :: (Token.joined back).toList)) := by
        rw [shape, Token.joined_append, Token.joined_cons, String.toList_append,
          String.toList_append, Token.toList_connective]
        simp only [List.append_assoc, List.cons_append, List.nil_append]
        rfl
      rw [joined, found] at missed
      cases missed
    | comparison negated sql => exact marked rfl
    | raw text values => exact marked rfl

/-- A condition that passes all checks has a token of substance. -/
theorem substantial_of_faultless (nested : c.Nested) (faultless : c.fault? = none) :
    ∃ t ∈ c.tokens, t.Substantial := by
  have checked := checked_of_faultless faultless
  cases found : c.tokens.find? fun t => t.mark? = some .closing with
  | none =>
    rw [List.find?_eq_none] at found
    exact checked.substantial_of_flat fun t member => by simpa using found t member
  | some t =>
    obtain ⟨marked, front, back, shape, before⟩ := List.find?_eq_some_iff_append.mp found
    cases t with
    | closing =>
      exact checked.substantial_of_closing nested shape fun u member => by
        simpa using before u member
    | _ => cases of_decide_eq_true marked

end Condition

end SqlBuilder
