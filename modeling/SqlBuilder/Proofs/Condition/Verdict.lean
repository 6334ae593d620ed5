import SqlBuilder.Condition.Grammar
import SqlBuilder.Proofs.Condition.Fragment

set_option autoImplicit false

namespace SqlBuilder

theorem ite_fault_eq_none {p : Prop} [Decidable p] {fault : GrammarFault}
    {other : Option GrammarFault} :
    (if p then some fault else other) = none ↔ ¬ p ∧ other = none := by
  by_cases found : p <;> simp [found]

/-- Some connective fits `found`. -/
def someConnective (found : Connective → Bool) : Bool := found .and || found .or

namespace Token

/-- The mark that a token is; a comparison and a raw fragment are none. -/
def mark? : Token → Option Mark
  | .connective c => some (.connective c)
  | .opening => some .opening
  | .closing => some .closing
  | _ => none

/-- The token's own text has the two marks next to each other. -/
def holds (one two : Mark) (t : Token) : Bool := one.meet two t.sql.text.toList

/-- The two marks are tokens next to each other. -/
def adjacent (one two : Mark) : List Token → Bool
  | t :: u :: rest => (t.mark? = some one && u.mark? = some two) || adjacent one two (u :: rest)
  | _ => false

/-- The first fault of a list of tokens; `inside` tells which marks are next to each other in the
text of a single token. -/
def verdict (inside : Mark → Mark → Bool) (tokens : List Token) : Option GrammarFault :=
  if tokens.countP (·.mark? = some .opening) ≠ tokens.countP (·.mark? = some .closing) then
    some .unmatched
  else if (someConnective fun c => adjacent .opening (.connective c) tokens) ||
      inside .opening .order then some .afterOpening
  else if someConnective fun c => adjacent (.connective c) .closing tokens then some .beforeClosing
  else if someConnective fun c => adjacent (.connective c) (.connective c) tokens then
    some .consecutive
  else if adjacent .opening .closing tokens || inside .opening .closing then some .emptyGroup
  else if someConnective fun c => tokens.getLast?.bind mark? = some (.connective c) then some .atEnd
  else if someConnective fun c => tokens.head?.bind mark? = some (.connective c) then some .atStart
  else if tokens.isEmpty then some .empty
  else none

/-- The joined text of tokens. -/
def joined (tokens : List Token) : String := Sql.text (tokens.flatMap Token.sql)

/-- What the tokens of a condition come to: their verdict, or their joined text without the white
space at its ends. -/
def judgement (inside : Mark → Mark → Bool) (tokens : List Token) : Except Error String :=
  match verdict inside tokens with
  | some fault => .error (.grammar fault)
  | none => .ok (Chars.trimText (joined tokens))

end Token

/-- A token whose text keeps its marks to itself. -/
structure Token.Legible (t : Token) : Prop where
  harmless : Harmless t.sql.text t.mark? t.mark?
  level : net t.sql.text.toList = t.rise
  starts : (∀ c, t.mark? ≠ some (.connective c)) → Starts t.sql.text
  finishes : (∀ c, t.mark? ≠ some (.connective c)) → Finishes t.sql.text

namespace Token

variable {t : Token}

theorem legible_opening : opening.Legible where
  harmless := Still.opening.harmless
  level := rfl
  starts _ := starts_opening
  finishes _ := finishes_opening

theorem legible_closing : closing.Legible where
  harmless := Still.closing.harmless
  level := rfl
  starts _ := starts_closing
  finishes _ := finishes_closing

theorem legible_connective (c : Connective) : (connective c).Legible where
  level := by cases c <;> rfl
  harmless := by
    have spelled : (connective c).sql.text = " " ++ c.word ++ " " := by simp [sql, Piece.text]
    rw [spelled]
    exact (Still.connective c).harmless
  starts other := absurd rfl (other c)
  finishes other := absurd rfl (other c)

theorem text_negated (sql : Sql) : (comparison true sql).sql.text = "NOT " ++ sql.text :=
  Sql.text_cons _ _

theorem legible_comparison {sql : Sql} (negated : Bool) (harmless : Harmless sql.text none none)
    (level : net sql.text.toList = 0) (starts : Starts sql.text) (finishes : Finishes sql.text) :
    (comparison negated sql).Legible := by
  cases negated with
  | false => exact ⟨harmless, level, fun _ => starts, fun _ => finishes⟩
  | true =>
    have word : Starts "NOT " := ⟨'N', "OT ".toList, rfl, rfl⟩
    refine ⟨?_, ?_, fun _ => ?_, fun _ => ?_⟩
    · rw [text_negated]
      exact (Still.silent rfl word.exists_solid).harmless.append harmless rfl
    · rw [text_negated, String.toList_append, net_append, level]
      rfl
    · rw [text_negated]
      exact word.append sql.text
    · rw [text_negated]
      exact finishes.append "NOT "

/-- The only mark that reads as another is no token. -/
theorem mark?_reads (t : Token) (m : Mark) :
    t.mark?.any (·.reads m) = decide (t.mark? = some m) := by
  rcases t with _ | _ | (_ | _) | _ | _ <;> rcases m with _ | _ | (_ | _) | _ <;> rfl

/-- `ORDER BY` stands in queries only. -/
theorem mark?_ne_order (t : Token) : t.mark? ≠ some .order := by
  cases t <;> simp [mark?]

theorem adjacent_order (one : Mark) (tokens : List Token) : adjacent one .order tokens = false := by
  induction tokens with
  | nil => rfl
  | cons t rest ih =>
    cases rest with
    | nil => rfl
    | cons u rest => simp [adjacent, ih, u.mark?_ne_order]

@[simp] theorem joined_nil : joined [] = "" := rfl

theorem joined_cons (t : Token) (rest : List Token) :
    joined (t :: rest) = t.sql.text ++ joined rest := by
  rw [joined, List.flatMap_cons, Sql.text_append, joined]

theorem joined_append (tokens others : List Token) :
    joined (tokens ++ others) = joined tokens ++ joined others := by
  rw [joined, List.flatMap_append, Sql.text_append, joined, joined]

/-- Joined tokens open with the mark of the first and leave that of the last. -/
theorem reads_joined {t : Token} {rest : List Token} (legible : ∀ u ∈ t :: rest, u.Legible) :
    Reads (joined (t :: rest)) t.mark? ((t :: rest).getLast?.bind mark?) := by
  induction rest generalizing t with
  | nil =>
    rw [joined_cons, joined_nil, String.append_empty]
    exact (legible t List.mem_cons_self).harmless.toReads
  | cons u rest ih =>
    have first := (legible t List.mem_cons_self).harmless.toReads
    have others := ih fun v member => legible v (List.mem_cons_of_mem t member)
    rw [joined_cons, List.getLast?_cons_cons]
    exact first.append others

/-- A search in the joined text finds what a token holds and what two neighbours make. -/
theorem meet_joined {tokens : List Token} (legible : ∀ t ∈ tokens, t.Legible) (one two : Mark)
    (leads : one.leads = true) :
    one.meet two (joined tokens).toList =
      (adjacent one two tokens || tokens.any (holds one two)) := by
  induction tokens with
  | nil => exact one.meet_of_silent two rfl
  | cons t rest ih =>
    have others := ih fun u member => legible u (List.mem_cons_of_mem t member)
    cases rest with
    | nil =>
      rw [joined_cons, joined_nil, String.append_empty]
      simp [adjacent, holds]
    | cons u rest =>
      have first := (legible t List.mem_cons_self).harmless.toReads
      have second := reads_joined fun v member => legible v (List.mem_cons_of_mem t member)
      rw [joined_cons, first.meet_append second one two leads, others, mark?_reads, adjacent,
        List.any_cons (l := u :: rest), holds]
      simp only [Bool.or_assoc, Bool.or_comm, Bool.or_left_comm]

/-- Marks that no harmless text has together are found at neighbours only. -/
theorem meet_joined_of_barred {tokens : List Token} (legible : ∀ t ∈ tokens, t.Legible)
    {one two : Mark} (barred : one.barred two = true) :
    one.meet two (joined tokens).toList = adjacent one two tokens := by
  have none : tokens.any (holds one two) = false := by
    rw [List.any_eq_false]
    intro t member
    rw [holds, (legible t member).harmless.barred one two barred]
    exact Bool.false_ne_true
  rw [meet_joined legible one two (Mark.leads_of_barred barred), none, Bool.or_false]

theorem holds_order {tokens : List Token} (legible : ∀ t ∈ tokens, t.Legible) :
    tokens.any (holds .opening (.connective .or)) = tokens.any (holds .opening .order) := by
  rw [Bool.eq_iff_iff, List.any_eq_true, List.any_eq_true]
  refine exists_congr fun t => and_congr_right fun member => ?_
  rw [holds, holds, (legible t member).harmless.order]

theorem isPrefixOf_joined {tokens : List Token} (legible : ∀ t ∈ tokens, t.Legible)
    (c : Connective) :
    c.word.toList.isPrefixOf (Chars.trim (joined tokens).toList) =
      decide (tokens.head?.bind mark? = some (.connective c)) := by
  have start := Chars.isPrefixOf_trim (Mark.connective c).solid (joined tokens).toList
  cases tokens with
  | nil => exact start.trans ((Mark.connective c).solid.not_isPrefixOf_nil)
  | cons t rest =>
    have read := (reads_joined legible).heads (.connective c) []
    rw [List.append_nil, mark?_reads] at read
    exact start.trans read

/-- A text that ends with a token ends with a connective when the token is that connective. -/
theorem Legible.isPrefixOf_reverse {t : Token} (legible : t.Legible) (c : Connective)
    (front : List Char) :
    c.word.toList.reverse.isPrefixOf
        ((front ++ t.sql.text.toList).reverse.dropWhile Chars.isBlank) =
      decide (t.mark? = some (.connective c)) := by
  rw [List.reverse_append]
  by_cases connective : ∃ d, t.mark? = some (.connective d)
  · obtain ⟨d, marked⟩ := connective
    cases t with
    | connective e =>
      cases marked
      cases c <;> cases d <;> rfl
    | _ => cases marked
  · have other : ∀ d, t.mark? ≠ some (.connective d) := fun d marked => connective ⟨d, marked⟩
    obtain ⟨rest, last, shape, solid, notD, notR⟩ := legible.finishes other
    rw [shape, List.reverse_append, List.reverse_singleton, List.append_assoc,
      List.singleton_append, Chars.dropWhile_isBlank_cons solid, decide_eq_false (other c)]
    cases c with
    | and => simp [Connective.word, List.isPrefixOf, notD.symm]
    | or => simp [Connective.word, List.isPrefixOf, notR.symm]

theorem isSuffixOf_joined {tokens : List Token} (legible : ∀ t ∈ tokens, t.Legible)
    (c : Connective) :
    c.word.toList.isSuffixOf (Chars.trim (joined tokens).toList) =
      decide (tokens.getLast?.bind mark? = some (.connective c)) := by
  have finish := Chars.isSuffixOf_trim (Mark.connective c).solid (joined tokens).toList
  refine finish.trans ?_
  rcases List.eq_nil_or_concat tokens with rfl | ⟨front, t, rfl⟩
  · exact (Mark.connective c).solid.reverse.not_isPrefixOf_nil
  · have last := (legible t (by simp)).isPrefixOf_reverse c (joined front).toList
    rw [List.concat_eq_append, List.getLast?_concat, Option.bind_some, joined_append, joined_cons,
      joined_nil, String.append_empty, String.toList_append]
    exact last

theorem starts_joined {t : Token} (rest : List Token) (legible : t.Legible)
    (first : ∀ c, t.mark? ≠ some (.connective c)) : Starts (joined (t :: rest)) := by
  rw [joined_cons]
  exact (legible.starts first).append (joined rest)

theorem finishes_joined {t : Token} {rest : List Token} (legible : ∀ u ∈ t :: rest, u.Legible)
    (last : ∀ c, (t :: rest).getLast?.bind mark? ≠ some (.connective c)) :
    Finishes (joined (t :: rest)) := by
  induction rest generalizing t with
  | nil =>
    rw [joined_cons, joined_nil, String.append_empty]
    exact (legible t List.mem_cons_self).finishes last
  | cons u rest ih =>
    rw [List.getLast?_cons_cons] at last
    have others := ih (fun v member => legible v (List.mem_cons_of_mem t member)) last
    rw [joined_cons]
    exact others.append t.sql.text

theorem Legible.exists_solid {t : Token} (legible : t.Legible) :
    ∃ c ∈ t.sql.text.toList, Chars.isBlank c = false := by
  by_cases connective : ∃ d, t.mark? = some (.connective d)
  · obtain ⟨d, marked⟩ := connective
    cases t with
    | connective e =>
      cases e
      case and => exact ⟨'A', by decide, rfl⟩
      case or => exact ⟨'O', by decide, rfl⟩
    | _ => cases marked
  · exact (legible.starts fun d marked => connective ⟨d, marked⟩).exists_solid

/-- Legible tokens have a text that is more than white space. -/
theorem isEmpty_joined {tokens : List Token} (legible : ∀ t ∈ tokens, t.Legible) :
    (Chars.trim (joined tokens).toList).isEmpty = tokens.isEmpty := by
  cases tokens with
  | nil => rfl
  | cons t rest =>
    obtain ⟨c, member, solid⟩ := (legible t List.mem_cons_self).exists_solid
    rw [List.isEmpty_cons, List.isEmpty_eq_false_iff]
    intro empty
    have blank := Chars.trim_eq_nil.mp empty c
      (by rw [joined_cons, String.toList_append]; exact List.mem_append_left _ member)
    rw [solid] at blank
    cases blank

/-- Tokens that have the parentheses that they count for have them together. -/
theorem net_joined {tokens : List Token} (level : ∀ t ∈ tokens, net t.sql.text.toList = t.rise) :
    net (joined tokens).toList = depth tokens := by
  induction tokens with
  | nil => rfl
  | cons t rest ih =>
    have first := level t List.mem_cons_self
    have others := ih fun u member => level u (List.mem_cons_of_mem t member)
    rw [joined_cons, String.toList_append, net_append, first, others, depth]

/-- Tokens that end with an opening, and close as many groups as they open, close one too many. -/
theorem dips_joined {tokens : List Token} (legible : ∀ t ∈ tokens, t.Legible)
    (level : depth tokens = 0)
    (last : tokens.getLast?.bind mark? = some .opening) : Dips (joined tokens) := by
  rcases List.eq_nil_or_concat tokens with rfl | ⟨front, t, rfl⟩
  · cases last
  · rw [List.concat_eq_append] at *
    rw [List.getLast?_concat, Option.bind_some] at last
    have up : t.rise = 1 := by
      cases t with
      | opening => rfl
      | _ => cases last
    rw [depth_append, depth, depth, up] at level
    have below := net_joined fun u member => (legible u (List.mem_append_left [t] member)).level
    refine ⟨(joined front).toList, ?_, by omega⟩
    rw [joined_append, String.toList_append]
    exact List.prefix_append _ _

/-- The depth is the number of openings less the number of closings. -/
theorem depth_eq_count (tokens : List Token) :
    depth tokens = (tokens.countP (·.mark? = some .opening) : Int) -
      tokens.countP (·.mark? = some .closing) := by
  induction tokens with
  | nil => rfl
  | cons t rest ih =>
    rw [depth, ih, List.countP_cons, List.countP_cons]
    cases t <;> simp [rise, mark?] <;> omega

/-- Tokens that are given no verdict. -/
structure Accepted (inside : Mark → Mark → Bool) (tokens : List Token) : Prop where
  level : depth tokens = 0
  nonempty : tokens ≠ []
  starts : ∀ c, tokens.head?.bind mark? ≠ some (.connective c)
  ends : ∀ c, tokens.getLast?.bind mark? ≠ some (.connective c)
  barred : ∀ one two : Mark, one.barred two = true → adjacent one two tokens = false
  order : adjacent .opening (.connective .or) tokens = false ∧ inside .opening .order = false
  group : adjacent .opening .closing tokens = false ∧ inside .opening .closing = false

theorem accepted_of_verdict {inside : Mark → Mark → Bool} {tokens : List Token}
    (faultless : verdict inside tokens = none) : Accepted inside tokens := by
  simp only [verdict, ite_fault_eq_none, Bool.or_eq_true, not_or, Bool.not_eq_true,
    someConnective, not_not, decide_eq_false_iff_not, List.isEmpty_eq_false_iff, Ne] at faultless
  obtain ⟨counts, ⟨⟨openAnd, openOr⟩, order⟩, ⟨andClose, orClose⟩, ⟨andAnd, orOr⟩, group,
    ⟨endAnd, endOr⟩, ⟨startAnd, startOr⟩, nonempty, _⟩ := faultless
  refine ⟨?_, nonempty, ?_, ?_, ?_, ⟨openOr, order⟩, group⟩
  · rw [depth_eq_count, counts, Int.sub_self]
  · intro c
    cases c <;> assumption
  · intro c
    cases c <;> assumption
  · intro one two barred
    rcases one with _ | _ | a | _
    case opening =>
      rcases two with _ | _ | (_ | _) | _ <;> first | exact openAnd | cases barred
    case connective =>
      rcases two with _ | _ | b | _
      case closing => cases a <;> assumption
      case connective =>
        obtain rfl : a = b := of_decide_eq_true barred
        cases a <;> assumption
      all_goals cases barred
    all_goals cases barred

end Token

namespace Condition

variable {c : Condition}

theorem toList_text (c : Condition) :
    c.text.toList = Chars.trim (Token.joined c.tokens).toList := String.toList_ofList

/-- A search through the text of a condition is one through its joined tokens. -/
theorem meets_text (c : Condition) (one two : Mark) :
    Chars.meets one.word.toList two.word.toList c.text.toList =
      one.meet two (Token.joined c.tokens).toList := by
  rw [toList_text, Chars.meets_trim one.solid two.solid, Mark.meet]

theorem isPrefixOf_text (c : Condition) (m : Mark) :
    m.word.toList.isPrefixOf c.text.toList = m.heads (Token.joined c.tokens).toList := by
  rw [toList_text, Chars.isPrefixOf_trim m.solid, Mark.heads]

/-- A condition without a fault has even parentheses and a text in which no marks clash, and which
has no connective at its ends. -/
theorem fault?_eq_none : c.fault? = none ↔ c.depth = 0 ∧
    (∀ one two : Mark, one.clashes two = true → one.meet two c.text.toList = false) ∧
    (∀ k : Connective, k.word.toList.isSuffixOf c.text.toList = false) ∧
    (∀ k : Connective, k.word.toList.isPrefixOf c.text.toList = false) ∧ c.text.toList ≠ [] := by
  simp only [fault?, faultIn, ite_fault_eq_none, anyConnective, Bool.or_eq_true, not_or,
    Bool.not_eq_true, Ne, not_not, List.isEmpty_eq_false_iff, and_true]
  constructor
  · rintro ⟨level, ⟨openAnd, openOr⟩, ⟨andClose, orClose⟩, ⟨andAnd, orOr⟩, group, ⟨endAnd, endOr⟩,
      ⟨startAnd, startOr⟩, nonempty⟩
    refine ⟨level, fun one two clash => ?_, ?_, ?_, nonempty⟩
    · cases one with
      | opening =>
        cases two with
        | closing => exact group
        | connective k => cases k <;> [exact openAnd; exact openOr]
        | _ => cases clash
      | connective j =>
        cases two with
        | closing => cases j <;> [exact andClose; exact orClose]
        | connective k =>
          obtain rfl : j = k := of_decide_eq_true clash
          cases j <;> [exact andAnd; exact orOr]
        | _ => cases clash
      | _ => cases two <;> cases clash
    · rintro (_ | _) <;> [exact endAnd; exact endOr]
    · rintro (_ | _) <;> [exact startAnd; exact startOr]
  · rintro ⟨level, apart, ends, starts, nonempty⟩
    exact ⟨level, ⟨apart .opening (.connective .and) rfl, apart .opening (.connective .or) rfl⟩,
      ⟨apart (.connective .and) .closing rfl, apart (.connective .or) .closing rfl⟩,
      ⟨apart (.connective .and) (.connective .and) rfl,
        apart (.connective .or) (.connective .or) rfl⟩,
      apart .opening .closing rfl, ⟨ends .and, ends .or⟩, ⟨starts .and, starts .or⟩, nonempty⟩

/-- The judgement on the joined text is the verdict on the tokens. -/
theorem fault?_eq_verdict (legible : ∀ t ∈ c.tokens, t.Legible) :
    c.fault? = Token.verdict (fun one two => c.tokens.any (Token.holds one two)) c.tokens := by
  have depth : (c.depth ≠ 0) = (c.tokens.countP (·.mark? = some .opening) ≠
      c.tokens.countP (·.mark? = some .closing)) := by
    rw [Condition.depth, Token.depth_eq_count, Ne, Int.sub_eq_zero, Int.natCast_inj]
  have barred : ∀ one two : Mark, one.barred two = true →
      Chars.meets one.word.toList two.word.toList c.text.toList =
        Token.adjacent one two c.tokens := by
    intro one two barred
    rw [meets_text, Token.meet_joined_of_barred legible barred]
  have or := (c.meets_text .opening (.connective .or)).trans (Token.meet_joined legible _ _ rfl)
  rw [Token.holds_order legible] at or
  have group := (c.meets_text .opening .closing).trans (Token.meet_joined legible _ _ rfl)
  have afterOpening : anyConnective (fun word => Chars.meets ['('] word c.text.toList) =
      ((someConnective fun k => Token.adjacent .opening (.connective k) c.tokens) ||
        c.tokens.any (Token.holds .opening .order)) := by
    rw [anyConnective, someConnective, Bool.or_assoc, ← or, ← barred _ _ rfl]
    rfl
  have beforeClosing : anyConnective (fun word => Chars.meets word [')'] c.text.toList) =
      someConnective fun k => Token.adjacent (.connective k) .closing c.tokens := by
    rw [anyConnective, someConnective, ← barred _ _ rfl, ← barred _ _ rfl]
    rfl
  have consecutive : anyConnective (fun word => Chars.meets word word c.text.toList) =
      someConnective fun k => Token.adjacent (.connective k) (.connective k) c.tokens := by
    rw [anyConnective, someConnective, ← barred _ _ rfl, ← barred _ _ rfl]
    rfl
  have emptyGroup : Chars.meets ['('] [')'] c.text.toList =
      (Token.adjacent .opening .closing c.tokens ||
        c.tokens.any (Token.holds .opening .closing)) := group
  have atEnd : anyConnective (fun word => word.isSuffixOf c.text.toList) =
      someConnective fun k => c.tokens.getLast?.bind Token.mark? = some (.connective k) := by
    rw [toList_text, someConnective, ← Token.isSuffixOf_joined legible,
      ← Token.isSuffixOf_joined legible]
    rfl
  have atStart : anyConnective (fun word => word.isPrefixOf c.text.toList) =
      someConnective fun k => c.tokens.head?.bind Token.mark? = some (.connective k) := by
    rw [toList_text, someConnective, ← Token.isPrefixOf_joined legible,
      ← Token.isPrefixOf_joined legible]
    rfl
  have empty : c.text.toList.isEmpty = c.tokens.isEmpty := by
    rw [toList_text, Token.isEmpty_joined legible]
  rw [fault?, faultIn, Token.verdict, afterOpening, beforeClosing, consecutive, emptyGroup, atEnd,
    atStart, empty]
  simp only [depth]

/-- Nothing is trimmed from a text with other characters than white space at its ends. -/
theorem text_eq_joined (starts : Starts (Token.joined c.tokens))
    (ends : Ends (Token.joined c.tokens)) : c.text = Token.joined c.tokens := by
  obtain ⟨first, behind, start, solid⟩ := starts
  obtain ⟨front, last, finish, solid'⟩ := ends
  have trimmed : Chars.trim (Token.joined c.tokens).toList = (Token.joined c.tokens).toList := by
    rw [Chars.trim, Chars.trimBy, start, Chars.dropWhile_isBlank_cons solid, ← start, finish,
      List.reverse_append, List.reverse_singleton, List.singleton_append,
      Chars.dropWhile_isBlank_cons solid', List.reverse_cons, List.reverse_reverse]
  change Chars.trimText (Token.joined c.tokens) = _
  rw [Chars.trimText, trimmed, String.ofList_toList]

/-- A condition without a fault is a portion of a query: if it ends with an open group, it has
closed one too many before. -/
theorem portion_text (legible : ∀ t ∈ c.tokens, t.Legible) (faultless : c.fault? = none) :
    ∃ opens pends, Portion c.text opens pends := by
  rw [fault?_eq_verdict legible] at faultless
  obtain ⟨level, nonempty, starts, ends, barred, order, group⟩ :=
    Token.accepted_of_verdict faultless
  obtain ⟨t, rest, shape⟩ := List.exists_cons_of_ne_nil nonempty
  rw [shape] at legible level starts ends barred order group
  have started := Token.starts_joined rest (legible t List.mem_cons_self) starts
  have finished := Token.finishes_joined legible ends
  have untrimmed : c.text = Token.joined c.tokens := by
    apply text_eq_joined
    · rw [shape]
      exact started
    · rw [shape]
      exact finished.ends
  rw [untrimmed, shape]
  have harmless : Harmless (Token.joined (t :: rest)) _ _ :=
    { Token.reads_joined legible with
      barred := fun one two forbidden => by
        rw [Token.meet_joined_of_barred legible forbidden, barred one two forbidden]
      order := by
        rw [Token.meet_joined legible _ _ rfl, Token.meet_joined legible _ _ rfl,
          Token.holds_order legible, order.1, Token.adjacent_order] }
  have closing : Mark.opening.meet .closing (Token.joined (t :: rest)).toList = false := by
    rw [Token.meet_joined legible _ _ rfl, group.1, group.2, Bool.or_false]
  have ordering : Mark.opening.meet .order (Token.joined (t :: rest)).toList = false := by
    rw [Token.meet_joined legible _ _ rfl, Token.adjacent_order, order.2, Bool.or_false]
  have net : net (Token.joined (t :: rest)).toList = 0 := by
    rw [Token.net_joined fun t member => (legible t member).level, level]
  -- The last token leaves its mark pending: an opening one only where the text dips before.
  cases pending : (t :: rest).getLast?.bind Token.mark? with
  | none =>
    rw [pending] at harmless
    exact ⟨_, _, harmless, .inl rfl, net, by simp [closing, ordering]⟩
  | some m =>
    rw [pending] at harmless ends
    cases m with
    | opening =>
      exact ⟨_, _, harmless, .inr rfl, net, fun _ => Token.dips_joined legible level pending⟩
    | closing => exact ⟨_, _, harmless.of_closing, .inl rfl, net, by simp [closing, ordering]⟩
    | connective k => exact absurd rfl (ends k)
    | order =>
      obtain ⟨u, _, marked⟩ := Option.bind_eq_some_iff.mp pending
      exact absurd marked u.mark?_ne_order

/-- What is built of a condition is told by its tokens. -/
theorem build_eq_judgement (legible : ∀ t ∈ c.tokens, t.Legible) :
    c.build.map Sql.text =
      Token.judgement (fun one two => c.tokens.any (Token.holds one two)) c.tokens := by
  rw [build, Token.judgement, fault?_eq_verdict legible]
  cases Token.verdict (fun one two => c.tokens.any (Token.holds one two)) c.tokens with
  | some fault => rfl
  | none =>
    change Except.ok (Sql.text c.sql.trim) = _
    rw [Sql.text_trim]
    rfl

end Condition

end SqlBuilder
