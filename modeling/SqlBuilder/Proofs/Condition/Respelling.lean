import SqlBuilder.Proofs.Condition.Verdict
import SqlBuilder.Proofs.Sql.Respelling

set_option autoImplicit false

namespace SqlBuilder

/-- To a search through what is written around them, the two texts are the same. -/
structure SameMarks (s t : String) (opens pends : Option Mark) : Prop where
  first : Reads s opens pends
  second : Reads t opens pends
  meet : ∀ one two : Mark, one.leads = true → one.meet two t.toList = one.meet two s.toList

namespace SameMarks

variable {s s' t t' : String} {opens opens' pends pends' : Option Mark}

theorem refl (text : Reads s opens pends) : SameMarks s s opens pends :=
  ⟨text, text, fun _ _ _ => rfl⟩

theorem append (front : SameMarks s t opens pends) (back : SameMarks s' t' opens' pends') :
    SameMarks (s ++ s') (t ++ t') opens pends' where
  first := front.first.append back.first
  second := front.second.append back.second
  meet one two leads := by
    rw [front.first.meet_append back.first one two leads,
      front.second.meet_append back.second one two leads, front.meet one two leads,
      back.meet one two leads]

theorem space (text : SameMarks s t opens pends) : SameMarks (" " ++ s) (" " ++ t) opens pends where
  first := text.first.space
  second := text.second.space
  meet one two leads := by
    have blank : ∀ u : String, one.meet two (" " ++ u).toList = one.meet two u.toList := by
      intro u
      rw [String.toList_append]
      exact one.meet_blank two rfl _
    rw [blank, blank, text.meet one two leads]

theorem of_closing (text : SameMarks s t opens (some .closing)) : SameMarks s t opens none :=
  ⟨text.first.of_closing, text.second.of_closing, text.meet⟩

theorem of_still (one : Still s opens pends) (two : Still t opens pends) :
    SameMarks s t opens pends :=
  ⟨one.toReads, two.toReads, fun _ _ leads => by rw [one.empty _ _ leads, two.empty _ _ leads]⟩

end SameMarks

variable {l : DriverKind}

/-- In either spelling the token keeps its marks to itself, and they are the same. -/
structure Token.Respellable (l : DriverKind) (t : Token) : Prop where
  legible : t.Legible
  respelled : (t.respell l).Legible
  marks : SameMarks t.sql.text (t.respell l).sql.text t.mark? t.mark?

namespace Token

theorem mark?_respell (l : DriverKind) (t : Token) : (t.respell l).mark? = t.mark? := by
  cases t <;> rfl

/-- A token that is no comparison has no date part. -/
theorem respellable_of_same {t : Token} (same : t.respell l = t) (legible : t.Legible) :
    t.Respellable l where
  legible := legible
  respelled := same.symm ▸ legible
  marks := by
    rw [same]
    exact .refl legible.harmless.toReads

theorem respellable_comparison {sql : Sql} (negated : Bool)
    (legible : ∀ negated, (comparison negated sql).Legible)
    (respelled : ∀ negated, (comparison negated (sql.respell l)).Legible)
    (marks : SameMarks sql.text (sql.respell l).text none none) :
    (comparison negated sql).Respellable l where
  legible := legible negated
  respelled := respelled negated
  marks := by
    cases negated with
    | false => exact marks
    | true =>
      have word : Reads "NOT " none none := .silent rfl ⟨'N', by decide, rfl⟩
      have both := (SameMarks.refl word).append marks
      have spelled := text_negated (sql.respell l)
      change SameMarks _ (comparison true (sql.respell l)).sql.text _ _
      rw [text_negated, spelled]
      exact both

theorem adjacent_map {f : Token → Token} (marks : ∀ t, (f t).mark? = t.mark?) (one two : Mark)
    (tokens : List Token) : adjacent one two (tokens.map f) = adjacent one two tokens := by
  induction tokens with
  | nil => rfl
  | cons t rest ih =>
    cases rest with
    | nil => rfl
    | cons u rest =>
      rw [List.map_cons] at ih ⊢
      rw [List.map_cons, adjacent, adjacent, marks, marks, ih]

/-- The verdict looks at nothing of a token but its mark. -/
theorem verdict_map {f : Token → Token} {inside inside' : Mark → Mark → Bool}
    (marks : ∀ t, (f t).mark? = t.mark?)
    (held : ∀ two, inside' .opening two = inside .opening two) (tokens : List Token) :
    verdict inside' (tokens.map f) = verdict inside tokens := by
  have count : ∀ m : Mark, (tokens.map f).countP (·.mark? = some m) =
      tokens.countP (·.mark? = some m) := by
    intro m
    rw [List.countP_map]
    congr 1
    funext t
    simp only [Function.comp_apply, marks]
  have last : (tokens.map f).getLast?.bind mark? = tokens.getLast?.bind mark? := by
    rw [List.getLast?_map]
    cases tokens.getLast? with
    | none => rfl
    | some t => exact marks t
  have head : (tokens.map f).head?.bind mark? = tokens.head?.bind mark? := by
    cases tokens with
    | nil => rfl
    | cons t rest => exact marks t
  simp only [verdict, count, adjacent_map marks, held, last, head, List.isEmpty_map]

/-- Joined tokens have the same marks in either spelling. -/
theorem marks_joined {t : Token} {rest : List Token}
    (respellable : ∀ u ∈ t :: rest, u.Respellable l) :
    SameMarks (joined (t :: rest)) (joined ((t :: rest).map (Token.respell l))) t.mark?
      ((t :: rest).getLast?.bind mark?) := by
  induction rest generalizing t with
  | nil =>
    rw [List.map_cons, joined_cons, joined_cons, List.map_nil, joined_nil, String.append_empty,
      String.append_empty]
    exact (respellable t List.mem_cons_self).marks
  | cons u rest ih =>
    have others := ih fun v member => respellable v (List.mem_cons_of_mem t member)
    rw [List.map_cons, joined_cons t (u :: rest), joined_cons (t.respell l),
      List.getLast?_cons_cons]
    exact (respellable t List.mem_cons_self).marks.append others

end Token

namespace Condition

variable {c : Condition}

/-- The SQL of a condition without a fault is trimmed as it is. -/
theorem trim_of_faultless (legible : ∀ t ∈ c.tokens, t.Legible) (faultless : c.fault? = none) :
    c.sql.trim = c.sql := by
  rw [fault?_eq_verdict legible] at faultless
  obtain ⟨_, nonempty, starts, ends, _⟩ := Token.accepted_of_verdict faultless
  have joined : c.sql.text = Token.joined c.tokens := rfl
  cases shape : c.tokens with
  | nil => exact absurd shape nonempty
  | cons t rest =>
    rw [shape] at legible starts ends joined
    apply Sql.trim_of_bare
    · rw [joined]
      exact Token.starts_joined rest (legible t List.mem_cons_self) starts
    · rw [joined]
      exact (Token.finishes_joined legible ends).ends

variable (respellable : ∀ t ∈ c.tokens, t.Respellable l)

include respellable

theorem legible_respell : ∀ t ∈ (c.respell l).tokens, t.Legible := by
  intro t member
  obtain ⟨u, token, rfl⟩ := List.mem_map.mp member
  exact (respellable u token).respelled

/-- The parentheses of a date part make no difference to the judgement on a condition. -/
theorem fault?_respell : (c.respell l).fault? = c.fault? := by
  rw [fault?_eq_verdict (legible_respell respellable),
    fault?_eq_verdict fun t token => (respellable t token).legible]
  refine Token.verdict_map (Token.mark?_respell l) (fun two => ?_) c.tokens
  have each : ∀ t ∈ c.tokens, (t.respell l).holds .opening two = t.holds .opening two :=
    fun t token => (respellable t token).marks.meet .opening two rfl
  rw [Bool.eq_iff_iff, List.any_eq_true, List.any_eq_true]
  constructor
  · rintro ⟨t, member, found⟩
    obtain ⟨u, token, rfl⟩ := List.mem_map.mp member
    exact ⟨u, token, each u token ▸ found⟩
  · rintro ⟨t, token, found⟩
    exact ⟨t.respell l, List.mem_map_of_mem token, (each t token).trans found⟩

theorem trim_respell (faultless : c.fault? = none) :
    (c.respell l).sql.trim = c.sql.trim.respell l := by
  have same := fault?_respell respellable
  rw [trim_of_faultless (fun t token => (respellable t token).legible) faultless,
    trim_of_faultless (legible_respell respellable) (same.trans faultless), sql_respell]

/-- A respelt condition is built of respelt pieces, or has the same fault. -/
theorem build_respell : (c.respell l).build = c.build.map (Sql.respell l) := by
  unfold build
  rw [fault?_respell respellable]
  cases faultless : c.fault? with
  | some fault => rfl
  | none => exact congrArg Except.ok (trim_respell respellable faultless)

theorem marks_of_faultless (faultless : c.fault? = none) :
    SameMarks c.sql.trim.text (c.sql.trim.respell l).text (c.tokens.head?.bind Token.mark?)
      (c.tokens.getLast?.bind Token.mark?) := by
  have legible := fun t token => (respellable t token).legible
  have nonempty : c.tokens ≠ [] := by
    have found := faultless
    rw [fault?_eq_verdict legible] at found
    exact (Token.accepted_of_verdict found).nonempty
  rw [← trim_respell respellable faultless, trim_of_faultless legible faultless,
    trim_of_faultless (legible_respell respellable)
      ((fault?_respell respellable).trans faultless)]
  cases shape : c.tokens with
  | nil => exact absurd shape nonempty
  | cons t rest =>
    have both := Token.marks_joined (shape ▸ respellable)
    have text : c.sql.text = Token.joined (t :: rest) := by rw [← shape]; rfl
    have respelled : (c.respell l).sql.text = Token.joined ((t :: rest).map (Token.respell l)) := by
      rw [← shape]
      rfl
    rw [text, respelled]
    exact both

end Condition

end SqlBuilder
