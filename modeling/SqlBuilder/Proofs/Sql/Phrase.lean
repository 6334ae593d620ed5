import SqlBuilder.Proofs.Condition.Passage
import SqlBuilder.Proofs.Sql.Plain

set_option autoImplicit false

namespace SqlBuilder

open Scan (Fresh Settled Clear)
open Chars (isBlank)

/-- A text with even parentheses that leads from one state of a scan to another. -/
structure Passage (P : Scan → Prop) (s : String) (Q : Scan → Prop) : Prop where
  level : net s.toList = 0
  leads : Leads P s Q

/-- A text that may stand where an operand of a connective stands. -/
structure Phrase (s : String) : Prop extends Passage Fresh s Settled where
  starts : Starts s
  ends : Ends s

namespace Passage

variable {P Q R : Scan → Prop} {s t : String} {b : Scan}

theorem append (first : Passage P s Q) (second : Passage Q t R) : Passage P (s ++ t) R where
  level := by
    rw [String.toList_append, net_append, first.level, second.level]
    rfl
  leads := first.leads.append second.leads

theorem of_clear (level : net s.toList = 0) (through : Scan.clear.through s.toList = some b)
    (reached : Q b) : Passage Clear s Q :=
  ⟨level, .of_clear through reached⟩

theorem of_fresh (level : net s.toList = 0)
    (through : ∀ m, (Scan.mk m .none).through s.toList = some b) (reached : Q b) :
    Passage Fresh s Q :=
  ⟨level, .of_fresh through reached⟩

theorem of_settled {c : Char} {rest : List Char} (level : net s.toList = 0)
    (shape : s.toList = c :: rest) (other : c ≠ 'N' ∧ c ≠ 'D' ∧ c ≠ 'R')
    (through : Scan.clear.through s.toList = some b) (reached : Q b) : Passage Settled s Q :=
  ⟨level, .of_settled shape other through reached⟩

end Passage

/-- An opening parenthesis may stand anywhere. -/
theorem leads_opening (P : Scan → Prop) : Leads P "(" Fresh := by
  intro a _
  have apart : a.held.any (·.clashes .opening) = false := by
    cases a.held with
    | none => rfl
    | some m => cases m <;> rfl
  have read : a.through "(".toList = Scan.hit a.held .opening :=
    a.through_word (m := .opening) nofun
  refine ⟨⟨some .opening, .none⟩, ?_, rfl⟩
  rw [read, Scan.hit, apart]
  rfl

theorem leads_closing : Leads Settled ")" Clear := .of_settled rfl (by decide) rfl rfl

namespace Phrase

variable {s t mid : String} {Q : Scan → Prop}

/-- Two phrases with something between them that leaves room for a word. -/
theorem join (first : Phrase s) (between : Passage Settled mid Fresh) (second : Phrase t) :
    Phrase (s ++ mid ++ t) where
  toPassage := (first.toPassage.append between).append second.toPassage
  starts := (first.starts.append mid).append t
  ends := second.ends.append (s ++ mid)

theorem behind (front : Passage Fresh s Fresh) (starts : Starts s) (phrase : Phrase t) :
    Phrase (s ++ t) where
  toPassage := front.append phrase.toPassage
  starts := starts.append t
  ends := phrase.ends.append s

theorem tail (phrase : Phrase s) (rest : Passage Settled t Settled) (ends : Ends t) :
    Phrase (s ++ t) where
  toPassage := phrase.toPassage.append rest
  starts := phrase.starts.append t
  ends := ends.append s

/-- A phrase in parentheses. -/
theorem group (phrase : Phrase t) : Phrase ("(" ++ t ++ ")") where
  level := by
    simp only [String.toList_append, net_append, phrase.level]
    rfl
  leads := ((leads_opening Fresh).append phrase.leads).append leads_closing.settled
  starts := (starts_opening.append _).append _
  ends := finishes_closing.ends.append _

/-- A text in parentheses behind a word. -/
theorem call (word : Passage Fresh s Q) (starts : Starts s) (level : net t.toList = 0)
    (inside : Leads Fresh t Settled) : Phrase (s ++ "(" ++ t ++ ")") where
  level := by
    simp only [String.toList_append, net_append, word.level, level]
    rfl
  leads := ((word.leads.append (leads_opening Q)).append inside).append leads_closing.settled
  starts := ((starts.append _).append _).append _
  ends := finishes_closing.ends.append _

end Phrase

/-- A name of letters, digits, underscores and points that is not the word of a connective. -/
structure Identifier (s : String) : Prop where
  first : ∃ c rest, s.toList = c :: rest ∧ (c.isAlpha || c = '_') = true
  word : ∀ c ∈ s.toList, isWordChar c = true
  other : ∀ k : Connective, s ≠ k.word

/-- A name that has no connective at its ends and none twice in a row. -/
structure Unmistakable (s : String) : Prop where
  starts : ∀ k : Connective, ¬ k.word.toList <+: s.toList
  ends : ∀ k : Connective, ¬ k.word.toList <:+ s.toList
  within : ∀ k : Connective, ¬ k.word.toList ++ k.word.toList <:+: s.toList

namespace Identifier

variable {name : String}

theorem not_mem (identifier : Identifier name) {c : Char} (foreign : isWordChar c = false) :
    c ∉ name.toList := by
  intro member
  rw [identifier.word c member] at foreign
  cases foreign

theorem level (identifier : Identifier name) : net name.toList = 0 := by
  have openings : name.toList.count '(' = 0 :=
    List.count_eq_zero.mpr (identifier.not_mem (c := '(') rfl)
  have closings : name.toList.count ')' = 0 :=
    List.count_eq_zero.mpr (identifier.not_mem (c := ')') rfl)
  rw [net, openings, closings]
  rfl

theorem starts (identifier : Identifier name) : Starts name := by
  obtain ⟨c, rest, shape, _⟩ := identifier.first
  exact ⟨c, rest, shape, isBlank_of_isWordChar (identifier.word c (by simp [shape]))⟩

theorem ends (identifier : Identifier name) : Ends name := by
  rcases List.eq_nil_or_concat name.toList with empty | ⟨rest, c, shape⟩
  · obtain ⟨c, rest, shape, _⟩ := identifier.first
    rw [empty] at shape
    cases shape
  · rw [List.concat_eq_append] at shape
    exact ⟨rest, c, shape, isBlank_of_isWordChar (identifier.word c (by simp [shape]))⟩

/-- There is no white space in a name. -/
theorem eq_nil_of_blank (identifier : Identifier name) {gap : List Char}
    (inside : ∀ c ∈ gap, c ∈ name.toList) (blank : ∀ c ∈ gap, isBlank c = true) : gap = [] := by
  cases gap with
  | nil => rfl
  | cons c rest =>
    have solid := isBlank_of_isWordChar (identifier.word c (inside c List.mem_cons_self))
    rw [blank c List.mem_cons_self] at solid
    cases solid

/-- What stands behind the start of a name, or a mark in it, is a connective. -/
theorem behind_cases (identifier : Identifier name) {outset : Option Mark} {front : List Char}
    {m : Mark} (starts : front <+: name.toList) (behind : Scan.Behind outset front m) :
    front = [] ∨ ∃ k before, m = .connective k ∧ front = before ++ k.word.toList := by
  have inside : ∀ c ∈ front, c ∈ name.toList := fun c member => starts.subset member
  rcases behind with ⟨_, blank⟩ | ⟨leads, before, gap, rfl, blank⟩
  · exact .inl (identifier.eq_nil_of_blank inside blank)
  · have tight : gap = [] :=
      identifier.eq_nil_of_blank (fun c member => inside c (by simp [member])) blank
    cases m with
    | connective k => exact .inr ⟨k, before, rfl, by rw [tight, List.append_nil]; rfl⟩
    | opening =>
      exact absurd (inside '(' (by simp [Mark.word])) (identifier.not_mem rfl)
    | closing => cases leads
    | order => cases leads

/-- A scan that begins afresh gets through a name that is not mistaken for a connective. -/
theorem phrase (identifier : Identifier name) (clear : Unmistakable name) : Phrase name where
  level := identifier.level
  starts := identifier.starts
  ends := identifier.ends
  leads := by
    rintro ⟨outset, stem⟩ rfl
    obtain ⟨first, rest, nonempty, _⟩ := identifier.first
    rcases Scan.through_recalls outset name.toList with
      ⟨t, through, recalls⟩ | ⟨_, read, starts, one, two, front, clash, behind, rfl⟩
    · refine ⟨t, through, ?_⟩
      cases kept : t.held with
      | none => exact kept
      | some m =>
        rcases identifier.behind_cases (List.prefix_refl _) (recalls.held kept) with
          empty | ⟨k, before, rfl, shape⟩
        · rw [nonempty] at empty
          cases empty
        · exact absurd ⟨before, shape.symm⟩ (clear.ends k)
    · have earlier : front <+: name.toList := (List.prefix_append _ _).trans starts
      have second : ∃ k, two = .connective k := by
        cases two with
        | connective k => exact ⟨k, rfl⟩
        | closing =>
          exact absurd (starts.subset (by simp [Mark.word])) (identifier.not_mem (c := ')') rfl)
        | opening => cases one <;> cases clash
        | order => cases one <;> cases clash
      obtain ⟨k, rfl⟩ := second
      rcases identifier.behind_cases earlier behind with rfl | ⟨j, before, rfl, rfl⟩
      · exact absurd starts (clear.starts k)
      · obtain rfl : j = k := of_decide_eq_true clash
        refine absurd ?_ (clear.within j)
        obtain ⟨after, shape⟩ := starts
        exact ⟨before, after, by rw [← shape]; simp [Mark.word]⟩

end Identifier

theorem silent_of_append {a b : List Char} (quiet : silent (a ++ b) = true) : silent b = true := by
  induction a with
  | nil => exact quiet
  | cons c rest ih => exact ih (silent_cons quiet).2

theorem Mark.not_silent (m : Mark) (rest : List Char) :
    silent (m.word.toList ++ rest) = false := by
  obtain ⟨c, tail, spelled, _⟩ := m.exists_start
  rw [← Bool.not_eq_true]
  intro quiet
  rw [spelled, List.cons_append] at quiet
  have apart := (silent_cons quiet).1 m
  have starts : m.word.toList.isPrefixOf (c :: (tail ++ rest)) = true := by
    rw [spelled, List.isPrefixOf_iff_prefix]
    exact List.prefix_append _ _
  rw [touches, starts, Bool.true_or] at apart
  cases apart

/-- A text in which no mark starts leaves only what was pending at the outset, and that only when
it is all white space. -/
theorem Silent.through {s : String} (quiet : Silent s) (outset : Option Mark) :
    ∃ pending, (Scan.mk outset .none).through s.toList = some ⟨pending, .none⟩ ∧
      ∀ m, pending = some m → outset = some m ∧ ∀ c ∈ s.toList, isBlank c = true := by
  have apart : ∀ front (m : Mark) rest, s.toList ≠ front ++ (m.word.toList ++ rest) := by
    intro front m rest shape
    have loud := m.not_silent rest
    rw [Silent, shape] at quiet
    rw [silent_of_append quiet] at loud
    cases loud
  rcases Scan.through_recalls outset s.toList with
    ⟨⟨pending, stem⟩, through, front, shape, behind⟩ |
      ⟨_, _, ⟨rest, shape⟩, one, two, front, _, _, rfl⟩
  · have none : stem = .none := by
      rw [Silent, shape] at quiet
      have last := silent_of_append quiet
      cases stem with
      | none => rfl
      | _ => cases last
    subst none
    simp only [Stem.letters, List.append_nil] at shape
    refine ⟨pending, through, fun m kept => ?_⟩
    rcases behind m kept with outset | ⟨_, before, gap, spelled, _⟩
    · rw [shape]
      exact outset
    · rw [spelled] at shape
      exact absurd shape (apart before m gap)
  · rw [List.append_assoc] at shape
    exact absurd shape.symm (apart front two rest)

theorem Silent.passage {s : String} (quiet : Silent s) : Passage Clear s Clear where
  level := net_of_silent quiet
  leads := by
    rintro a rfl
    obtain ⟨pending, through, kept⟩ := quiet.through none
    refine ⟨_, through, ?_⟩
    cases pending with
    | none => rfl
    | some m => cases (kept m rfl).1

/-- What does not start with white space leaves nothing pending at all. -/
theorem Lead.passage {s : String} (lead : Lead s) : Passage Fresh s Clear where
  level := lead.net_eq_zero
  leads := by
    rintro ⟨outset, stem⟩ rfl
    obtain ⟨pending, through, kept⟩ := lead.silent.through outset
    refine ⟨_, through, ?_⟩
    cases pending with
    | none => rfl
    | some m =>
      obtain ⟨c, member, solid⟩ := lead.starts.exists_solid
      rw [(kept m rfl).2 c member] at solid
      cases solid

theorem phrase_placeholder : Phrase "?" where
  level := rfl
  leads := .of_fresh (fun _ => rfl) rfl
  starts := ⟨'?', [], rfl, rfl⟩
  ends := ⟨[], '?', rfl, rfl⟩

theorem Condition.phrase_operand {v : Value}
    (cites : ∀ column, v = .ref column → Phrase column.chars) : Phrase (operand v).text := by
  unfold operand
  split
  · next column => exact cites column rfl
  · exact phrase_placeholder

theorem Phrase.intercalate {parts : List String} (nonempty : parts ≠ [])
    (each : ∀ p ∈ parts, Phrase p) : Phrase (", ".intercalate parts) := by
  induction parts with
  | nil => exact absurd rfl nonempty
  | cons part rest ih =>
    have first := each part List.mem_cons_self
    cases rest with
    | nil =>
      rw [String.intercalate_singleton]
      exact first
    | cons next rest =>
      have comma : Passage Settled ", " Fresh := .of_settled rfl rfl (by decide) rfl rfl
      have others := ih nofun fun p member => each p (List.mem_cons_of_mem part member)
      rw [String.intercalate_cons_cons]
      exact first.join comma others

/-- A date part is a phrase when its column is. -/
theorem DriverKind.phrase_extract (k : DriverKind) (part : DatePart) {column : String}
    (phrase : Phrase column) : Phrase (k.extract part column) := by
  rcases k.extract_frame part with cast | ⟨word, before, after, frame, lead, first, last⟩
  · have type : Passage Settled "::DATE" Settled := .of_settled rfl rfl (by decide) rfl rfl
    rw [cast]
    exact phrase.tail type ⟨"::DAT".toList, 'E', rfl, rfl⟩
  · have front : Passage Fresh before Fresh := by
      rcases first with rfl | format
      · exact ⟨rfl, fun a start => ⟨a, rfl, start⟩⟩
      · exact ⟨format.net_eq_zero, format.passage.leads.fresh⟩
    have behind : Passage Settled after Settled := by
      rcases last with rfl | rfl
      · exact ⟨rfl, fun a start => ⟨a, rfl, start⟩⟩
      · exact .of_settled rfl rfl (by decide) rfl rfl
    have inside := (front.append phrase.toPassage).append behind
    rw [frame]
    exact .call lead.passage lead.starts inside.level inside.leads

end SqlBuilder
