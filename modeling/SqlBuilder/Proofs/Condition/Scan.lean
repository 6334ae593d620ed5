import SqlBuilder.Proofs.Condition.Mark

set_option autoImplicit false

namespace SqlBuilder

open Chars (isBlank)

/-- The first letters of a connective. -/
inductive Stem
  | none
  | a
  | an
  | o

def Stem.letters : Stem → List Char
  | .none => []
  | .a => ['A']
  | .an => ['A', 'N']
  | .o => ['O']

/-- The last mark, with white space and the stem of a connective behind it. -/
structure Scan where
  pending : Option Mark
  stem : Stem

namespace Scan

/-- Nothing has been read that could matter for what follows. -/
def clear : Scan := ⟨none, .none⟩

/-- The mark that is left when the stem comes to nothing. -/
def held (s : Scan) : Option Mark :=
  match s.stem with
  | .none => s.pending
  | _ => none

/-- A mark is complete behind the one before. -/
def hit (before : Option Mark) (m : Mark) : Option Scan :=
  if before.any (·.clashes m) then none else some ⟨if m.leads then some m else none, .none⟩

def step (s : Scan) (c : Char) : Option Scan :=
  if isBlank c then some ⟨s.held, .none⟩
  else
    match s.stem, c with
    | _, '(' => hit s.held .opening
    | _, ')' => hit s.held .closing
    | _, 'A' => some ⟨s.held, .a⟩
    | _, 'O' => some ⟨s.held, .o⟩
    | .a, 'N' => some ⟨s.pending, .an⟩
    | .an, 'D' => hit s.pending (.connective .and)
    | .o, 'R' => hit s.pending (.connective .or)
    | _, _ => some clear

theorem step_blank (s : Scan) {c : Char} (blank : isBlank c = true) :
    s.step c = some ⟨s.held, .none⟩ := if_pos blank

/-- Reads a text from the start, and fails where marks clash. -/
def through (s : Scan) (cs : List Char) : Option Scan := cs.foldlM step s

@[simp] theorem through_nil (s : Scan) : s.through [] = some s := rfl

theorem through_cons (s : Scan) (c : Char) (cs : List Char) :
    s.through (c :: cs) = (s.step c).bind fun t => t.through cs := by
  rw [through, List.foldlM_cons]
  rfl

theorem through_append (s : Scan) (front back : List Char) :
    s.through (front ++ back) = (s.through front).bind fun t => t.through back := by
  rw [through, List.foldlM_append]
  rfl

theorem through_concat (s : Scan) (cs : List Char) (c : Char) :
    s.through (cs ++ [c]) = (s.through cs).bind fun t => t.step c := by
  rw [through_append]
  cases s.through cs with
  | none => rfl
  | some t =>
    rw [Option.bind_some, Option.bind_some, through_cons]
    cases t.step c <;> rfl

/-- The mark comes before the end of what was read, with white space alone behind it. It was there
at the outset or has been read since. -/
def Behind (outset : Option Mark) (read : List Char) (m : Mark) : Prop :=
  (outset = some m ∧ ∀ c ∈ read, isBlank c = true) ∨
    m.leads = true ∧ ∃ front gap, read = front ++ (m.word.toList ++ gap) ∧
      ∀ c ∈ gap, isBlank c = true

/-- What was read ends with a mark that clashes with the one before. -/
def Clash (outset : Option Mark) (read : List Char) : Prop :=
  ∃ one two front, one.clashes two = true ∧ Behind outset front one ∧
    read = front ++ two.word.toList

/-- A scan keeps in mind the end of what it has read. -/
def Recalls (outset : Option Mark) (read : List Char) (s : Scan) : Prop :=
  ∃ front, read = front ++ s.stem.letters ∧ ∀ m, s.pending = some m → Behind outset front m

variable {outset : Option Mark} {read : List Char} {s t : Scan} {c : Char} {m : Mark}

theorem Behind.blank (behind : Behind outset read m) (blank : isBlank c = true) :
    Behind outset (read ++ [c]) m := by
  have extended : ∀ {gap : List Char}, (∀ d ∈ gap, isBlank d = true) →
      ∀ d ∈ gap ++ [c], isBlank d = true := by
    intro gap before d member
    rcases List.mem_append.mp member with earlier | last
    · exact before d earlier
    · rw [List.mem_singleton.mp last]
      exact blank
  rcases behind with ⟨same, before⟩ | ⟨leads, front, gap, rfl, before⟩
  · exact .inl ⟨same, extended before⟩
  · refine .inr ⟨leads, front, gap ++ [c], ?_, extended before⟩
    simp only [List.append_assoc]

theorem Recalls.held (recalls : Recalls outset read s) (kept : s.held = some m) :
    Behind outset read m := by
  obtain ⟨front, rfl, behind⟩ := recalls
  obtain ⟨pending, stem⟩ := s
  cases stem with
  | none =>
    rw [Stem.letters, List.append_nil]
    exact behind m kept
  | _ => cases kept

/-- A complete mark clashes with the one before, or is kept in its place. -/
theorem hit_recalls {before : Option Mark} {front : List Char} (m : Mark)
    (behind : ∀ one, before = some one → Behind outset front one) :
    (∃ t, hit before m = some t ∧ Recalls outset (front ++ m.word.toList) t) ∨
      hit before m = none ∧ Clash outset (front ++ m.word.toList) := by
  unfold hit
  split
  · next clash =>
    cases before with
    | none => cases clash
    | some one => exact .inr ⟨rfl, one, m, front, clash, behind one rfl, rfl⟩
  · refine .inl ⟨_, rfl, front ++ m.word.toList, (List.append_nil _).symm, fun two kept => ?_⟩
    dsimp only at kept
    split at kept
    · next leads =>
      cases kept
      exact .inr ⟨leads, front, [], by rw [List.append_nil], nofun⟩
    · cases kept

theorem clear_recalls (read : List Char) : Recalls outset read clear :=
  ⟨read, (List.append_nil read).symm, nofun⟩

/-- One step fails at a clash and only there. -/
theorem step_recalls (recalls : Recalls outset read s) (c : Char) :
    (∃ t, s.step c = some t ∧ Recalls outset (read ++ [c]) t) ∨
      s.step c = none ∧ Clash outset (read ++ [c]) := by
  have held : ∀ m, s.held = some m → Behind outset read m := fun m => recalls.held
  obtain ⟨front, shape, behind⟩ := recalls
  unfold step
  split
  · next blank =>
    exact .inl ⟨_, rfl, read ++ [c], (List.append_nil _).symm,
      fun m kept => (held m kept).blank blank⟩
  · split
    · exact hit_recalls .opening held
    · exact hit_recalls .closing held
    · exact .inl ⟨_, rfl, read, rfl, held⟩
    · exact .inl ⟨_, rfl, read, rfl, held⟩
    · next stem _ =>
      rw [stem] at shape
      exact .inl ⟨_, rfl, front, by rw [shape, List.append_assoc]; rfl, behind⟩
    · next stem _ =>
      rw [stem] at shape
      rw [shape, List.append_assoc]
      exact hit_recalls (.connective .and) behind
    · next stem _ =>
      rw [stem] at shape
      rw [shape, List.append_assoc]
      exact hit_recalls (.connective .or) behind
    · exact .inl ⟨_, rfl, clear_recalls _⟩

theorem through_recalls (outset : Option Mark) (cs : List Char) :
    (∃ t, (Scan.mk outset .none).through cs = some t ∧ Recalls outset cs t) ∨
      (Scan.mk outset .none).through cs = none ∧
        ∃ front, front <+: cs ∧ Clash outset front := by
  induction cs using List.reverseRecOn with
  | nil => exact .inl ⟨_, rfl, [], rfl, fun m kept => .inl ⟨kept, nofun⟩⟩
  | append_singleton cs c ih =>
    rw [through_concat]
    rcases ih with ⟨t, through, recalls⟩ | ⟨stopped, front, starts, clash⟩
    · rw [through, Option.bind_some]
      rcases step_recalls recalls c with next | ⟨stopped, clash⟩
      · exact .inl next
      · exact .inr ⟨stopped, _, List.prefix_refl _, clash⟩
    · rw [stopped, Option.bind_none]
      exact .inr ⟨rfl, front, starts.trans (List.prefix_append cs [c]), clash⟩

/-- Reading the word of a mark completes it, whatever was read before. -/
theorem through_word (s : Scan) {m : Mark} (short : m ≠ .order) :
    s.through m.word.toList = hit s.held m := by
  obtain ⟨pending, stem⟩ := s
  have last : ∀ front c, m.word.toList = front ++ [c] → (Scan.mk pending stem).through
      m.word.toList = ((Scan.mk pending stem).through front).bind fun t => t.step c := by
    intro front c shape
    rw [shape, through_concat]
  rcases m with _ | _ | (_ | _) | _
  case opening =>
    rw [last [] '(' rfl]
    cases stem <;> rfl
  case closing =>
    rw [last [] ')' rfl]
    cases stem <;> rfl
  case connective.and =>
    rw [last ['A', 'N'] 'D' rfl]
    cases stem <;> rfl
  case connective.or =>
    rw [last ['O'] 'R' rfl]
    cases stem <;> rfl
  case order => exact absurd rfl short

theorem through_gap (m : Option Mark) {gap : List Char} (blank : ∀ c ∈ gap, isBlank c = true) :
    (Scan.mk m .none).through gap = some ⟨m, .none⟩ := by
  induction gap with
  | nil => rfl
  | cons c rest ih =>
    rw [through_cons, step_blank _ (blank c List.mem_cons_self), Option.bind_some]
    exact ih fun d member => blank d (List.mem_cons_of_mem c member)

theorem ne_order_of_clashes {one two : Mark} (clash : one.clashes two = true) : two ≠ .order := by
  rintro rfl
  cases one <;> cases clash

/-- With white space alone behind a mark, the mark is pending. -/
theorem through_behind (behind : Behind outset read m) :
    (Scan.mk outset .none).through read = none ∨
      (Scan.mk outset .none).through read = some ⟨some m, .none⟩ := by
  rcases behind with ⟨rfl, blank⟩ | ⟨leads, front, gap, rfl, blank⟩
  · exact .inr (through_gap (some m) blank)
  · rw [through_append]
    cases (Scan.mk outset .none).through front with
    | none => exact .inl rfl
    | some t =>
      have short : m ≠ .order := by
        rintro rfl
        cases leads
      rw [Option.bind_some, through_append, through_word t short, hit, if_pos leads]
      split
      · exact .inl rfl
      · exact .inr (through_gap (some m) blank)

theorem through_clash (clash : Clash outset read) : (Scan.mk outset .none).through read = none := by
  obtain ⟨one, two, front, clashes, behind, rfl⟩ := clash
  rw [through_append]
  rcases through_behind behind with stopped | reached
  · rw [stopped, Option.bind_none]
  · rw [reached, Option.bind_some, through_word _ (ne_order_of_clashes clashes)]
    exact if_pos clashes

/-- A scan stops in a text exactly when marks clash in it, or at its start with the outset. -/
theorem through_eq_none {cs : List Char} : (Scan.mk outset .none).through cs = none ↔
    ∃ front, front <+: cs ∧ Clash outset front := by
  constructor
  · intro stopped
    rcases through_recalls outset cs with ⟨t, through, _⟩ | ⟨_, found⟩
    · rw [stopped] at through
      cases through
    · exact found
  · rintro ⟨front, ⟨rest, rfl⟩, clash⟩
    rw [through_append, through_clash clash, Option.bind_none]

/-- What a search finds stops every scan. -/
theorem through_of_meet {one two : Mark} {cs : List Char} (clashes : one.clashes two = true)
    (met : one.meet two cs = true) : (Scan.mk outset .none).through cs = none := by
  obtain ⟨front, gap, behind, rfl, blank⟩ := Chars.exists_apart_of_meets met
  have leads : one.leads = true := by
    cases one with
    | opening => rfl
    | connective k => rfl
    | closing => cases two <;> cases clashes
    | order => cases two <;> cases clashes
  rw [through_eq_none]
  refine ⟨front ++ (one.word.toList ++ gap) ++ two.word.toList, ⟨behind, ?_⟩, one, two, _, clashes,
    .inr ⟨leads, front, gap, rfl, blank⟩, rfl⟩
  simp only [List.append_assoc]

/-- What a text starts with stops a scan that sets out behind a mark that clashes with it. -/
theorem through_of_heads {one two : Mark} {cs : List Char} (clashes : one.clashes two = true)
    (headed : two.heads cs = true) : (Scan.mk (some one) .none).through cs = none := by
  rw [Mark.heads, List.isPrefixOf_iff_prefix] at headed
  obtain ⟨behind, shape⟩ := headed
  rw [through_eq_none]
  refine ⟨cs.takeWhile isBlank ++ two.word.toList, ⟨behind, ?_⟩, one, two, _, clashes,
    .inl ⟨rfl, fun c member => List.mem_takeWhile_imp member⟩, rfl⟩
  rw [List.append_assoc, shape, List.takeWhile_append_dropWhile]

/-- A scan that sets out with nothing stops exactly where a search finds marks that clash. -/
theorem clear_through_eq_none {cs : List Char} : clear.through cs = none ↔
    ∃ one two : Mark, one.clashes two = true ∧ one.meet two cs = true := by
  constructor
  · intro stopped
    obtain ⟨_, ⟨rest, rfl⟩, one, two, _, clashes, behind, rfl⟩ := through_eq_none.mp stopped
    rcases behind with ⟨same, _⟩ | ⟨_, front, gap, rfl, blank⟩
    · cases same
    · refine ⟨one, two, clashes, ?_⟩
      simp only [List.append_assoc]
      exact one.meet_apart two front blank rest
  · rintro ⟨one, two, clashes, met⟩
    exact through_of_meet clashes met

end Scan

end SqlBuilder
