import SqlBuilder.Proofs.Condition.Scan
import SqlBuilder.Proofs.Condition.Verdict

set_option autoImplicit false

namespace SqlBuilder

open Chars (isBlank)

namespace Scan

/-- No letters of a connective have been read, so that a word may start. -/
def Fresh (s : Scan) : Prop := s.stem = .none

/-- No mark is pending, so that any may come. -/
def Settled (s : Scan) : Prop := s.held = none

/-- Nothing is kept at all. -/
def Clear (s : Scan) : Prop := s = clear

theorem Clear.fresh {s : Scan} (plain : s.Clear) : s.Fresh := by
  rw [plain]
  rfl

theorem Clear.settled {s : Scan} (plain : s.Clear) : s.Settled := by
  rw [plain]
  rfl

end Scan

open Scan (Fresh Settled Clear)

/-- From each of the first states a scan gets through the text to one of the second. -/
def Leads (P : Scan → Prop) (s : String) (Q : Scan → Prop) : Prop :=
  ∀ a, P a → ∃ b, a.through s.toList = some b ∧ Q b

namespace Leads

variable {P Q R : Scan → Prop} {s t : String}

theorem append (first : Leads P s Q) (second : Leads Q t R) : Leads P (s ++ t) R := by
  intro a start
  obtain ⟨b, through, reached⟩ := first a start
  obtain ⟨c, through', finished⟩ := second b reached
  refine ⟨c, ?_, finished⟩
  rw [String.toList_append, Scan.through_append, through, Option.bind_some, through']

theorem mono (leads : Leads P s Q) {P' Q' : Scan → Prop} (before : ∀ a, P' a → P a)
    (after : ∀ a, Q a → Q' a) : Leads P' s Q' := by
  intro a start
  obtain ⟨b, through, reached⟩ := leads a (before a start)
  exact ⟨b, through, after b reached⟩

theorem settled (leads : Leads P s Clear) : Leads P s Settled :=
  leads.mono (fun _ start => start) fun _ => Clear.settled

theorem fresh (leads : Leads P s Clear) : Leads P s Fresh :=
  leads.mono (fun _ start => start) fun _ => Clear.fresh

theorem of_clear {b : Scan} (through : Scan.clear.through s.toList = some b) (reached : Q b) :
    Leads Clear s Q := by
  rintro a rfl
  exact ⟨b, through, reached⟩

theorem of_fresh {b : Scan} (through : ∀ m, (Scan.mk m .none).through s.toList = some b)
    (reached : Q b) : Leads Fresh s Q := by
  rintro ⟨m, stem⟩ rfl
  exact ⟨b, through m, reached⟩

end Leads

/-- Only the letters of a connective behind the first make a difference to a stem. -/
theorem Scan.step_held (s : Scan) {c : Char} (other : c ≠ 'N' ∧ c ≠ 'D' ∧ c ≠ 'R') :
    s.step c = (Scan.mk s.held .none).step c := by
  obtain ⟨pending, stem⟩ := s
  cases stem with
  | none => rfl
  | _ =>
    unfold Scan.step
    split
    · rfl
    · split <;> simp_all [Scan.held]

/-- With nothing pending, a text that goes on with no connective begins afresh. -/
theorem Leads.of_settled {s : String} {c : Char} {rest : List Char} {b : Scan}
    {Q : Scan → Prop} (shape : s.toList = c :: rest) (other : c ≠ 'N' ∧ c ≠ 'D' ∧ c ≠ 'R')
    (through : Scan.clear.through s.toList = some b) (reached : Q b) : Leads Settled s Q := by
  intro a settled
  refine ⟨b, ?_, reached⟩
  rw [shape, Scan.through_cons] at through ⊢
  rw [a.step_held other, show a.held = none from settled]
  exact through

namespace Condition

variable {c : Condition}

/-- A scan that gets through the text finds no fault. -/
theorem faultless_of_leads (level : c.depth = 0) (nonempty : c.text.toList ≠ [])
    (leads : Leads Fresh c.text Settled) : c.fault? = none := by
  obtain ⟨t, through, settled⟩ := leads ⟨some .opening, .none⟩ rfl
  rw [fault?_eq_none]
  refine ⟨level, fun one two clash => ?_, fun k => ?_, fun k => ?_, nonempty⟩
  · rw [← Bool.not_eq_true]
    intro met
    rw [Scan.through_of_meet clash met] at through
    cases through
  · rw [← Bool.not_eq_true, List.isSuffixOf_iff_suffix]
    rintro ⟨front, shape⟩
    rw [← shape, Scan.through_append] at through
    obtain ⟨before, _, last⟩ := Option.bind_eq_some_iff.mp through
    have completed := before.through_word (m := .connective k) (by simp)
    rw [Mark.word, last, Scan.hit] at completed
    split at completed
    · cases completed
    · cases completed
      cases settled
  · rw [← Bool.not_eq_true, List.isPrefixOf_iff_prefix]
    rintro ⟨rest, shape⟩
    have headed : (Mark.connective k).heads c.text.toList = true := by
      rw [← shape]
      exact (Mark.connective k).heads_behind (List.forall_mem_nil _) rest
    rw [Scan.through_of_heads rfl headed] at through
    cases through

/-- A text without a fault that never closes too much lets a scan through, with nothing pending
behind it. -/
theorem leads_of_faultless (faultless : c.fault? = none) (level : net c.text.toList = 0)
    (even : ¬ Dips c.text) : Leads Clear c.text Settled := by
  obtain ⟨_, apart, ends, _, _⟩ := fault?_eq_none.mp faultless
  rintro a rfl
  rcases Scan.through_recalls none c.text.toList with ⟨t, through, recalls⟩ | ⟨stopped, _⟩
  · refine ⟨t, through, ?_⟩
    cases kept : t.held with
    | none => exact kept
    | some m =>
      exfalso
      rcases recalls.held kept with ⟨outset, _⟩ | ⟨leads, front, gap, shape, blank⟩
      · cases outset
      · have tight : gap = [] := by
          rcases List.eq_nil_or_concat gap with empty | ⟨earlier, last, rfl⟩
          · exact empty
          · rw [List.concat_eq_append] at shape blank
            rw [toList_text, ← List.append_assoc, ← List.append_assoc] at shape
            have solid := Chars.trim_last shape
            rw [blank last (by simp)] at solid
            cases solid
        rw [tight, List.append_nil] at shape
        cases m with
        | opening =>
          refine even ⟨front, ⟨_, shape.symm⟩, ?_⟩
          rw [shape, net_append] at level
          have single : net (Mark.opening.word.toList) = 1 := rfl
          omega
        | connective k =>
          have last := ends k
          rw [← Bool.not_eq_true, List.isSuffixOf_iff_suffix] at last
          exact last ⟨front, shape.symm⟩
        | closing => cases leads
        | order => cases leads
  · obtain ⟨one, two, clash, met⟩ := Scan.clear_through_eq_none.mp stopped
    rw [apart one two clash] at met
    cases met

end Condition

end SqlBuilder
