import Mathlib.Data.List.TakeDrop
import SqlBuilder.Json.Reader
import SqlBuilder.Proofs.Json.Grammar

set_option autoImplicit false

namespace SqlBuilder

namespace Json

/-- What may stand behind a value: nothing, a comma, or the end of a list or of a map. -/
def Ends (rest : List Char) : Prop := ∀ c ∈ rest.head?, c = ',' ∨ c = ']' ∨ c = '\x7d'

theorem ends_nil : Ends [] := nofun

theorem ends_cons {c : Char} {rest : List Char} (ends : c = ',' ∨ c = ']' ∨ c = '\x7d') :
    Ends (c :: rest) := by
  rintro _ ⟨⟩
  exact ends

end Json

namespace Numeral

variable {n : Nat} {rest : List Char}

theorem isDigit_of_mem_toDigits {c : Char} (member : c ∈ Nat.toDigits 10 n) : isDigit c = true := by
  have digit := Nat.isDigit_of_mem_toDigits (by decide) (by decide) member
  simpa [isDigit, Char.isDigit, Char.le_def] using digit

/-- Only zero itself is written with a zero in front. -/
theorem toDigits_eq_cons (positive : 0 < n) :
    ∃ c digits, Nat.toDigits 10 n = c :: digits ∧ c ≠ '0' := by
  induction n using Nat.strongRecOn with
  | _ n ih =>
    rcases Nat.lt_or_ge n 10 with small | large
    · have digits : ∀ d < 10, 0 < d → Nat.digitChar d ≠ '0' := by decide
      exact ⟨_, [], Nat.toDigits_of_lt_base small, digits n small positive⟩
    · obtain ⟨c, digits, front, other⟩ := ih (n / 10) (by omega) (by omega)
      refine ⟨c, digits ++ [Nat.digitChar (n % 10)], ?_, other⟩
      rw [Nat.toDigits_of_base_le (by decide) large, front, List.cons_append]

theorem isDigit_of_ends (ends : Json.Ends rest) : ∀ c ∈ rest.head?, isDigit c = false := by
  intro c first
  rcases ends c first with rfl | rfl | rfl <;> decide

/-- A run of digits is taken whole. -/
theorem scanDigits_append {digits : List Char} (some_digit : digits ≠ [])
    (all : ∀ c ∈ digits, isDigit c = true) (ends : Json.Ends rest) :
    scanDigits (digits ++ rest) = some (digits, rest) := by
  have none_further : rest.takeWhile isDigit = [] ∧ rest.dropWhile isDigit = rest := by
    cases rest with
    | nil => exact ⟨rfl, rfl⟩
    | cons c rest =>
      have other : isDigit c = false := isDigit_of_ends ends c rfl
      simp [other]
  rw [scanDigits, List.takeWhile_append_of_pos all, List.dropWhile_append_of_pos all,
    none_further.1, none_further.2, List.append_nil]
  cases digits with
  | nil => exact absurd rfl some_digit
  | cons c digits => rfl

theorem scanWhole_toDigits (n : Nat) (ends : Json.Ends rest) :
    scanWhole (Nat.toDigits 10 n ++ rest) = some (Nat.toDigits 10 n, rest) := by
  rcases Nat.eq_zero_or_pos n with rfl | positive
  · have other : ((rest.head?.map isDigit).getD false) = false := by
      cases first : rest.head? with
      | none => rfl
      | some c => exact isDigit_of_ends ends c first
    rw [Nat.toDigits_zero, List.singleton_append, scanWhole, other, if_neg Bool.false_ne_true]
  · have whole := scanDigits_append (Nat.toDigits_ne_nil (b := 10) (n := n))
      (fun c => isDigit_of_mem_toDigits) ends
    obtain ⟨c, digits, spelled, other⟩ := toDigits_eq_cons positive
    rw [spelled, List.cons_append] at whole ⊢
    rw [scanWhole]
    · exact whole
    · rintro _ ⟨⟩
      exact other rfl

theorem scanFraction_of_ends (ends : Json.Ends rest) : scanFraction rest = some (none, rest) := by
  cases rest with
  | nil => rfl
  | cons c rest =>
    rcases ends c rfl with rfl | rfl | rfl <;> rfl

theorem scanExponent_of_ends (ends : Json.Ends rest) : scanExponent rest = some (none, rest) := by
  cases rest with
  | nil => rfl
  | cons c rest =>
    rcases ends c rfl with rfl | rfl | rfl <;> rfl

/-- Digits with or without a minus sign are a numeral without a fraction or an exponent. -/
theorem scan_toDigits (n : Nat) (ends : Json.Ends rest) :
    scan (Nat.toDigits 10 n ++ rest) = some (⟨false, Nat.toDigits 10 n, none, none⟩, rest) := by
  obtain ⟨c, digits, spelled⟩ := List.exists_cons_of_ne_nil (Nat.toDigits_ne_nil (b := 10) (n := n))
  have digit : isDigit c = true :=
    isDigit_of_mem_toDigits (n := n) (spelled ▸ List.mem_cons_self)
  have unsigned : c ≠ '-' := by
    rintro rfl
    exact absurd digit (by decide)
  have whole := scanWhole_toDigits n ends
  rw [spelled, List.cons_append] at whole ⊢
  unfold scan
  split
  next negative cs sign =>
    obtain ⟨rfl, rfl⟩ : negative = false ∧ cs = c :: (digits ++ rest) := by
      split at sign
      · next same => exact absurd (List.head_eq_of_cons_eq same) unsigned
      · exact ⟨(congrArg Prod.fst sign).symm, (congrArg Prod.snd sign).symm⟩
    simp only [whole, scanFraction_of_ends ends, scanExponent_of_ends ends, Option.bind_eq_bind,
      Option.bind_some]
    rfl

theorem scan_negative (n : Nat) (ends : Json.Ends rest) :
    scan ('-' :: (Nat.toDigits 10 n ++ rest)) =
      some (⟨true, Nat.toDigits 10 n, none, none⟩, rest) := by
  simp only [scan, scanWhole_toDigits n ends, scanFraction_of_ends ends, scanExponent_of_ends ends,
    Option.bind_eq_bind, Option.bind_some]
  rfl

end Numeral

namespace Json

variable {n : Int} {rest : List Char}

/-- A numeral without a fraction or an exponent is an integer, if it is not too long. -/
theorem readNumber_of_whole {cs : List Char} {m : Numeral}
    (scanned : Numeral.scan cs = some (m, rest)) (whole : m.isWhole = true)
    (short : m.wholeLength ≤ integerLimit) :
    readNumber cs = .ok (.int m.toInt, rest) := by
  rw [readNumber, scanned]
  dsimp only [orMalformed, bind, Except.bind]
  rw [if_pos whole, if_neg (Nat.not_lt.mpr short)]
  rfl

theorem readNumber_toString (word : IsWord n) (ends : Ends rest) :
    readNumber ((toString n).toList ++ rest) = .ok (.int n, rest) := by
  have short : ∀ {m : Nat}, m < 10 ^ 20 → (Nat.toDigits 10 m).length ≤ 20 := fun small =>
    (Nat.length_toDigits_le_iff (by decide) (by decide)).mpr small
  have value : ∀ m, Numeral.valueOf (Nat.toDigits 10 m) = m := fun m =>
    Nat.ofDigitChars_toDigits (by decide) (by decide)
  obtain ⟨least, most⟩ := word
  rcases toString_cases n with ⟨m, rfl, spelled⟩ | ⟨m, rfl, spelled⟩
  · have digits := short (m := m) (by omega)
    have length : Numeral.wholeLength ⟨false, Nat.toDigits 10 m, none, none⟩ ≤ integerLimit := by
      simp only [Numeral.wholeLength, integerLimit, Bool.false_eq_true, ↓reduceIte]
      omega
    rw [spelled, readNumber_of_whole (Numeral.scan_toDigits _ ends) rfl length, Numeral.toInt,
      value]
    rfl
  · have digits := short (m := m + 1) (by omega)
    have length :
        Numeral.wholeLength ⟨true, Nat.toDigits 10 (m + 1), none, none⟩ ≤ integerLimit := by
      simp only [Numeral.wholeLength, integerLimit, ↓reduceIte]
      omega
    rw [spelled, List.cons_append,
      readNumber_of_whole (Numeral.scan_negative _ ends) rfl length, Numeral.toInt, value]
    rfl

end Json

end SqlBuilder
