import Mathlib.Data.List.Basic
import Mathlib.Tactic.SplitIfs
import SqlBuilder.Json.Reader
import SqlBuilder.Proofs.Json.Grammar

set_option autoImplicit false

namespace SqlBuilder.Json

variable {c : Char} {rest : List Char}

theorem hexDigit_mod (n : Nat) : Chars.hexDigit n = Chars.hexDigit (n % 16) := by
  unfold Chars.hexDigit
  simp only [Nat.mod_mod]

theorem hexValue?_hexDigit (n : Nat) : hexValue? (Chars.hexDigit n) = some (n % 16) := by
  have digits : ∀ d < 16, hexValue? (Chars.hexDigit d) = some d := by decide +kernel
  rw [hexDigit_mod]
  exact digits _ (Nat.mod_lt n (by decide))

theorem unit?_hex {n : Nat} (small : n < 0x10000) : unit? (Chars.hex 4 n) = some n := by
  have value : (((n / 16 / 16 / 16 % 16) * 16 + n / 16 / 16 % 16) * 16 + n / 16 % 16) * 16 +
      n % 16 = n := by omega
  simp only [Chars.hex, List.nil_append, List.cons_append, unit?, hexValue?_hexDigit,
    Option.bind_eq_bind, Option.bind_some, value]
  rfl

theorem readUnit_of_unit? {digits : List Char} {n : Nat} (value : unit? digits = some n)
    (rest : List Char) : readUnit (digits ++ rest) = some (n, rest) := by
  obtain ⟨a, b, c, d, rfl, _⟩ := unit?_eq_some value
  simp only [List.cons_append, List.nil_append, readUnit, value, Option.map_some]

/-- One more character has been read. -/
def reading (c : Char) (found : Option (List Char × List Char)) : Option (List Char × List Char) :=
  found.map fun (cs, rest) => (c :: cs, rest)

theorem readChars_short {e : Char} (short : shortEscape? e = some c) (fuel : Nat)
    (rest : List Char) :
    readChars (fuel + 1) ('\\' :: e :: rest) = reading c (readChars fuel rest) := by
  have other : e ≠ 'u' := by
    rintro rfl
    cases short
  rw [readChars]
  · rw [short]
    cases readChars fuel rest <;> rfl
  · exact other

theorem readChars_unicode {cs rest : List Char} (unit : readEscapedUnit cs = some (c, rest))
    (fuel : Nat) : readChars (fuel + 1) ('\\' :: 'u' :: cs) = reading c (readChars fuel rest) := by
  rw [readChars, unit]
  simp only [Option.bind_eq_bind, Option.bind_some]
  cases readChars fuel rest <;> rfl

theorem readEscapedUnit_unit {digits : List Char} (value : unit? digits = some c.toNat)
    (rest : List Char) : readEscapedUnit (digits ++ rest) = some (c, rest) := by
  have scalar : c.toNat < 0xd800 ∨ 0xe000 ≤ c.toNat := by
    rcases c.valid with low | ⟨high, _⟩
    · exact .inl low
    · exact .inr high
  rw [readEscapedUnit, readUnit_of_unit? value]
  simp only [Option.bind_eq_bind, Option.bind_some]
  rw [if_neg (by omega), if_neg (by omega), Char.ofNat_toNat]
  rfl

theorem readEscapedUnit_pair {first second : List Char} {high low : Nat}
    (leads : unit? first = some high) (follows : unit? second = some low)
    (isHigh : 0xd800 ≤ high ∧ high < 0xdc00) (isLow : 0xdc00 ≤ low ∧ low < 0xe000)
    (value : c.toNat = 0x10000 + (high - 0xd800) * 0x400 + (low - 0xdc00)) (rest : List Char) :
    readEscapedUnit (first ++ '\\' :: 'u' :: (second ++ rest)) = some (c, rest) := by
  rw [readEscapedUnit, readUnit_of_unit? leads]
  simp only [Option.bind_eq_bind, Option.bind_some]
  rw [if_pos isHigh, readUnit_of_unit? follows]
  simp only [Option.bind_some]
  rw [if_pos isLow, ← value, Char.ofNat_toNat]
  rfl

theorem readChars_plain (quote : c ≠ '"') (backslash : c ≠ '\\') (printed : 0x20 ≤ c.toNat)
    (fuel : Nat) (rest : List Char) :
    readChars (fuel + 1) (c :: rest) = reading c (readChars fuel rest) := by
  rw [readChars]
  · simp only [Nat.not_lt.mpr printed, backslash, decide_false, Bool.or_self, Bool.false_eq_true,
      ↓reduceIte]
    cases readChars fuel rest <;> rfl
  · exact fun same => absurd same quote
  · exact fun _ same => absurd same backslash
  · exact fun _ _ same => absurd same backslash

/-- The reader takes up one character in one step, in whatever way it is written. -/
theorem readChars_piece {piece : List Char} (spells : SpellsChar c piece) (fuel : Nat)
    (rest : List Char) :
    readChars (fuel + 1) (piece ++ rest) = reading c (readChars fuel rest) := by
  cases spells with
  | plain printed quote backslash => exact readChars_plain quote backslash printed fuel rest
  | short named => exact readChars_short named fuel rest
  | unit value => exact readChars_unicode (readEscapedUnit_unit value rest) fuel
  | @pair first second _ _ leads follows isHigh isLow value =>
    have shape : ('\\' :: 'u' :: (first ++ '\\' :: 'u' :: second)) ++ rest =
        '\\' :: 'u' :: (first ++ '\\' :: 'u' :: (second ++ rest)) := by
      simp only [List.cons_append, List.append_assoc]
    rw [shape]
    exact readChars_unicode (readEscapedUnit_pair leads follows isHigh isLow value rest) fuel

theorem readChars_spelled {fuel : Nat} {cs text : List Char} (spells : SpellsChars cs text)
    (enough : cs.length < fuel) (rest : List Char) :
    readChars fuel (text ++ '"' :: rest) = some (cs, rest) := by
  induction spells generalizing fuel with
  | nil =>
    obtain ⟨fuel, rfl⟩ : ∃ k, fuel = k + 1 := ⟨fuel - 1, by omega⟩
    rfl
  | cons first _ ih =>
    obtain ⟨fuel, rfl⟩ : ∃ k, fuel = k + 1 := ⟨fuel - 1, by omega⟩
    rw [List.length_cons] at enough
    rw [List.append_assoc, readChars_piece first, ih (by omega)]
    rfl

theorem SpellsChar.length_pos {piece : List Char} (spells : SpellsChar c piece) :
    0 < piece.length := by
  cases spells <;> exact Nat.succ_pos _

theorem SpellsChars.length_le {cs text : List Char} (spells : SpellsChars cs text) :
    cs.length ≤ text.length := by
  induction spells with
  | nil => exact Nat.le_refl 0
  | cons first _ ih =>
    have positive := first.length_pos
    rw [List.length_append, List.length_cons]
    omega

/-- A written text reads as itself, whatever follows it. -/
theorem readText_spelled {s : String} {text : List Char} (spells : SpellsText s text)
    (rest : List Char) : readText (text ++ rest) = some (s, rest) := by
  obtain ⟨chars⟩ := spells
  have longer := chars.length_le
  rw [List.cons_append, List.append_assoc, List.singleton_append, readText,
    readChars_spelled chars (by rw [List.length_append]; omega)]
  simp only [Option.map_some, String.ofList_toList]

/-- One case for each branch of the writer: seven short escapes, a control character, the rest. -/
theorem spellsChar_escapeChar (c : Char) : SpellsChar c (escapeChar c) := by
  unfold escapeChar
  split_ifs with quote backslash backspace feed line carriage tab control
  · subst quote
    exact .short rfl
  · subst backslash
    exact .short rfl
  · subst backspace
    exact .short rfl
  · subst feed
    exact .short rfl
  · subst line
    exact .short rfl
  · subst carriage
    exact .short rfl
  · subst tab
    exact .short rfl
  · exact .unit (unit?_hex (by omega))
  · exact .plain (Nat.le_of_not_lt control) quote backslash

theorem spellsText_writeText (s : String) : SpellsText s (writeText s) := by
  have chars : ∀ cs : List Char, SpellsChars cs (cs.flatMap escapeChar) := by
    intro cs
    induction cs with
    | nil => exact .nil
    | cons c cs ih => exact .cons (spellsChar_escapeChar c) ih
  have written : writeText s = '"' :: (s.toList.flatMap escapeChar ++ ['"']) := by
    rw [writeText, writeChars, List.cons_append]
  rw [written]
  exact .quoted (chars s.toList)

end SqlBuilder.Json
