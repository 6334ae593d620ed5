import SqlBuilder.Json.Codec
import SqlBuilder.Json.Escape
import SqlBuilder.Proofs.Value.Mapping

set_option autoImplicit false

namespace SqlBuilder.Json

/-- What a character may be written as between quotation marks. -/
inductive SpellsChar : Char → List Char → Prop
  | plain {c : Char} (printed : 0x20 ≤ c.toNat) (quote : c ≠ '"') (backslash : c ≠ '\\') :
    SpellsChar c [c]
  | short {c e : Char} (named : shortEscape? e = some c) : SpellsChar c ['\\', e]
  | unit {c : Char} {digits : List Char} (value : unit? digits = some c.toNat) :
    SpellsChar c ('\\' :: 'u' :: digits)
  | pair {c : Char} {first second : List Char} {high low : Nat} (leads : unit? first = some high)
    (follows : unit? second = some low) (isHigh : 0xd800 ≤ high ∧ high < 0xdc00)
    (isLow : 0xdc00 ≤ low ∧ low < 0xe000)
    (value : c.toNat = 0x10000 + (high - 0xd800) * 0x400 + (low - 0xdc00)) :
    SpellsChar c ('\\' :: 'u' :: (first ++ '\\' :: 'u' :: second))

inductive SpellsChars : List Char → List Char → Prop
  | nil : SpellsChars [] []
  | cons {c : Char} {piece cs text : List Char} (first : SpellsChar c piece)
    (others : SpellsChars cs text) : SpellsChars (c :: cs) (piece ++ text)

/-- What a text may be written as, with its quotation marks. -/
inductive SpellsText (s : String) : List Char → Prop
  | quoted {text : List Char} (chars : SpellsChars s.toList text) :
    SpellsText s ('"' :: (text ++ ['"']))

mutual

/-- What a value may be written as without any space between the parts. -/
inductive Spells : Value → List Char → Prop
  | null : Spells .null "null".toList
  | bool (b : Bool) : Spells (.bool b) (toString b).toList
  | int (n : Int) : Spells (.int n) (toString n).toList
  | text {s : String} {text : List Char} (quoted : SpellsText s text) : Spells (.str s) text
  | emptyList : Spells (.list []) ['[', ']']
  | list {items : List Value} {text : List Char} (each : SpellsItems items text) :
    Spells (.list items) ('[' :: (text ++ [']']))
  | emptyMap : Spells (.map []) ['\x7b', '\x7d']
  | map {entries : Entries} {text : List Char} (each : SpellsMembers entries text) :
    Spells (.map entries) ('\x7b' :: (text ++ ['\x7d']))

/-- What the items of a list may be written as, if it has any. -/
inductive SpellsItems : List Value → List Char → Prop
  | last {v : Value} {text : List Char} (value : Spells v text) : SpellsItems [v] text
  | cons {v : Value} {items : List Value} {first text : List Char} (value : Spells v first)
    (others : SpellsItems items text) : SpellsItems (v :: items) (first ++ ',' :: text)

/-- What the members of a map may be written as, if it has any. -/
inductive SpellsMembers : Entries → List Char → Prop
  | last {key : String} {v : Value} {name text : List Char} (named : SpellsText key name)
    (value : Spells v text) : SpellsMembers [(.str key, v)] (name ++ ':' :: text)
  | cons {key : String} {v : Value} {entries : Entries} {name first text : List Char}
    (named : SpellsText key name) (value : Spells v first)
    (others : SpellsMembers entries text) :
    SpellsMembers ((.str key, v) :: entries) (name ++ ':' :: (first ++ ',' :: text))

end

/-- An integer of 64 bits, with or without a sign. -/
def IsWord (n : Int) : Prop := -0x8000000000000000 ≤ n ∧ n ≤ 0xffffffffffffffff

/-- A value that JSON has a form of its own for. -/
inductive Document : Value → Prop
  | null : Document .null
  | bool (b : Bool) : Document (.bool b)
  | int {n : Int} (word : IsWord n) : Document (.int n)
  | text (s : String) : Document (.str s)
  | list {items : List Value} (each : ∀ v ∈ items, Document v) : Document (.list items)
  | map {entries : Entries} (keyed : entries.StringKeyed)
      (each : ∀ entry ∈ entries, Document entry.2) : Document (.map entries)

/-- The codec writes documents in the grammar of JSON, without any space, and reads what is written
so. -/
structure Codec.Standard (codec : Codec) : Prop where
  encodes : ∀ v, Document v → ∃ text, codec.encode v = .ok text ∧ Spells v text.toList
  decodes : ∀ v text, Document v → Spells v text.toList → codec.decode text = .ok v

/-- The character is no control character of ASCII; line feed and return are two of those. -/
def Inline (c : Char) : Prop := 0x20 ≤ c.toNat

instance (c : Char) : Decidable (Inline c) := inferInstanceAs (Decidable (0x20 ≤ c.toNat))

theorem inline_of_all {cs : List Char} (all : cs.all (fun c => decide (Inline c)) = true) :
    ∀ c ∈ cs, Inline c :=
  fun c member => of_decide_eq_true (List.all_eq_true.mp all c member)

/-- A hexadecimal digit is a digit or a letter. -/
theorem inline_of_hexValue? {c : Char} {n : Nat} (value : hexValue? c = some n) : Inline c := by
  have above : ∀ d : Char, Inline d → d ≤ c → Inline c := fun d inline least =>
    Nat.le_trans inline (Char.le_def.mp least)
  unfold hexValue? at value
  simp only [Bool.and_eq_true, decide_eq_true_eq] at value
  split at value
  · next digit => exact above '0' (by decide) digit.1
  · split at value
    · next letter => exact above 'a' (by decide) letter.1
    · split at value
      · next letter => exact above 'A' (by decide) letter.1
      · cases value

theorem unit?_eq_some {digits : List Char} {n : Nat} (value : unit? digits = some n) :
    ∃ a b c d, digits = [a, b, c, d] ∧ ∀ digit ∈ digits, Inline digit := by
  unfold unit? at value
  split at value
  · next a b c d =>
    simp only [Option.bind_eq_bind, Option.bind_eq_some_iff] at value
    obtain ⟨_, first, _, second, _, third, _, fourth, _⟩ := value
    refine ⟨a, b, c, d, rfl, ?_⟩
    simp only [List.forall_mem_cons, List.not_mem_nil, false_implies, implies_true, and_true]
    exact ⟨inline_of_hexValue? first, inline_of_hexValue? second, inline_of_hexValue? third,
      inline_of_hexValue? fourth⟩
  · cases value

theorem inline_of_shortEscape? {c e : Char} (named : shortEscape? e = some c) : Inline e := by
  unfold shortEscape? at named
  simp only [Bool.or_eq_true, decide_eq_true_eq] at named
  repeat' split at named
  · next given =>
    rcases given with (rfl | rfl) | rfl <;> decide
  all_goals first
    | cases named; done
    | subst_vars; decide

theorem SpellsChar.inline {c : Char} {piece : List Char} (spells : SpellsChar c piece) :
    ∀ d ∈ piece, Inline d := by
  have backslash : Inline '\\' := by decide
  have unit : Inline 'u' := by decide
  cases spells with
  | plain printed quote backslash => exact List.forall_mem_singleton.mpr printed
  | short named =>
    exact List.forall_mem_cons.mpr ⟨backslash,
      List.forall_mem_singleton.mpr (inline_of_shortEscape? named)⟩
  | unit value =>
    obtain ⟨_, _, _, _, _, digits⟩ := unit?_eq_some value
    exact List.forall_mem_cons.mpr ⟨backslash, List.forall_mem_cons.mpr ⟨unit, digits⟩⟩
  | pair leads follows =>
    obtain ⟨_, _, _, _, _, first⟩ := unit?_eq_some leads
    obtain ⟨_, _, _, _, _, second⟩ := unit?_eq_some follows
    exact List.forall_mem_cons.mpr ⟨backslash, List.forall_mem_cons.mpr ⟨unit,
      List.forall_mem_append.mpr ⟨first,
        List.forall_mem_cons.mpr ⟨backslash, List.forall_mem_cons.mpr ⟨unit, second⟩⟩⟩⟩⟩

theorem SpellsChars.inline {cs text : List Char} (spells : SpellsChars cs text) :
    ∀ c ∈ text, Inline c := by
  induction spells with
  | nil => nofun
  | cons first _ ih => exact List.forall_mem_append.mpr ⟨first.inline, ih⟩

theorem SpellsText.inline {s : String} {text : List Char} (spells : SpellsText s text) :
    ∀ c ∈ text, Inline c := by
  have quote : Inline '"' := by decide
  obtain ⟨chars⟩ := spells
  exact List.forall_mem_cons.mpr ⟨quote,
    List.forall_mem_append.mpr ⟨chars.inline, List.forall_mem_singleton.mpr quote⟩⟩

theorem toString_natCast (m : Nat) : (toString (m : Int)).toList = Nat.toDigits 10 m := by
  have shown : toString ((m : Nat) : Int) = toString m := rfl
  rw [shown, Nat.toString_eq_ofList_toDigits, String.toList_ofList]

theorem toString_neg (m : Nat) :
    (toString (-((m + 1 : Nat) : Int))).toList = '-' :: Nat.toDigits 10 (m + 1) := by
  have shown : toString (-((m + 1 : Nat) : Int)) = "-" ++ toString (m + 1) := rfl
  rw [shown, String.toList_append, Nat.toString_eq_ofList_toDigits, String.toList_ofList]
  simp

/-- An integer is written by its digits, or by a minus sign and the digits of what it negates. -/
theorem toString_cases (n : Int) :
    (∃ m : Nat, n = m ∧ (toString n).toList = Nat.toDigits 10 m) ∨
      ∃ m : Nat, n = -((m + 1 : Nat) : Int) ∧
        (toString n).toList = '-' :: Nat.toDigits 10 (m + 1) := by
  cases n with
  | ofNat m => exact .inl ⟨m, rfl, toString_natCast m⟩
  | negSucc m => exact .inr ⟨m, rfl, toString_neg m⟩

theorem inline_toString (n : Int) : ∀ c ∈ (toString n).toList, Inline c := by
  have digits : ∀ m : Nat, ∀ c ∈ Nat.toDigits 10 m, Inline c := by
    intro m c member
    have digit := Nat.isDigit_of_mem_toDigits (by decide) (by decide) member
    simp only [Char.isDigit, Bool.and_eq_true, decide_eq_true_eq] at digit
    exact Nat.le_trans (by decide) digit.1
  rcases toString_cases n with ⟨m, -, spelled⟩ | ⟨m, -, spelled⟩
  · rw [spelled]
    exact digits m
  · rw [spelled]
    exact List.forall_mem_cons.mpr ⟨by decide, digits _⟩

mutual

/-- No control character stands in the text of a value, so the text is one line. -/
theorem Spells.inline : ∀ {v : Value} {text : List Char}, Spells v text → ∀ c ∈ text, Inline c
  | _, _, .null => inline_of_all rfl
  | _, _, .bool b => by cases b <;> exact inline_of_all rfl
  | _, _, .int n => inline_toString n
  | _, _, .text quoted => quoted.inline
  | _, _, .emptyList => inline_of_all rfl
  | _, _, .list each => List.forall_mem_cons.mpr ⟨by decide,
      List.forall_mem_append.mpr ⟨each.inline, inline_of_all rfl⟩⟩
  | _, _, .emptyMap => inline_of_all rfl
  | _, _, .map each => List.forall_mem_cons.mpr ⟨by decide,
      List.forall_mem_append.mpr ⟨each.inline, inline_of_all rfl⟩⟩

theorem SpellsItems.inline : ∀ {items : List Value} {text : List Char}, SpellsItems items text →
    ∀ c ∈ text, Inline c
  | _, _, .last value => value.inline
  | _, _, .cons value others => List.forall_mem_append.mpr ⟨value.inline,
      List.forall_mem_cons.mpr ⟨by decide, others.inline⟩⟩

theorem SpellsMembers.inline : ∀ {entries : Entries} {text : List Char},
    SpellsMembers entries text → ∀ c ∈ text, Inline c
  | _, _, .last named value => List.forall_mem_append.mpr ⟨named.inline,
      List.forall_mem_cons.mpr ⟨by decide, value.inline⟩⟩
  | _, _, .cons named value others => List.forall_mem_append.mpr ⟨named.inline,
      List.forall_mem_cons.mpr ⟨by decide, List.forall_mem_append.mpr ⟨value.inline,
        List.forall_mem_cons.mpr ⟨by decide, others.inline⟩⟩⟩⟩

end

end SqlBuilder.Json
