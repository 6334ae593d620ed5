import Mathlib.Data.List.Nodup
import Mathlib.Data.List.Perm.Subperm
import SqlBuilder.Proofs.Statement.Diction

set_option autoImplicit false

namespace SqlBuilder

/-- Keys that can stand for columns: texts, no two of which are the same. -/
structure Value.DistinctTexts (keys : List Value) : Prop where
  texts : ∀ key ∈ keys, key.isText = true
  apart : (keys.map Value.display).Nodup

theorem Value.DistinctTexts.of_some {keys : List Value} (distinct : DistinctTexts keys) :
    ∀ columns, some keys = some columns → DistinctTexts columns := by
  rintro _ ⟨⟩
  exact distinct

theorem Value.same_of_texts {v w : Value} (text : v.isText = true) (other : w.isText = true) :
    v.same w = true ↔ v.display = w.display := by
  cases v with
  | text t =>
    cases w with
    | text u => simp [same, display]
    | _ => cases other
  | _ => cases text

namespace Entries

/-- The names of the columns that a row has values for. -/
def names (row : Entries) : List String := row.keys.map Value.display

def TextKeyed (row : Entries) : Prop := Value.DistinctTexts row.keys

/-- A row can establish columns if it names any; under established columns it names just those. -/
def Fits (row : Entries) : Option (List Value) → Prop
  | none => row ≠ []
  | some columns => ∀ name, name ∈ row.names ↔ name ∈ columns.map Value.display

variable {row other : Entries} {key v : Value}

theorem get?_eq_some (keyed : row.TextKeyed) (text : key.isText = true) :
    row.get? key = some v ↔ ∃ k, (k, v) ∈ row ∧ k.display = key.display := by
  have texts : ∀ entry ∈ row, entry.1.isText = true := fun entry member =>
    keyed.texts entry.1 (List.mem_map_of_mem member)
  have apart : (row.map fun entry => entry.1.display).Nodup := by
    simpa only [keys, List.map_map, Function.comp_def] using keyed.apart
  rw [get?, Option.map_eq_some_iff]
  constructor
  · rintro ⟨entry, found, rfl⟩
    have member := List.mem_of_find?_eq_some found
    have same : entry.1.same key = true := by simpa using List.find?_some found
    exact ⟨entry.1, member, (Value.same_of_texts (texts entry member) text).mp same⟩
  · rintro ⟨k, member, equal⟩
    cases found : row.find? fun entry => entry.1.same key with
    | none =>
      have differs := List.find?_eq_none.mp found (k, v) member
      exact absurd ((Value.same_of_texts (texts _ member) text).mpr equal) differs
    | some entry =>
      have given := List.mem_of_find?_eq_some found
      have same : entry.1.same key = true := by simpa using List.find?_some found
      have name := (Value.same_of_texts (texts entry given) text).mp same
      have unique := List.inj_on_of_nodup_map apart given member (name.trans equal.symm)
      exact ⟨entry, rfl, congrArg Prod.snd unique⟩

theorem hasKey_iff (texts : ∀ key ∈ row.keys, key.isText = true) (text : key.isText = true) :
    row.hasKey key = true ↔ key.display ∈ row.names := by
  rw [hasKey, List.any_eq_true, names, List.mem_map]
  constructor
  · rintro ⟨entry, member, same⟩
    have given : entry.1 ∈ row.keys := List.mem_map_of_mem member
    exact ⟨entry.1, given, (Value.same_of_texts (texts _ given) text).mp same⟩
  · rintro ⟨k, given, equal⟩
    obtain ⟨entry, member, rfl⟩ := List.mem_map.mp given
    exact ⟨entry, member, (Value.same_of_texts (texts _ given) text).mpr equal⟩

/-- The values that a row has for its own keys, in their order. -/
theorem get?_keys (keyed : row.TextKeyed) :
    row.keys.map (fun key => row.get? key) = row.values.map some := by
  rw [keys, values, List.map_map, List.map_map]
  refine List.map_congr_left fun entry member => ?_
  have given : entry.1 ∈ row.keys := List.mem_map_of_mem member
  exact (get?_eq_some keyed (keyed.texts _ given)).mpr ⟨entry.1, member, rfl⟩

theorem exists_get? (keyed : row.TextKeyed) (text : key.isText = true)
    (named : key.display ∈ row.names) : ∃ v, row.get? key = some v := by
  obtain ⟨k, given, equal⟩ := List.mem_map.mp named
  obtain ⟨entry, member, rfl⟩ := List.mem_map.mp given
  exact ⟨entry.2, (get?_eq_some keyed text).mpr ⟨entry.1, member, equal⟩⟩

theorem TextKeyed.perm (keyed : row.TextKeyed) (shuffled : row.Perm other) : other.TextKeyed where
  texts key member := keyed.texts key ((shuffled.map Prod.fst).mem_iff.mpr member)
  apart := ((shuffled.map Prod.fst).map Value.display).nodup_iff.mp keyed.apart

theorem get?_perm (keyed : row.TextKeyed) (shuffled : row.Perm other) (text : key.isText = true) :
    row.get? key = other.get? key := by
  ext v
  rw [get?_eq_some keyed text, get?_eq_some (keyed.perm shuffled) text]
  exact exists_congr fun k => and_congr_left fun _ => shuffled.mem_iff

/-- As many columns as established, and each of those among them, make the same set of names. -/
theorem fits_iff {columns : List Value} (keyed : row.TextKeyed)
    (distinct : Value.DistinctTexts columns) :
    row.Fits (some columns) ↔
      row.length = columns.length ∧ ∀ key ∈ columns, row.hasKey key = true := by
  have number : row.names.length = row.length := by simp [names, keys]
  have among : (∀ key ∈ columns, row.hasKey key = true) ↔
      columns.map Value.display ⊆ row.names := by
    rw [List.subset_def, List.forall_mem_map]
    exact forall_congr' fun key => forall_congr' fun member =>
      hasKey_iff keyed.texts (distinct.texts key member)
  rw [among, Fits]
  constructor
  · intro same
    have perm : row.names.Perm (columns.map Value.display) :=
      (List.perm_ext_iff_of_nodup keyed.apart distinct.apart).mpr same
    have lengths := perm.length_eq
    rw [number, List.length_map] at lengths
    exact ⟨lengths, fun name => (same name).mpr⟩
  · rintro ⟨lengths, subset⟩ name
    -- The columns are distinct names of the row and as many as it has, so there are no others.
    have perm : (columns.map Value.display).Perm row.names := by
      refine (List.subperm_of_subset distinct.apart subset).perm_of_length_le ?_
      rw [number, List.length_map]
      exact Nat.le_of_eq lengths
    exact perm.mem_iff.symm

theorem fits_perm {established : Option (List Value)} (shuffled : row.Perm other) :
    row.Fits established ↔ other.Fits established := by
  cases established with
  | none => exact not_congr ⟨fun same => (same ▸ shuffled).nil_eq.symm,
      fun same => (same ▸ shuffled).eq_nil⟩
  | some columns =>
    have names : row.names.Perm other.names := (shuffled.map Prod.fst).map Value.display
    exact forall_congr' fun name => by rw [names.mem_iff]

end Entries

/-- A map that is given for a row has distinct texts for keys. -/
def Value.KeyedRow (v : Value) : Prop := ∀ row, v.entries? = some row → row.TextKeyed

/-- The second value is the first, or a map with the entries of the first in another order. -/
inductive Value.Reordered : Value → Value → Prop
  | same (v : Value) : Reordered v v
  | shuffled {row other : Entries} (perm : row.Perm other) : Reordered (.map row) (.map other)

theorem Value.Reordered.isMap {v w : Value} (reordered : Reordered v w) : v.isMap = w.isMap := by
  cases reordered <;> rfl

namespace Insert

variable {row : Value} {entries : Entries} {established : Option (List Value)}
  {columns vector : List Value}

/-- The values of a fitting row, in the order of the columns. -/
theorem reorder_of_fits (keyed : entries.TextKeyed) (distinct : Value.DistinctTexts columns)
    (fits : entries.Fits (some columns)) :
    reorder row entries columns = .ok (columns.map fun key => (entries.get? key).getD .null) := by
  obtain ⟨lengths, found⟩ := (Entries.fits_iff keyed distinct).mp fits
  rw [reorder, if_neg]
  simpa [lengths] using found

theorem fits_of_reorder (keyed : entries.TextKeyed) (distinct : Value.DistinctTexts columns)
    (ordered : reorder row entries columns = .ok vector) : entries.Fits (some columns) := by
  unfold reorder at ordered
  split at ordered
  · cases ordered
  · next fitting =>
    obtain ⟨lengths, found⟩ := not_or.mp fitting
    exact (Entries.fits_iff keyed distinct).mpr ⟨not_not.mp lengths, by simpa using found⟩

theorem reorder_eq_ok (keyed : entries.TextKeyed) (distinct : Value.DistinctTexts columns) :
    reorder row entries columns = .ok vector ↔
      entries.Fits (some columns) ∧
        columns.map (fun key => entries.get? key) = vector.map some := by
  refine ⟨fun ordered => ⟨fits_of_reorder keyed distinct ordered, ?_⟩, ?_⟩
  · have fits := fits_of_reorder keyed distinct ordered
    rw [reorder_of_fits keyed distinct fits, Except.ok.injEq] at ordered
    rw [← ordered, List.map_map]
    refine List.map_congr_left fun key member => ?_
    have named : key.display ∈ entries.names :=
      (fits key.display).mpr (List.mem_map_of_mem member)
    obtain ⟨v, given⟩ := Entries.exists_get? keyed (distinct.texts key member) named
    rw [Function.comp_apply, given, Option.getD_some]
  · rintro ⟨fits, cells⟩
    have values := congrArg (List.map fun v => Option.getD v .null) cells
    simp only [List.map_map, Function.comp_def, Option.getD_some, List.map_id'] at values
    rw [reorder_of_fits keyed distinct fits, values]

/-- A row is taken up exactly when its values can be bound and it fits the columns. It establishes
its own columns if there are none, and its vector has what it maps each column to. -/
theorem rowVector_iff (read : row.entries? = some entries) (keyed : entries.TextKeyed)
    (distinct : ∀ columns, established = some columns → Value.DistinctTexts columns) :
    rowVector row established = .ok (columns, vector) ↔
      (∀ v ∈ entries.values, v.isBindable = true) ∧ entries.Fits established ∧
        columns = established.getD entries.keys ∧
        columns.map (fun key => entries.get? key) = vector.map some := by
  rw [rowVector_eq_ok]
  constructor
  · rintro ⟨found, listed, bindable, shape⟩
    rw [read] at listed
    cases listed
    refine ⟨bindable, ?_⟩
    cases established with
    | none =>
      obtain ⟨filled, rfl, rfl⟩ := shape
      exact ⟨filled, rfl, Entries.get?_keys keyed⟩
    | some keys =>
      obtain ⟨rfl, ordered⟩ := shape
      obtain ⟨fits, cells⟩ := (reorder_eq_ok keyed (distinct _ rfl)).mp ordered
      exact ⟨fits, rfl, cells⟩
  · rintro ⟨bindable, fits, rfl, cells⟩
    refine ⟨entries, read, bindable, ?_⟩
    cases established with
    | none =>
      refine ⟨fits, rfl, ?_⟩
      rw [Option.getD_none, Entries.get?_keys keyed] at cells
      exact ((List.map_inj_right fun _ _ => Option.some.inj).mp cells).symm
    | some keys => exact ⟨rfl, (reorder_eq_ok keyed (distinct _ rfl)).mpr ⟨fits, cells⟩⟩

/-- A row whose values can be bound is accepted exactly when it fits. -/
theorem rowVector_succeeds_iff (keyed : entries.TextKeyed)
    (bindable : ∀ v ∈ entries.values, v.isBindable = true)
    (distinct : ∀ columns, established = some columns → Value.DistinctTexts columns) :
    (∃ found, rowVector (.map entries) established = .ok found) ↔ entries.Fits established := by
  constructor
  · rintro ⟨⟨columns, vector⟩, taken⟩
    exact ((rowVector_iff rfl keyed distinct).mp taken).2.1
  · intro fits
    cases established with
    | none => exact ⟨_, rowVector_eq_ok.mpr ⟨entries, rfl, bindable, fits, rfl, rfl⟩⟩
    | some columns =>
      have ordered : reorder (.map entries) entries columns = .ok _ :=
        reorder_of_fits keyed (distinct columns rfl) fits
      exact ⟨_, rowVector_eq_ok.mpr ⟨entries, rfl, bindable, rfl, ordered⟩⟩

/-- The first of several rows is accepted as a single one is, and the others under its columns. -/
theorem rowVectors_cons_succeeds_iff {rest : List Value} (keyed : entries.TextKeyed)
    (bindable : ∀ v ∈ entries.values, v.isBindable = true)
    (distinct : ∀ columns, established = some columns → Value.DistinctTexts columns) :
    (∃ found, rowVectors (.map entries :: rest) established = .ok found) ↔
      entries.Fits established ∧
        ∃ found, rowVectors rest (some (established.getD entries.keys)) = .ok found := by
  rw [← rowVector_succeeds_iff keyed bindable distinct, rowVectors]
  constructor
  · rintro ⟨found, all⟩
    obtain ⟨⟨columns, vector⟩, taken, later⟩ := Except.bind_eq_ok.mp all
    obtain ⟨others, remaining, _⟩ := Except.map_eq_ok.mp later
    obtain ⟨_, _, rfl, _⟩ := (rowVector_iff rfl keyed distinct).mp taken
    exact ⟨⟨_, taken⟩, others, remaining⟩
  · rintro ⟨⟨⟨columns, vector⟩, taken⟩, others, remaining⟩
    obtain ⟨_, _, rfl, _⟩ := (rowVector_iff rfl keyed distinct).mp taken
    exact ⟨_, Except.bind_eq_ok.mpr ⟨_, taken, Except.map_eq_ok.mpr ⟨others, remaining, rfl⟩⟩⟩

/-- Rows for columns that are established are accepted together when each of them fits. -/
theorem rowVectors_succeeds_iff {rows : List Entries} (distinct : Value.DistinctTexts columns)
    (keyed : ∀ row ∈ rows, row.TextKeyed)
    (bindable : ∀ row ∈ rows, ∀ v ∈ row.values, v.isBindable = true) :
    (∃ found, rowVectors (rows.map .map) (some columns) = .ok found) ↔
      ∀ row ∈ rows, row.Fits (some columns) := by
  induction rows with
  | nil => exact ⟨fun _ => nofun, fun _ => ⟨_, rfl⟩⟩
  | cons row rest ih =>
    obtain ⟨key, keys⟩ := List.forall_mem_cons.mp keyed
    obtain ⟨value, values⟩ := List.forall_mem_cons.mp bindable
    rw [List.forall_mem_cons, List.map_cons,
      rowVectors_cons_succeeds_iff key value distinct.of_some]
    exact and_congr_right fun _ => ih keys values

/-- Under established columns a row does not show in which order it names them. -/
theorem rowVector_reordered {given other : Value} {found : List Value × List Value}
    (reordered : given.Reordered other) (keyed : given.KeyedRow)
    (distinct : Value.DistinctTexts columns) :
    rowVector given (some columns) = .ok found ↔ rowVector other (some columns) = .ok found := by
  cases reordered with
  | same => rfl
  | @shuffled row other perm =>
    obtain ⟨names, vector⟩ := found
    have key : row.TextKeyed := keyed row rfl
    have bindable : (∀ v ∈ row.values, v.isBindable = true) ↔
        ∀ v ∈ other.values, v.isBindable = true :=
      forall_congr' fun v => by rw [Entries.values, Entries.values, (perm.map Prod.snd).mem_iff]
    have cells : columns.map (fun key => row.get? key) = columns.map fun key => other.get? key :=
      List.map_congr_left fun name member =>
        Entries.get?_perm key perm (distinct.texts name member)
    rw [rowVector_iff rfl key distinct.of_some,
      rowVector_iff rfl (key.perm perm) distinct.of_some, bindable, Entries.fits_perm perm]
    refine and_congr_right fun _ => and_congr_right fun _ => and_congr_right fun own => ?_
    rw [own, Option.getD_some, cells]

/-- The columns that a row is taken up under are distinct texts, as those of its keys are. -/
theorem distinct_of_rowVector {given : Value} (keyed : given.KeyedRow)
    (distinct : ∀ columns, established = some columns → Value.DistinctTexts columns)
    (taken : rowVector given established = .ok (columns, vector)) :
    Value.DistinctTexts columns := by
  obtain ⟨row, read, _⟩ := rowVector_eq_ok.mp taken
  obtain ⟨_, _, rfl, _⟩ := (rowVector_iff read (keyed row read) distinct).mp taken
  cases established with
  | none => exact keyed row read
  | some keys => exact distinct keys rfl

theorem rowVectors_cons_congr {given other : Value} {items others : List Value}
    {found : Option (List Value) × List (List Value)}
    (first : ∀ taken, rowVector given established = .ok taken ↔
      rowVector other established = .ok taken)
    (rest : ∀ columns vector, rowVector given established = .ok (columns, vector) →
      ∀ found, rowVectors items (some columns) = .ok found ↔
        rowVectors others (some columns) = .ok found) :
    rowVectors (given :: items) established = .ok found ↔
      rowVectors (other :: others) established = .ok found := by
  have opened : ∀ v rest, rowVectors (v :: rest) established = .ok found ↔
      ∃ columns vector, rowVector v established = .ok (columns, vector) ∧
        ∃ more, rowVectors rest (some columns) = .ok more ∧ (more.1, vector :: more.2) = found := by
    intro v rest
    rw [rowVectors]
    refine Except.bind_eq_ok.trans (Prod.exists.trans ?_)
    simp only [Except.map_eq_ok]
  rw [opened, opened]
  refine exists_congr fun columns => exists_congr fun vector => ?_
  rw [← first]
  refine and_congr_right fun taken => exists_congr fun more => ?_
  rw [rest columns vector taken]

theorem rowVectors_reordered {items others : List Value}
    {found : Option (List Value) × List (List Value)}
    (reordered : List.Forall₂ Value.Reordered items others)
    (keyed : ∀ given ∈ items, given.KeyedRow) (distinct : Value.DistinctTexts columns) :
    rowVectors items (some columns) = .ok found ↔ rowVectors others (some columns) = .ok found := by
  induction reordered generalizing columns found with
  | nil => rfl
  | @cons given other items others first _ ih =>
    obtain ⟨key, keys⟩ := List.forall_mem_cons.mp keyed
    refine rowVectors_cons_congr (fun _ => rowVector_reordered first key distinct) ?_
    intro columns vector taken found
    exact ih keys (distinct_of_rowVector key distinct.of_some taken)

/-- Of rows that come in one call, the first may have to stay as it is, to establish its columns. -/
theorem rowVectors_reordered_behind {items others : List Value}
    {found : Option (List Value) × List (List Value)}
    (reordered : List.Forall₂ Value.Reordered items others)
    (behind : established ≠ none ∨ items.head? = others.head?)
    (keyed : ∀ given ∈ items, given.KeyedRow)
    (distinct : ∀ columns, established = some columns → Value.DistinctTexts columns) :
    rowVectors items established = .ok found ↔ rowVectors others established = .ok found := by
  cases established with
  | some columns => exact rowVectors_reordered reordered keyed (distinct columns rfl)
  | none =>
    cases reordered with
    | nil => rfl
    | cons first rest =>
      obtain ⟨key, keys⟩ := List.forall_mem_cons.mp keyed
      obtain rfl := Option.some.inj (behind.resolve_left (absurd rfl))
      refine rowVectors_cons_congr (fun _ => Iff.rfl) fun columns vector taken found => ?_
      exact rowVectors_reordered rest keys (distinct_of_rowVector key distinct taken)

end Insert

end SqlBuilder
