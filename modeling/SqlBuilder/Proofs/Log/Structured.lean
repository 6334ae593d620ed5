import SqlBuilder.Log.Record
import SqlBuilder.Proofs.Json.Standard
import SqlBuilder.Proofs.Outcome

set_option autoImplicit false

namespace SqlBuilder

open Json (Document)

theorem Level.isWord_of_lookup {name : String} {level : Level}
    (named : Level.names.lookup name = some level) : Json.IsWord level := by
  have words : ∀ entry ∈ Level.names, Json.IsWord entry.2 := by
    unfold Json.IsWord
    decide
  obtain ⟨front, back, split, _⟩ := List.lookup_eq_some_iff.mp named
  exact words (name, level) (by rw [split]; simp)

/-- A level is titled by a text or by the number of a name. -/
theorem RecordLevel.title_cases {given : Value} {level : RecordLevel}
    (made : RecordLevel.ofValue given = .ok level) :
    (∃ s, level.title = .str s) ∨ ∃ n, Json.IsWord n ∧ level.title = .int n := by
  unfold RecordLevel.ofValue at made
  obtain ⟨key, _, made⟩ := Except.bind_eq_ok.mp made
  obtain ⟨title, found, made⟩ := Except.bind_eq_ok.mp made
  cases made
  unfold RecordLevel.titleOf at found
  split at found
  · cases found
    exact .inl ⟨_, rfl⟩
  · split at found
    · split at found
      · next level named =>
        cases found
        exact .inr ⟨level, Level.isWord_of_lookup named, rfl⟩
      · cases found
        exact .inl ⟨_, rfl⟩
    · obtain ⟨shown, _, rfl⟩ := Except.map_eq_ok.mp found
      exact .inl ⟨_, rfl⟩

namespace LogRecord

variable {time message : String} {stamp bound : Option String} {fields : Entries} {r : LogRecord}

/-- The id of a line: the stamp or, where there is none or an empty one, the bound id. An id that is
empty or stands for none is left out. -/
def lineId? (stamp bound : Option String) : Option String :=
  ((stamp.filter (· ≠ "")).or bound).filter fun id => id ≠ "" ∧ id ≠ noId

/-- What a record tells besides its fields. -/
def described (time : String) (r : LogRecord) (message : String) (id : Option String) : Entries :=
  [(.str "timestamp", .str time), (.str "level", r.level.title), (.str "logger", .str r.logger),
    (.str "message", .str message)] ++
    (id.map fun id => ((.str "correlation_id", .str id) : Value × Value)).toList

theorem truthy_str (s : String) : (Value.str s).truthy = (s != "") := rfl

/-- An empty stamp counts as none. -/
theorem stamp_or_bound (stamp bound : Option String) :
    (if (Value.ofOption .str stamp).truthy then Value.ofOption .str stamp
      else (bound.map .str).getD .null) = .ofOption .str ((stamp.filter (· ≠ "")).or bound) := by
  have unstamped : (bound.map Value.str).getD .null = .ofOption .str bound := by cases bound <;> rfl
  rw [unstamped]
  cases stamp with
  | none => rfl
  | some id =>
    by_cases empty : id = ""
    · subst empty
      rfl
    · have kept : (some id).filter (· ≠ "") = some id :=
        Option.filter_eq_some_iff.mpr ⟨rfl, decide_eq_true empty⟩
      have counts : (Value.ofOption .str (some id)).truthy = true := bne_iff_ne.mpr empty
      rw [kept, if_pos counts]
      rfl

theorem id?_eq (stamped : r.stamp = .ofOption .str stamp) :
    r.id? (bound.map .str) = (lineId? stamp bound).map .str := by
  rw [id?, stamped, stamp_or_bound, lineId?]
  cases (stamp.filter (· ≠ "")).or bound with
  | none => rfl
  | some id =>
    have shown : ((Value.str id).truthy && !(Value.str id).same (.str noId)) =
        decide (id ≠ "" ∧ id ≠ noId) := by
      rw [truthy_str, Value.same_str, Bool.decide_and, decide_not, decide_not]
      rfl
    simp only [Value.ofOption, shown, Option.filter_some]
    split <;> rfl

theorem knownEntries_eq (stamped : r.stamp = .ofOption .str stamp) :
    r.knownEntries time message (bound.map .str) =
      described time r message (lineId? stamp bound) := by
  rw [knownEntries, id?_eq stamped, described]
  cases lineId? stamp bound with
  | none => rfl
  | some id => rfl

theorem stringKeyed_described (time : String) (r : LogRecord) (message : String)
    (id : Option String) : (described time r message id).StringKeyed := by
  constructor
  · cases id <;> simp [described, Entries.keys, Value.str]
  · cases id <;> simp [described, Entries.keys, Value.str]

/-- What a record tells besides its fields are texts, or the number of a level. -/
theorem document_described (leveled : ∃ given, RecordLevel.ofValue given = .ok r.level)
    (time message : String) (id : Option String) :
    ∀ entry ∈ described time r message id, Document entry.2 := by
  obtain ⟨given, made⟩ := leveled
  have text : ∀ s, Document (.str s) := .text
  have title : Document r.level.title := by
    rcases RecordLevel.title_cases made with ⟨s, spelled⟩ | ⟨n, word, spelled⟩
    · rw [spelled]
      exact text s
    · rw [spelled]
      exact .int word
  cases id with
  | none => simp [described, text, title]
  | some id => simp [described, text, title]

/-- The object of a record without a failure: what it tells, and its fields over that. -/
theorem entries_eq (time : String) (bound : Option String) (worded : r.message = .ok message)
    (stamped : r.stamp = .ofOption .str stamp)
    (carried : r.fields.getD (.map []) = .map fields) (quiet : r.failure = none) :
    r.entries time (bound.map .str) =
      .ok ((described time r message (lineId? stamp bound)).update fields) := by
  rw [entries, worded, carried, quiet]
  simp only [bind, Except.bind, Entries.merge, knownEntries_eq stamped]
  rfl

/-- The object of a record is a document if its fields are. -/
theorem document_update (leveled : ∃ given, RecordLevel.ofValue given = .ok r.level)
    (keyed : fields.StringKeyed) (documents : ∀ entry ∈ fields, Document entry.2)
    (time message : String) (id : Option String) :
    Document (.map ((described time r message id).update fields)) := by
  refine .map ((stringKeyed_described time r message id).update keyed) fun entry member => ?_
  rcases Entries.mem_update keyed member with own | ⟨field, inside, same⟩
  · exact document_described leveled time message id entry own
  · exact same ▸ documents field inside

/-- A codec of JSON writes a document in one line, which it reads as the document. -/
theorem exists_line {codec : Json.Codec} (standard : codec.Standard) {v : Value}
    (document : Document v) :
    ∃ line, codec.encode v = .ok line ∧ ('\n' ∉ line.toList ∧ '\r' ∉ line.toList) ∧
      codec.decode line = .ok v := by
  obtain ⟨line, written, spells⟩ := standard.encodes v document
  have unbroken : ∀ c, ¬ Json.Inline c → c ∉ line.toList := fun c control member =>
    control (spells.inline c member)
  exact ⟨line, written, ⟨unbroken _ (by decide), unbroken _ (by decide)⟩,
    standard.decodes v line document spells⟩

/-- A record without a failure is written in one line, which reads as the object of the record:
what it tells, and its fields over that. -/
theorem structured_decodes (codec : Json.Codec) (standard : codec.Standard) (time : String)
    (bound : Option String) (leveled : ∃ given, RecordLevel.ofValue given = .ok r.level)
    (worded : r.message = .ok message) (stamped : r.stamp = .ofOption .str stamp)
    (carried : r.fields.getD (.map []) = .map fields) (keyed : fields.StringKeyed)
    (documents : ∀ entry ∈ fields, Document entry.2) (quiet : r.failure = none) :
    ∃ (line : String) (object : Entries),
      r.structured codec time (bound.map .str) = .ok line ∧
      ('\n' ∉ line.toList ∧ '\r' ∉ line.toList) ∧
      codec.decode line = .ok (.map object) ∧
      object = (described time r message (lineId? stamp bound)).update fields ∧
      object.StringKeyed ∧
      ∀ key, object.get? (.str key) = (fields.get? (.str key)).or
        ((described time r message (lineId? stamp bound)).get? (.str key)) := by
  have own := stringKeyed_described time r message (lineId? stamp bound)
  have object := entries_eq time bound worded stamped carried quiet
  obtain ⟨line, written, unbroken, read⟩ := exists_line standard
    (document_update leveled keyed documents time message (lineId? stamp bound))
  refine ⟨line, _, ?_, unbroken, read, rfl, own.update keyed, Entries.get?_update own keyed⟩
  rw [structured, object]
  exact written

theorem structured_decodes_brokenSql :
    let fields : Entries :=
      [(.str "sql", .str "SELECT \"a\"\nFROM t;"), (.str "message", .list [.null])]
    let r := plain "querychain.builder" Level.debug "Line\r\nbreak" (some fields)
    let object : Entries := [(.str "timestamp", .str "now"), (.str "level", .str "DEBUG"),
      (.str "logger", .str "querychain.builder"), (.str "message", .list [.null]),
      (.str "correlation_id", .str "req-4"), (.str "sql", .str "SELECT \"a\"\nFROM t;")]
    ∃ line, r.structured Json.roomyCodec "now" (some (.str "req-4")) = .ok line ∧
      '\n' ∉ line.toList ∧ Json.roomyCodec.decode line = .ok (.map object) := by
  intro fields r object
  have keyed : fields.StringKeyed := ⟨by simp [fields, Entries.keys, Value.str],
    by simp [fields, Entries.keys, Value.str]⟩
  have documents : ∀ entry ∈ fields, Document entry.2 := by
    intro entry member
    simp only [fields, List.mem_cons, List.not_mem_nil, or_false] at member
    rcases member with rfl | rfl
    · exact .text _
    · exact .list fun v member => by rw [List.mem_singleton.mp member]; exact .null
  obtain ⟨line, found, written, ⟨unbroken, _⟩, decoded, rfl, _⟩ :=
    structured_decodes (r := r) Json.roomyCodec Json.standard_roomyCodec "now" (some "req-4")
      ⟨.int Level.debug, rfl⟩ rfl (show r.stamp = .ofOption .str none from rfl) rfl keyed documents
      rfl
  exact ⟨line, written, unbroken, decoded⟩

/-- An empty stamp, which is no id to show, does not keep the bound id out. -/
theorem structured_emptyStamp :
    let r : LogRecord := { plain "querychain" Level.info "x" none with stamp := .str "" }
    ∃ (line : String) (object : Entries),
      r.structured Json.roomyCodec "now" (some (.str "req-9")) = .ok line ∧
      Json.roomyCodec.decode line = .ok (.map object) ∧
      object.get? (.str "correlation_id") = some (.str "req-9") ∧
      ¬ ∃ id ∈ (some "").or (some "req-9"), id ≠ "" ∧ id ≠ noId := by
  intro r
  have leveled : ∃ given, RecordLevel.ofValue given = .ok r.level := ⟨.int Level.info, rfl⟩
  have effective : lineId? (some "") (some "req-9") = some "req-9" := by decide
  have object := entries_eq "now" (some "req-9") (show r.message = .ok "x" from rfl)
    (show r.stamp = .ofOption .str (some "") from rfl) rfl rfl
  obtain ⟨line, written, _, read⟩ := exists_line Json.standard_roomyCodec
    (document_update leveled .nil nofun "now" "x" (some "req-9"))
  rw [effective] at object
  refine ⟨line, _, ?_, read, rfl, by simp⟩
  rw [structured]
  exact (congrArg (·.bind (Json.roomyCodec.encode <| .map ·)) object).trans written

end LogRecord

end SqlBuilder
