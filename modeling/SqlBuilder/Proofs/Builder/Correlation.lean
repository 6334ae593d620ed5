import SqlBuilder.Proofs.Builder.Sending

set_option autoImplicit false

namespace SqlBuilder

/-- The id can be told from the mark of a record that has none. -/
structure IsId (id : Value) : Prop where
  truthy : id.truthy = true
  marked : id.same (.str LogRecord.noId) = false

theorem IsId.stampFor {id : Value} (isId : IsId id) : LogRecord.stampFor (some id) = id := by
  rw [LogRecord.stampFor, if_pos isId.truthy]

/-- A string is an id unless it is empty or the mark itself. -/
theorem isId_str_iff {id : String} : IsId (.str id) ↔ id ≠ "" ∧ id ≠ LogRecord.noId := by
  have truthy : (Value.str id).truthy = (id != "") := rfl
  have marked : (Value.str id).same (.str LogRecord.noId) = (id == LogRecord.noId) := by
    simp only [Value.str, Value.same]
    rfl
  constructor
  · rintro ⟨full, unmarked⟩
    rw [truthy] at full
    rw [marked] at unmarked
    exact ⟨bne_iff_ne.mp full, beq_eq_false_iff_ne.mp unmarked⟩
  · rintro ⟨full, unmarked⟩
    refine ⟨?_, ?_⟩
    · rw [truthy]
      exact bne_iff_ne.mpr full
    · rw [marked]
      exact beq_eq_false_iff_ne.mpr unmarked

theorem not_isId_noId : ¬ IsId (.str LogRecord.noId) := fun isId =>
  (isId_str_iff.mp isId).2 rfl

namespace Session

variable {id : Value} {s t : Session}

/-- What was sent and logged from `s` to `t` carries the id. -/
structure Carries (id : Value) (s t : Session) : Prop where
  queries : ∃ asked, t.queries = s.queries ++ asked ∧ ∀ q ∈ asked, q.id = some id
  records : ∃ logged, t.records = s.records ++ logged ∧ ∀ r ∈ logged, r.stamp = id

theorem Carries.refl (id : Value) (s : Session) : Carries id s s :=
  ⟨⟨[], (List.append_nil _).symm, nofun⟩, ⟨[], (List.append_nil _).symm, nofun⟩⟩

theorem Scoped.carries {asked : List (Value × Value)} (call : Scoped asked s t)
    (isId : IsId s.inner) : Carries s.inner s t := by
  obtain ⟨u, inside, rfl⟩ := call
  obtain ⟨logged, recorded, stamped⟩ := inside.records
  refine ⟨⟨_, inside.queries, fun q member => ?_⟩, ⟨logged, recorded, fun r member => ?_⟩⟩
  · obtain ⟨_, _, rfl⟩ := List.mem_map.mp member
    rfl
  · rw [stamped r member, isId.stampFor]

theorem isId_inner (supplied : ∀ n, IsId (.str (s.supply n)))
    (enclosing : ∀ id, s.correlation.bound = some id → IsId id) : IsId s.inner := by
  rw [inner]
  cases bound : s.correlation.bound with
  | none => exact supplied _
  | some id => exact enclosing id bound

/-- One more record keeps to the id exactly when it is stamped with it. -/
theorem carries_log_iff (before : Carries id s t) (logger : String) (level : Level)
    (message : String) (fields : Option Entries) :
    Carries id s (t.log logger level message fields) ↔
      LogRecord.stampFor t.correlation.bound = id := by
  obtain ⟨logged, recorded, stamped⟩ := before.records
  have last : ∃ r, r.stamp = LogRecord.stampFor t.correlation.bound ∧
      (t.log logger level message fields).records = s.records ++ (logged ++ [r]) := by
    refine ⟨(LogRecord.plain (rootLogger ++ "." ++ logger) level message fields).stamped
      t.correlation.bound, rfl, ?_⟩
    rw [log, recorded, List.append_assoc]
  obtain ⟨r, stamp, all⟩ := last
  rw [← stamp]
  constructor
  · intro carries
    obtain ⟨others, same, alike⟩ := carries.records
    have members := List.append_cancel_left (same.symm.trans all)
    exact alike r (members ▸ List.mem_append_right _ (List.mem_singleton_self r))
  · intro alike
    refine ⟨before.queries, ⟨_, all, fun q member => ?_⟩⟩
    rcases List.mem_append.mp member with early | late
    · exact stamped q early
    · rw [List.mem_singleton.mp late, alike]

end Session

namespace Builder

open Session (Carries)

/-- The operation replies with a page. -/
def Reads (b : Builder) (operation : Operation) : Prop :=
  ∃ p, b.reply operation = .ok (.page p)

/-- Inside its scope a call sends and logs under one id, that of the scope around it or else a fresh
one; behind the scope only a page that was read is logged. All of it is under the one id exactly
when a scope is around the call or no page is read. -/
theorem carries_of_call (b : Builder) (operation : Operation)
    (opens : operation.opensScope = true) (supplied : ∀ n, IsId (.str (b.session.supply n)))
    (enclosing : ∀ id, b.session.correlation.bound = some id → IsId id) :
    IsId b.session.inner ∧
      (∃ t, Carries b.session.inner b.session t ∧
        t.correlation.bound = b.session.correlation.bound ∧
        (b.next operation).session = concluded (b.reply operation) t) ∧
      (Carries b.session.inner b.session (b.next operation).session ↔
        b.session.correlation.bound ≠ none ∨ ¬ b.Reads operation) := by
  have isId := Session.isId_inner supplied enclosing
  have call : ∃ t, Carries b.session.inner b.session t ∧
      t.correlation.bound = b.session.correlation.bound ∧
      (b.next operation).session = concluded (b.reply operation) t := by
    by_cases starts : b.Starts operation
    · obtain ⟨asked, t, inside, closed⟩ := scoped_next starts
      exact ⟨t, inside.carries isId, inside.bound, closed⟩
    · obtain ⟨e, failed⟩ := run_of_not_starts opens starts
      refine ⟨b.session, .refl _ _, rfl, ?_⟩
      rw [next, stateAfter, reply, failed]
      rfl
  refine ⟨isId, call, ?_⟩
  obtain ⟨t, carries, bound, closed⟩ := call
  rw [closed, Reads]
  by_cases reads : ∃ p, b.reply operation = .ok (.page p)
  · obtain ⟨p, replied⟩ := reads
    rw [replied, concluded, pageRead, Session.carries_log_iff carries, bound]
    -- Behind the scope the stamp is the id around the call, or the mark for none.
    cases around : b.session.correlation.bound with
    | none =>
      have marked : LogRecord.stampFor none ≠ b.session.inner := by
        intro same
        rw [← same] at isId
        exact not_isId_noId isId
      simp [marked]
    | some id =>
      rw [Session.inner_of_bound around, (enclosing id around).stampFor]
      simp
  · have silent : concluded (b.reply operation) t = t := by
      unfold concluded
      split
      · next p replied => exact absurd ⟨p, replied⟩ reads
      · rfl
    rw [silent]
    exact iff_of_true carries (.inr reads)

/-- A query of users, where a scope may be open, on a connection that counts three rows. -/
def pagingUsers (bound : Option Value) : Builder :=
  after ⟨.empty .select,
    { Session.start ⟨"main", .str "mysql", .callable,
        [.returns (.list [.map [(.str "count", .int 3)]]), .returns (.list [])]⟩
        .standard (fun n => "#" ++ toString n) .queries with correlation := ⟨bound, 0⟩ }⟩
    [.call (.select (.table (.str "users")))]

theorem isId_supply_pagingUsers (bound : Option Value) (n : Nat) :
    IsId (.str ((pagingUsers bound).session.supply n)) := by
  have supply : (pagingUsers bound).session.supply n = "#" ++ toString n := rfl
  rw [supply, isId_str_iff, ← String.toList_inj.ne, ← String.toList_inj.ne, String.toList_append]
  exact ⟨nofun, fun same => absurd (List.head_eq_of_cons_eq same) (by decide)⟩

theorem carries_of_call_pagingUsers :
    Carries (.str "req") (pagingUsers (some (.str "req"))).session
        ((pagingUsers (some (.str "req"))).next (.paginate (.int 1) (.int 10))).session ∧
      IsId (pagingUsers none).session.inner := by
  constructor
  · have around : ∀ id, some (Value.str "req") = some id → IsId id := by
      rintro id ⟨⟩
      exact isId_str_iff.mpr ⟨by decide, by decide⟩
    exact (carries_of_call (pagingUsers (some (.str "req"))) (.paginate (.int 1) (.int 10)) rfl
      (isId_supply_pagingUsers _) around).2.2.mpr (.inl nofun)
  · exact (carries_of_call (pagingUsers none) (.paginate (.int 1) (.int 10)) rfl
      (isId_supply_pagingUsers _) nofun).1

theorem stamps_pagingUsers :
    ((pagingUsers none).next (.paginate (.int 1) (.int 10))).session.records.map (·.stamp) =
      [.str "#0", .str "#0", .str "-"] := rfl

/-- Where nothing is bound, the records of one page do not carry one id: the last one has none. -/
theorem not_carries_pagingUsers :
    (∀ n, IsId (.str ((pagingUsers none).session.supply n))) ∧
      (pagingUsers none).session.correlation.bound = none ∧
      (pagingUsers none).Reads (.paginate (.int 1) (.int 10)) ∧
      ¬ ∃ id, Carries id (pagingUsers none).session
        ((pagingUsers none).next (.paginate (.int 1) (.int 10))).session := by
  refine ⟨isId_supply_pagingUsers none, rfl, ⟨_, rfl⟩, ?_⟩
  rintro ⟨id, carries⟩
  obtain ⟨logged, recorded, stamped⟩ := carries.records
  have none_before : (pagingUsers none).session.records = [] := rfl
  have stamps := stamps_pagingUsers
  rw [recorded, none_before, List.nil_append] at stamps
  have all : ∀ stamp ∈ [Value.str "#0", .str "#0", .str "-"], stamp = id := by
    intro stamp member
    rw [← stamps] at member
    obtain ⟨r, there, rfl⟩ := List.mem_map.mp member
    exact stamped r there
  have same : Value.str "#0" = .str LogRecord.noId :=
    (all _ (.head _)).trans (all _ (.tail _ (.tail _ (.head _)))).symm
  exact not_isId_noId (same ▸ isId_str_iff.mpr ⟨by decide, by decide⟩)

end Builder

end SqlBuilder
