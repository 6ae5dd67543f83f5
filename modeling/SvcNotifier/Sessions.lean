import SvcNotifier.Consistency

/-!
# What open transactions still owe

Every postcondition that the operations ensure under `txContract` is carried by each session
through its steps, whatever the other sessions do meanwhile: only its own statements change
what it holds. A fan-out besides places every dedup key its INSERT proposes: by the time the
INSERT returns, each key is in a row the session inserted or in one that had been committed.
-/

namespace SvcNotifier

open Library Program

namespace Store

variable {store after : Store} {sid : Nat} {session : Session}

@[simp] theorem heldBy_put (store : Store) (sid other : Nat) (session : Session) :
    (store.put sid session).heldBy other = store.heldBy other := rfl

/-- A step of one session leaves the others where they were. -/
theorem put_others (store : Store) {sid other : Nat} (apart : other ≠ sid) (session : Session) :
    (store.put sid session).sessions other = store.sessions other ∧
      (store.put sid session).heldBy other = store.heldBy other :=
  ⟨put_sessions_other store apart session, rfl⟩

/-- A session holds what it has just written. -/
@[simp] theorem heldBy_lock_self (store : Store) (sid : Nat) (writes : List Write) :
    (store.lock sid writes).heldBy sid = store.heldBy sid ++ writes := by
  simp [heldBy, lock, List.filter_map, Function.comp_def]

/-- Writing changes nothing that other sessions hold. -/
theorem heldBy_lock_other (store : Store) {sid other : Nat} (apart : other ≠ sid)
    (writes : List Write) : (store.lock sid writes).heldBy other = store.heldBy other := by
  simp [heldBy, lock, List.filter_map, Function.comp_def, apart.symm]

/-- Closing a session changes nothing that other sessions hold. -/
theorem heldBy_close (store : Store) {sid other : Nat} (apart : other ≠ sid)
    (operation : Operation) (outcome : Outcome) :
    (store.close sid operation outcome).heldBy other = store.heldBy other := by
  simp only [heldBy, close, List.filter_filter]
  congr 2
  funext lock
  by_cases own : lock.1 = other
  · simp [own, apart]
  · simp [own]

/-- A session that is not open holds nothing. -/
theorem Consistent.heldBy_idle (consistent : store.Consistent) (idle : store.sessions sid = none) :
    store.heldBy sid = [] := by
  simp only [heldBy, List.map_eq_nil_iff, List.filter_eq_nil_iff, beq_iff_eq]
  rintro lock member rfl
  exact consistent.owned lock member idle

/-! ## Postconditions -/

/-- A postcondition of operations, which may speak of the start of the transaction. -/
abbrev Post := DateTime → Operation → Ending → Progress → Prop

/-- What is left of a session's program ensures the postcondition, from what the session has
done. -/
def Verified (post : Post) (store : Store) (sid : Nat) (session : Session) : Prop :=
  match session.stage with
  | .ready body => Ensures (txContract session.now) (post session.now session.operation) body
      ⟨session.executed, store.heldBy sid, session.queued⟩
  | .scanning statement next _ targets => statement.isWrite = true ∧
      (∀ write ∈ store.heldBy sid, statement.Permits session.now write) ∧
      (∀ target ∈ targets,
        target ∈ statement.candidates session.now ∨ statement.selects target = true) ∧
      ∀ snapshot writes, statement.Makes session.now writes →
        Ensures (txContract session.now) (post session.now session.operation)
          (next (statement.reply snapshot writes))
          ⟨session.executed ++ [statement], writes,
            queueSignals session.queued statement.payloads⟩

/-- Every open session owes only what its program ensures. -/
def AllVerified (post : Post) (store : Store) : Prop :=
  ∀ sid session, store.sessions sid = some session → Verified post store sid session

/-- A session's standing depends only on what it holds itself. -/
theorem Verified.congr {post : Post} (verified : Verified post store sid session)
    (same : after.heldBy sid = store.heldBy sid) : Verified post after sid session := by
  unfold Verified at *
  rw [same]
  exact verified

/-- A step of one session leaves the others as they stood. -/
theorem AllVerified.update {post : Post} (verified : AllVerified post store) (sid : Nat)
    (others : ∀ other, other ≠ sid →
      after.sessions other = store.sessions other ∧ after.heldBy other = store.heldBy other)
    (own : ∀ session, after.sessions sid = some session → Verified post after sid session) :
    AllVerified post after := by
  intro other session found
  by_cases same : other = sid
  · subst same
    exact own session found
  · obtain ⟨sessions, held⟩ := others other same
    exact (verified other session (sessions ▸ found)).congr held

/-- The targets of a writing statement are rows it proposes or rows it selects. -/
theorem targets_aimed (statement : Statement) (now : DateTime) (snapshot : List Row) :
    ∀ target ∈ statement.targets now snapshot,
      target ∈ statement.candidates now ∨ statement.selects target = true := by
  intro target member
  cases statement with
  | insert ids sourceEventId recipientIds template payload link => exact Or.inl member
  | _ => exact Or.inr (List.mem_filter.mp member).2

/-- What a visit writes has the shape of its statement. -/
theorem visited_permitted {statement : Statement} {target : Row} {writes : List Write}
    (aimed : target ∈ statement.candidates session.now ∨ statement.selects target = true)
    (free : store.blocked sid target = false)
    (written : store.writesAt sid session statement target = some writes) :
    ∀ write ∈ writes, statement.Permits session.now write := by
  intro write member
  rcases visited_cases free written with rfl | ⟨rfl, -, -, isWrite, never⟩ |
    ⟨current, -, -, selected, -, -, rfl⟩
  · cases member
  · rw [List.mem_singleton] at member
    have proposed : target ∈ statement.candidates session.now :=
      aimed.resolve_right (by simp [never])
    cases statement with
    | insert ids sourceEventId recipientIds template payload link =>
      exact ⟨target, proposed, member⟩
    | _ => simp [Statement.candidates] at proposed
  · rw [List.mem_singleton] at member
    cases statement with
    | insert ids sourceEventId recipientIds template payload link =>
      simp [Statement.selects] at selected
    | _ => exact ⟨current, selected, member⟩

/-- Every step keeps what the open sessions owe. -/
theorem verified_step {post : Post}
    (ensured : ∀ now operation,
      Ensures (txContract now) (post now operation) operation.body Progress.start)
    {action : Action} (consistent : store.Consistent) (verified : AllVerified post store)
    (stepped : store.step action = some after) : AllVerified post after := by
  cases moves_of_step stepped with
  | @begin sid operation now idle unused =>
    refine verified.update sid (fun other apart => put_others store apart _) fun session found => ?_
    obtain rfl : Session.start operation now = session := by simpa [put] using found
    simp only [Verified, Session.start, heldBy_put, consistent.heldBy_idle idle]
    exact ensured now operation
  | @reply sid session statement next found at_ reads =>
    have owes := verified sid session found
    simp only [Verified, at_] at owes
    refine verified.update sid (fun other apart => put_others store apart _) fun later now => ?_
    obtain rfl : session.resume statement _ = later := by simpa [put] using now
    refine owes.2 _ _ ⟨store.rows.filter (store.sees session), [],
      ⟨by simp, List.nodup_nil⟩, rfl, ?_⟩
    simp only [List.append_nil]
    rfl
  | @scan sid session statement next found at_ writes =>
    have owes := verified sid session found
    simp only [Verified, at_] at owes
    have clean : store.heldBy sid = [] := owes.1 writes
    refine verified.update sid (fun other apart => put_others store apart _) fun later now => ?_
    obtain rfl : _ = later := by simpa [put] using now
    refine ⟨writes, ?_, targets_aimed _ _ _, ?_⟩
    · intro write member
      have none : write ∈ store.heldBy sid := member
      simp [clean] at none
    · intro snapshot made makes
      refine owes.2 _ _ ⟨snapshot, made, makes, rfl, ?_⟩
      rw [clean, List.nil_append]
  | @visit sid index session statement next snapshot targets target writes found at_ aimed free
      written =>
    have owes := verified sid session found
    simp only [Verified, at_] at owes
    obtain ⟨writing, permitted, targeted, rest⟩ := owes
    have there : target ∈ targets := List.mem_of_getElem? aimed
    refine verified.update sid (fun other apart => ⟨?_, ?_⟩) fun later now => ?_
    · exact (put_others (store.lock sid writes) apart _).1
    · exact heldBy_lock_other store apart writes
    · obtain rfl : _ = later := by simpa [put] using now
      refine ⟨writing, ?_, fun other member => targeted other (List.mem_of_mem_eraseIdx member),
        rest⟩
      intro write member
      rw [heldBy_put, heldBy_lock_self, List.mem_append] at member
      rcases member with old | new
      · exact permitted write old
      · exact visited_permitted (targeted target there) free written write new
  | @finish sid session statement next snapshot found at_ =>
    have owes := verified sid session found
    simp only [Verified, at_] at owes
    obtain ⟨writing, permitted, -, rest⟩ := owes
    refine verified.update sid (fun other apart => put_others store apart _) fun later now => ?_
    obtain rfl : session.resume statement _ = later := by simpa [put] using now
    exact rest snapshot (store.heldBy sid) ⟨permitted, (consistent.lawful sid).ids⟩
  | @commit sid session answer found at_ =>
    refine verified.update sid (fun other apart => ⟨?_, ?_⟩) fun later now => ?_
    · simp [close, publish, apart]
    · exact heldBy_close (store.publish sid session.queued) apart session.operation
        (.committed answer)
    · simp [close] at now
  | @rollback sid session found =>
    refine verified.update sid (fun other apart => ⟨?_, ?_⟩) fun later now => ?_
    · simp [close, apart]
    · exact heldBy_close store apart session.operation .rolledBack
    · simp [close] at now

/-- A transaction at its commit has met its postcondition. -/
theorem AllVerified.at_commit {post : Post} {answer : Except EdgeError Answer}
    (verified : AllVerified post store) (found : store.sessions sid = some session)
    (at_ : session.stage = .ready (.done (.commit answer))) :
    post session.now session.operation (.commit answer)
      ⟨session.executed, store.heldBy sid, session.queued⟩ := by
  have owes := verified sid session found
  simp only [Verified, at_] at owes
  exact owes

/-! ## The keys of a fan-out -/

/-- A row under the dedup key has been committed at some time. -/
def Created (store : Store) (key : Uuid × Uuid) : Prop :=
  ∃ row, .insert row ∈ store.history ∧ row.key = key

/-- A row under the dedup key has been committed, or the session has inserted it. -/
def Placed (store : Store) (sid : Nat) (key : Uuid × Uuid) : Prop :=
  store.Created key ∨ ∃ row, .insert row ∈ store.heldBy sid ∧ row.key = key

/-- Every row a session's statements proposed is placed, up to the targets still to visit. -/
def Covered (store : Store) (sid : Nat) (session : Session) : Prop :=
  (∀ statement ∈ session.executed, ∀ row ∈ statement.candidates session.now,
    store.Placed sid row.key) ∧
  match session.stage with
  | .ready _ => True
  | .scanning statement _ _ targets => ∀ row ∈ statement.candidates session.now,
      row ∈ targets ∨ store.Placed sid row.key

/-- What is placed stays placed while the history grows and the session keeps its locks. -/
theorem Placed.mono {key : Uuid × Uuid} (placed : store.Placed sid key)
    (history : store.history ⊆ after.history) (held : store.heldBy sid ⊆ after.heldBy sid) :
    after.Placed sid key := by
  rcases placed with ⟨row, inserted, same⟩ | ⟨row, inserted, same⟩
  · exact Or.inl ⟨row, history inserted, same⟩
  · exact Or.inr ⟨row, held inserted, same⟩

/-- Coverage is kept in the same way. -/
theorem Covered.mono (covered : store.Covered sid session) (history : store.history ⊆ after.history)
    (held : store.heldBy sid ⊆ after.heldBy sid) : after.Covered sid session := by
  refine ⟨fun statement ran row proposed =>
    (covered.1 statement ran row proposed).mono history held,
    ?_⟩
  have rest := covered.2
  split
  · trivial
  · rename_i statement next snapshot targets at_
    simp only [at_] at rest
    exact fun row proposed => (rest row proposed).imp_right fun placed => placed.mono history held

/-- Visiting a proposed row places its key: the INSERT inserts it, or a row that conflicts with
it is committed or its own. -/
theorem placed_of_visit {statement : Statement} {target : Row} {writes : List Write}
    (consistent : store.Consistent)
    (permitted : ∀ write ∈ store.heldBy sid, statement.Permits session.now write)
    (proposed : target ∈ statement.candidates session.now)
    (written : store.writesAt sid session statement target = some writes) :
    (store.lock sid writes).Placed sid target.key := by
  cases statement with
  | insert ids sourceEventId recipientIds template payload link =>
    simp only [writesAt] at written
    split at written
    · rename_i conflict
      obtain rfl := Option.some.inj written
      simp only [conflicts, Bool.or_eq_true, List.any_eq_true, beq_iff_eq] at conflict
      rcases conflict with ⟨row, member, same⟩ | ⟨write, member, same⟩
      · obtain ⟨first, inserted, content⟩ := consistent.born row member
        refine Or.inl ⟨first, inserted, ?_⟩
        rw [← same, content]
        rfl
      · obtain ⟨row, -, rfl⟩ := permitted write member
        refine Or.inr ⟨row, ?_, same⟩
        rw [heldBy_lock_self]
        exact List.mem_append_left _ member
    · split at written
      · contradiction
      · obtain rfl := Option.some.inj written
        refine Or.inr ⟨target, ?_, rfl⟩
        rw [heldBy_lock_self]
        exact List.mem_append_right _ List.mem_cons_self
  | _ => simp [Statement.candidates] at proposed

/-- A statement that does not write proposes no row. -/
theorem candidates_of_reads {statement : Statement} {now : DateTime}
    (reads : statement.isWrite = false) : statement.candidates now = [] := by
  cases statement with
  | insert ids sourceEventId recipientIds template payload link => contradiction
  | _ => rfl

/-- Every open session is covered. -/
def AllCovered (store : Store) : Prop :=
  ∀ sid session, store.sessions sid = some session → store.Covered sid session

/-- The history only grows. -/
theorem history_grows {action : Action} (stepped : store.step action = some after) :
    store.history <+: after.history := by
  cases moves_of_step stepped with
  | commit found at_ => exact List.prefix_append _ _
  | _ => exact List.prefix_rfl

/-- What has been announced stays announced. -/
theorem log_grows {action : Action} (stepped : store.step action = some after) :
    store.log <+: after.log := by
  cases moves_of_step stepped with
  | commit found at_ => exact List.prefix_append _ _
  | _ => exact List.prefix_rfl

/-- The locks of a session survive the steps of others. -/
theorem heldBy_of_other {action : Action} {other : Nat}
    (stepped : store.step action = some after)
    (kept : after.sessions other = store.sessions other) (opened : store.sessions other ≠ none) :
    store.heldBy other ⊆ after.heldBy other := by
  have close : ∀ (sid : Nat) (operation : Operation) (outcome : Outcome),
      (store.close sid operation outcome).sessions other = store.sessions other →
      store.heldBy other ⊆ (store.close sid operation outcome).heldBy other := by
    intro sid operation outcome same
    have apart : other ≠ sid := by
      rintro rfl
      simp only [Store.close, Function.update_self] at same
      exact opened same.symm
    rw [heldBy_close store apart]
    exact List.Subset.refl _
  cases moves_of_step stepped with
  | @visit sid index session statement next snapshot targets target writes found at_ aimed free
      written =>
    by_cases apart : other = sid
    · subst apart
      rw [heldBy_put, heldBy_lock_self]
      exact List.subset_append_left _ _
    · rw [heldBy_put, heldBy_lock_other store apart]
      exact List.Subset.refl _
  | @commit sid session answer found at_ =>
    exact close sid session.operation (.committed answer) kept
  | rollback found => exact close _ _ _ kept
  | _ => exact List.Subset.refl _

/-- A session that a step has changed is the one that took it. -/
theorem acted_of_changed {sessions : Nat → Option Session} {sid acted : Nat}
    {session later : Session}
    (changed : Function.update sessions acted (some later) sid ≠ sessions sid)
    (now : Function.update sessions acted (some later) sid = some session) :
    sid = acted ∧ later = session := by
  by_cases same : sid = acted
  · subst same
    rw [Function.update_self] at now
    exact ⟨rfl, Option.some.inj now⟩
  · exact absurd (Function.update_of_ne same _ _) changed

/-- Every step keeps the sessions covered. -/
theorem covered_step {post : Post} {action : Action} (consistent : store.Consistent)
    (verified : AllVerified post store) (covered : store.AllCovered)
    (stepped : store.step action = some after) : after.AllCovered := by
  intro sid session found
  have grown := (history_grows stepped).subset
  by_cases kept : after.sessions sid = store.sessions sid
  · exact (covered sid session (kept ▸ found)).mono grown
      (heldBy_of_other stepped kept (kept ▸ by simp [found]))
  -- The session took the step itself.
  cases moves_of_step stepped with
  | begin idle unused =>
    obtain ⟨rfl, rfl⟩ := acted_of_changed kept found
    exact ⟨by simp [Session.start], trivial⟩
  | reply was at_ reads =>
    obtain ⟨rfl, rfl⟩ := acted_of_changed kept found
    have before := covered _ _ was
    refine ⟨fun statement ran row proposed => ?_, trivial⟩
    rcases List.mem_append.mp ran with old | new
    · exact before.1 statement old row proposed
    · rw [List.mem_singleton] at new
      subst new
      simp [candidates_of_reads reads] at proposed
  | @scan acted before statement next was at_ writes =>
    obtain ⟨rfl, rfl⟩ := acted_of_changed kept found
    refine ⟨(covered _ _ was).1, fun row proposed => Or.inl ?_⟩
    cases statement with
    | insert ids sourceEventId recipientIds template payload link => exact proposed
    | _ => simp [Statement.candidates] at proposed
  | @visit acted index before statement next snapshot targets target writes was at_ aimed free
      written =>
    obtain ⟨rfl, rfl⟩ := acted_of_changed kept found
    have earlier := covered _ _ was
    have owes := verified _ _ was
    simp only [Covered, at_] at earlier
    simp only [Verified, at_] at owes
    have held : ∀ key, store.Placed sid key →
        (store.lock sid writes).Placed sid key :=
      fun key placed => placed.mono (List.Subset.refl _) (by
        rw [heldBy_lock_self]
        exact List.subset_append_left _ _)
    refine ⟨fun statement ran row proposed => held _ (earlier.1 statement ran row proposed),
      fun row proposed => ?_⟩
    rcases earlier.2 row proposed with waiting | placed
    · by_cases visited : row = target
      · subst visited
        exact Or.inr (placed_of_visit consistent owes.2.1 proposed written)
      · refine Or.inl ?_
        have split : targets.Perm (target :: targets.eraseIdx index) := by
          obtain ⟨inside, at_index⟩ := List.getElem?_eq_some_iff.mp aimed
          exact at_index ▸ (List.getElem_cons_eraseIdx_perm inside).symm
        exact (List.mem_cons.mp (split.mem_iff.mp waiting)).resolve_left visited
    · exact Or.inr (held _ placed)
  | finish was at_ =>
    obtain ⟨rfl, rfl⟩ := acted_of_changed kept found
    have earlier := covered _ _ was
    simp only [Covered, at_] at earlier
    refine ⟨fun statement ran row proposed => ?_, trivial⟩
    rcases List.mem_append.mp ran with old | new
    · exact earlier.1 statement old row proposed
    · rw [List.mem_singleton] at new
      subst new
      exact (earlier.2 row proposed).resolve_left (by simp)
  | @commit acted before answer was at_ =>
    by_cases same : sid = acted
    · simp [close, same] at found
    · exact absurd (by simp [close, publish, same]) kept
  | @rollback acted before was =>
    by_cases same : sid = acted
    · simp [close, same] at found
    · exact absurd (by simp [close, same]) kept

end Store

end SvcNotifier
