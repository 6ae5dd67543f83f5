import SvcNotifier.Sessions

/-!
# What a commit does

The invariants of the database are put together and kept over whole runs. From them follows
the one thing every later result uses of a step: either it leaves the table, the log and the
history alone, or it is a commit, which applies writes that are lawful on the table and
appends signals that announce exactly them. What a commit does to the table is then told
from the table before and the table after.
-/

namespace SvcNotifier

open Library Program

namespace Store

variable {store after : Store} {initial : List Row}

/-- Every recipient of a committed fan-out has had a row committed under its dedup key. -/
def Delivered (store : Store) : Prop :=
  ∀ sid nowV7 command answer,
    store.outcomes sid = some (.fanOut nowV7 command, .committed answer) →
    ∀ recipientId ∈ command.recipientIds, store.Created (command.sourceEventId, recipientId)

/-- A write was made by the statement of a committed operation. -/
def MadeBy (store : Store) (write : Write) (sid : Nat) (operation : Operation) : Prop :=
  ∃ answer now, store.outcomes sid = some (operation, .committed answer) ∧
    ∃ statement ∈ operation.writing, statement.Permits now write

/-- The writes committed since the start are what the log states, and each was made by a
committed operation. -/
def Attributed (initial : List Row) (store : Store) : Prop :=
  ∃ made, store.history = initial.map .insert ++ made ∧
    store.log.flatMap NotificationSignal.facts = made.map Write.fact ∧
    ∀ write ∈ made, ∃ sid operation, store.MadeBy write sid operation

/-- What holds of every reachable database. -/
structure Sound (initial : List Row) (store : Store) : Prop where
  /-- The constraints hold, and the locks go together. -/
  consistent : store.Consistent
  /-- What a session has written is its operation's, and is announced when it commits. -/
  verified : AllVerified Settled store
  /-- Every row that a session has proposed is placed, or is yet to be visited. -/
  covered : store.AllCovered
  /-- Every recipient of a committed fan-out has had a row committed. -/
  delivered : store.Delivered
  /-- The log states what has been written since the start, and who has written it. -/
  attributed : Attributed initial store
  /-- A session that is open has not ended. -/
  pending : ∀ sid, store.sessions sid ≠ none → store.outcomes sid = none

/-- The database just started is sound. -/
theorem start_sound (table : Notifications) : Sound table.rows (start table.rows) where
  consistent := start_consistent table
  verified := by simp [AllVerified, start]
  covered := by simp [AllCovered, start]
  delivered := by simp [Delivered, start]
  attributed := ⟨[], by simp [start], rfl, by simp⟩
  pending := by simp [start]

/-- An outcome once recorded stays. -/
theorem outcomes_kept {action : Action} {sid : Nat} {ended : Operation × Outcome}
    (sound : Sound initial store) (stepped : store.step action = some after)
    (was : store.outcomes sid = some ended) : after.outcomes sid = some ended := by
  obtain ⟨acted, turn, others⟩ := turn_of_step stepped
  have closed : store.sessions sid = none := by
    by_contra opened
    simp [sound.pending sid opened] at was
  by_cases here : sid = acted
  · subst here
    cases turn with
    | opens asked idle unused => simp [unused] at was
    | goesOn found => simp [closed] at found
    | commits asked found => simp [closed] at found
    | rollsBack asked found => simp [closed] at found
  · rw [(others sid here).2, was]

/-- A new outcome is the one of the session that commits or is rolled back. -/
theorem outcome_cases {action : Action} {sid : Nat} {operation : Operation} {outcome : Outcome}
    (stepped : store.step action = some after)
    (ended : after.outcomes sid = some (operation, outcome)) :
    store.outcomes sid = some (operation, outcome) ∨
      ∃ session, store.sessions sid = some session ∧ operation = session.operation ∧
        (action = .rollback sid ∧ outcome = .rolledBack ∨
          action = .commit sid ∧ ∃ answer, outcome = .committed answer ∧
            session.stage = .ready (.done (.commit answer))) := by
  obtain ⟨acted, turn, others⟩ := turn_of_step stepped
  by_cases here : sid = acted
  · subst here
    cases turn with
    | opens asked idle unused found none_ => simp [none_] at ended
    | goesOn found _ _ _ _ kept => exact Or.inl (kept ▸ ended)
    | @commits session answer asked found at_ _ closed =>
      obtain ⟨rfl, rfl⟩ := Prod.mk.inj (Option.some.inj (closed.symm.trans ended))
      exact Or.inr ⟨session, found, rfl, Or.inr ⟨asked, answer, rfl, at_⟩⟩
    | @rollsBack session asked found _ closed =>
      obtain ⟨rfl, rfl⟩ := Prod.mk.inj (Option.some.inj (closed.symm.trans ended))
      exact Or.inr ⟨session, found, rfl, Or.inl ⟨asked, rfl⟩⟩
  · exact Or.inl ((others sid here).2 ▸ ended)

/-- A session that is open after a step has not ended. -/
theorem pending_step {action : Action} {sid : Nat} (sound : Sound initial store)
    (stepped : store.step action = some after) (opened : after.sessions sid ≠ none) :
    after.outcomes sid = none := by
  obtain ⟨acted, turn, others⟩ := turn_of_step stepped
  by_cases here : sid = acted
  · subst here
    cases turn with
    | opens asked idle unused found none_ => exact none_
    | goesOn found _ _ _ _ kept => exact kept.trans (sound.pending sid (by simp [found]))
    | commits asked found at_ left => exact absurd left opened
    | rollsBack asked found left => exact absurd left opened
  · rw [(others sid here).1] at opened
    exact (others sid here).2.trans (sound.pending sid opened)

/-- A key once created stays created. -/
theorem Created.mono {key : Uuid × Uuid} (created : store.Created key)
    (history : store.history ⊆ after.history) : after.Created key := by
  obtain ⟨row, inserted, same⟩ := created
  exact ⟨row, history inserted, same⟩

/-- The INSERT of a command proposes a row for each of its recipients. -/
theorem insertion_proposes (now : DateTime) (nowV7 : Nat → Uuid) (command : DeliverNotification)
    {recipientId : Uuid} (named : recipientId ∈ command.recipientIds) :
    ∃ row ∈ (Operation.insertion nowV7 command).candidates now,
      row.key = (command.sourceEventId, recipientId) := by
  obtain ⟨index, inside, rfl⟩ := List.mem_iff_getElem.mp named
  have paired : (nowV7 index, command.recipientIds[index]) ∈
      ((List.range command.recipientIds.length).map nowV7).zip command.recipientIds := by
    refine List.mem_iff_getElem.mpr ⟨index, by simpa using inside, ?_⟩
    simp
  exact ⟨_, List.mem_map_of_mem paired, rfl⟩

/-- A write once made by an operation stays so. -/
theorem MadeBy.kept {action : Action} {write : Write} {sid : Nat} {operation : Operation}
    (made : store.MadeBy write sid operation) (sound : Sound initial store)
    (stepped : store.step action = some after) : after.MadeBy write sid operation := by
  obtain ⟨answer, now, ended, statement, writing, permitted⟩ := made
  exact ⟨answer, now, outcomes_kept sound stepped ended, statement, writing, permitted⟩

/-- Every step keeps the writes attributed. -/
theorem attributed_step {action : Action} (sound : Sound initial store)
    (stepped : store.step action = some after) : Attributed initial after := by
  obtain ⟨made, history, log, by_⟩ := sound.attributed
  have kept : ∀ write ∈ made, ∃ sid operation, after.MadeBy write sid operation := by
    intro write member
    obtain ⟨sid, operation, made⟩ := by_ write member
    exact ⟨sid, operation, made.kept sound stepped⟩
  cases moves_of_step stepped with
  | @commit sid session answer found at_ =>
    have settled := sound.verified.at_commit found at_
    refine ⟨made ++ store.heldBy sid, ?_, ?_, ?_⟩
    · rw [← List.append_assoc, ← history]
      rfl
    · rw [List.map_append, ← log, ← settled.1.announces.facts, ← List.flatMap_append]
      rfl
    · intro write member
      rcases List.mem_append.mp member with old | new
      · exact kept write old
      · exact ⟨sid, session.operation, answer, session.now, by simp [close],
          settled.1.made write new⟩
  | begin idle unused => exact ⟨made, history, log, kept⟩
  | reply found at_ reads => exact ⟨made, history, log, kept⟩
  | scan found at_ writes => exact ⟨made, history, log, kept⟩
  | visit found at_ aimed free written => exact ⟨made, history, log, kept⟩
  | finish found at_ => exact ⟨made, history, log, kept⟩
  | rollback found => exact ⟨made, history, log, kept⟩

/-- Every step keeps the database sound. -/
theorem sound_step {action : Action} (sound : Sound initial store)
    (stepped : store.step action = some after) : Sound initial after := by
  have grown := (history_grows stepped).subset
  refine ⟨consistent_step sound.consistent stepped,
    verified_step operation_ensures sound.consistent sound.verified stepped,
    covered_step sound.consistent sound.verified sound.covered stepped, ?_, ?_, ?_⟩
  · intro sid nowV7 command answer ended recipientId named
    rcases outcome_cases stepped ended with old |
      ⟨session, found, isFanOut, ⟨-, rolled⟩ | ⟨rfl, answer', -, at_⟩⟩
    · exact (sound.delivered sid nowV7 command answer old recipientId named).mono grown
    · contradiction
    · -- The INSERT has run, so each proposed key is committed or inserted here.
      have settled := sound.verified.at_commit found at_
      have ran := settled.2 nowV7 command isFanOut.symm
      obtain ⟨row, proposed, onKey⟩ := insertion_proposes session.now nowV7 command named
      rcases (sound.covered sid session found).1 _ ran row proposed with created | ⟨new, held, same⟩
      · exact onKey ▸ created.mono grown
      · cases moves_of_step stepped with
        | commit _ _ => exact ⟨new, List.mem_append_right _ held, same.trans onKey⟩
  · exact attributed_step sound stepped
  · exact fun sid opened => pending_step sound stepped opened

/-- A database reached from a table by any run. -/
def Reachable (table : Notifications) (store : Store) : Prop :=
  Reaches step anyStep (start table.rows) store

/-- Every reachable database is sound. -/
theorem Reachable.sound {table : Notifications} (reached : Reachable table store) :
    Sound table.rows store :=
  Reaches.invariant reached (fun _ _ _ sound _ stepped => sound_step sound stepped)
    (start_sound table)

/-- A step that changes what is committed: lawful writes are applied and announced. -/
structure Applies (store : Store) (writes : List Write) (queued : List NotificationSignal)
    (after : Store) : Prop where
  /-- The writes may be applied together. -/
  lawful : Lawful store.rows writes
  /-- The signals announce them. -/
  announces : Announces writes queued
  /-- They are applied to the table. -/
  rows : after.rows = applyWrites store.rows writes
  /-- The signals are appended to the log. -/
  log : after.log = store.log ++ queued
  /-- The writes are recorded. -/
  history : after.history = store.history ++ writes
  /-- An inserted id is one that no committed write had used, and its row is unread. -/
  fresh : ∀ row, .insert row ∈ writes → row.id ∉ store.history.map Write.id ∧ row.readAt = none

/-- A step that applies nothing. -/
theorem applies_nothing (rows : after.rows = store.rows) (log : after.log = store.log)
    (history : after.history = store.history) : store.Applies [] [] after where
  lawful := ⟨List.nodup_nil, List.nodup_nil, by simp, by simp, by simp⟩
  announces := announces_nothing
  rows := rows
  log := log.trans (List.append_nil _).symm
  history := history.trans (List.append_nil _).symm
  fresh := by simp

/-- A row that a statement inserts is unread. -/
theorem unread_of_permits {statement : Statement} {now : DateTime} {row : Row}
    (permitted : statement.Permits now (.insert row)) : row.readAt = none := by
  cases statement with
  | insert ids sourceEventId recipientIds template payload link =>
    obtain ⟨proposed, member, same⟩ := permitted
    obtain rfl := Write.insert.inj same
    obtain ⟨pair, -, rfl⟩ := List.mem_map.mp member
    rfl
  | _ =>
    obtain ⟨other, selected, same⟩ := permitted
    simp [Statement.selects, Statement.write] at selected same

/-- Every step applies lawful writes and announces exactly them, and only a commit applies
any. -/
theorem applies_of_step {action : Action} (sound : Sound initial store)
    (stepped : store.step action = some after) :
    ∃ writes queued, store.Applies writes queued after ∧
      ((∃ sid, action = .commit sid) ∨ writes = [] ∧ queued = []) := by
  cases moves_of_step stepped with
  | @commit sid session answer found at_ =>
    have settled := sound.verified.at_commit found at_
    refine ⟨store.heldBy sid, session.queued, ⟨sound.consistent.lawful sid, settled.1.announces,
      rfl, rfl, rfl, ?_⟩, Or.inl ⟨sid, rfl⟩⟩
    intro row member
    obtain ⟨statement, -, permitted⟩ := settled.1.made _ member
    exact ⟨sound.consistent.fresh row (List.mem_map_of_mem (mem_heldBy.mp member)),
      unread_of_permits permitted⟩
  | _ => exact ⟨[], [], applies_nothing rfl rfl rfl, Or.inr ⟨rfl, rfl⟩⟩

end Store

end SvcNotifier
