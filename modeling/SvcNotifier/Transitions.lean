import SvcNotifier.Intake.Provenance

/-!
# From unread to read, once

Every row of the table is the version that some committed write left, so a row that is read has
a committed write that set its `read_at`. A row is transitioned on its unread version only, and
its id is not used again: of all transactions that ever commit, at most one transitions it.
-/

namespace SvcNotifier

open Library Program

/-- The row a write transitions from unread to read. -/
def Write.transition : Write → Option Uuid
  | .setRead row _ => some row.id
  | _ => none

/-- The rows that writes transition. -/
def transitions (writes : List Write) : List Uuid := writes.filterMap Write.transition

@[simp] theorem transitions_append (first second : List Write) :
    transitions (first ++ second) = transitions first ++ transitions second :=
  List.filterMap_append

/-- A row is transitioned by a write that sets its `read_at`. -/
theorem mem_transitions {writes : List Write} {id : Uuid} :
    id ∈ transitions writes ↔ ∃ row readAt, .setRead row readAt ∈ writes ∧ row.id = id := by
  unfold transitions
  rw [List.mem_filterMap]
  constructor
  · rintro ⟨write, member, moved⟩
    cases write with
    | setRead row readAt => exact ⟨row, readAt, member, Option.some.inj moved⟩
    | insert row => contradiction
    | delete row => contradiction
  · rintro ⟨row, readAt, member, same⟩
    exact ⟨_, member, congrArg some same⟩

/-- The rows that writes transition are among those they are on. -/
theorem transitions_sublist (writes : List Write) :
    (transitions writes).Sublist (writes.map Write.id) := by
  induction writes with
  | nil => exact List.Sublist.slnil
  | cons write writes ih =>
    cases write with
    | setRead row readAt => exact ih.cons_cons row.id
    | insert row => exact ih.cons row.id
    | delete row => exact ih.cons row.id

namespace Store

variable {store after : Store} {initial : List Row}

/-- The notification's `read_at` has been set by a committed write. -/
def EverRead (store : Store) (id : Uuid) : Prop :=
  ∃ write ∈ store.history, ∃ version, write.version = some version ∧ version.id = id ∧
    version.readAt ≠ none

/-- What has been read has been read ever since. -/
theorem EverRead.mono {id : Uuid} (read : store.EverRead id)
    (history : store.history ⊆ after.history) : after.EverRead id := by
  obtain ⟨write, member, version, left, same, isRead⟩ := read
  exact ⟨write, history member, version, left, same, isRead⟩

/-- The table against the history of its writes. -/
structure Witnessed (store : Store) : Prop where
  /-- Every row is the version that a committed write left. -/
  versions : ∀ row ∈ store.rows, ∃ write ∈ store.history, write.version = some row
  /-- No row has been transitioned twice. -/
  once : (transitions store.history).Nodup
  /-- A row that is unread has never been transitioned. -/
  unread : ∀ row ∈ store.rows, row.readAt = none → row.id ∉ transitions store.history

/-- A row that is read has been read. -/
theorem Witnessed.everRead (witnessed : store.Witnessed) {row : Row} (member : row ∈ store.rows)
    (read : row.readAt ≠ none) : store.EverRead row.id := by
  obtain ⟨write, written, left⟩ := witnessed.versions row member
  exact ⟨write, written, row, left, rfl, read⟩

/-- The rows a database starts with witness themselves. -/
theorem start_witnessed (rows : List Row) : (start rows).Witnessed := by
  have nothing : transitions (start rows).history = [] := by
    unfold transitions start
    rw [List.filterMap_eq_nil_iff]
    intro write member
    obtain ⟨row, -, rfl⟩ := List.mem_map.mp member
    rfl
  refine ⟨?_, ?_, ?_⟩
  · intro row member
    exact ⟨.insert row, List.mem_map_of_mem member, rfl⟩
  · rw [nothing]
    exact List.nodup_nil
  · intro row _ _ moved
    rw [nothing] at moved
    contradiction

/-- Every step keeps the table witnessed. -/
theorem witnessed_step {action : Action} (sound : Sound initial store)
    (witnessed : store.Witnessed) (stepped : store.step action = some after) :
    after.Witnessed := by
  obtain ⟨writes, queued, applies, -⟩ := applies_of_step sound stepped
  have unique := sound.consistent.unique
  have lawful := applies.lawful
  -- A transition is of a row of the table that is unread.
  have ofUnread : ∀ id ∈ transitions writes,
      ∃ row ∈ store.rows, row.id = id ∧ row.readAt = none := by
    intro id moved
    obtain ⟨row, readAt, member, same⟩ := mem_transitions.mp moved
    have present := lawful.reads row readAt member
    exact ⟨row, present.1, same, present.2⟩
  refine ⟨?_, ?_, ?_⟩
  · intro row member
    rw [applies.rows, mem_applyWrites unique lawful] at member
    rw [applies.history]
    rcases member with ⟨write, written, left⟩ | ⟨old, -⟩
    · exact ⟨write, List.mem_append_right _ written, left⟩
    · obtain ⟨write, written, left⟩ := witnessed.versions row old
      exact ⟨write, List.mem_append_left _ written, left⟩
  · rw [applies.history, transitions_append, List.nodup_append]
    refine ⟨witnessed.once, (transitions_sublist writes).nodup lawful.ids, ?_⟩
    intro id before id' now same
    obtain ⟨row, member, isRow, unread⟩ := ofUnread id' now
    apply witnessed.unread row member unread
    rw [isRow, ← same]
    exact before
  · intro row member unread
    rw [applies.rows, mem_applyWrites unique lawful] at member
    rw [applies.history, transitions_append, List.mem_append, not_or]
    rcases member with ⟨write, written, left⟩ | ⟨old, untouched⟩
    · cases write with
      | insert new =>
        obtain rfl := Option.some.inj left
        constructor
        · intro before
          obtain ⟨earlier, readAt, inside, same⟩ := mem_transitions.mp before
          exact (applies.fresh new written).1
            (same ▸ List.mem_map_of_mem (f := Write.id) inside)
        · intro now
          obtain ⟨present, there, same, -⟩ := ofUnread new.id now
          exact (lawful.inserts new written).1 (same ▸ List.mem_map_of_mem there)
      | setRead old readAt =>
        obtain rfl := Option.some.inj left
        contradiction
      | delete old => contradiction
    · exact ⟨witnessed.unread row old unread,
        fun now => untouched ((transitions_sublist writes).subset now)⟩

/-- No run takes a signal off the log. -/
theorem log_of_reaches {guard : Store → Action → Prop} (run : Reaches step guard store after) :
    store.log <+: after.log := by
  have keeps : ∀ (before : Store) (action : Action) (later : Store),
      store.log <+: before.log → guard before action → before.step action = some later →
      store.log <+: later.log :=
    fun _ _ _ grown _ stepped => grown.trans (log_grows stepped)
  exact run.invariant keeps List.prefix_rfl

/-- How many committed `Read` facts name a notification. -/
def reports (store : Store) (id : Uuid) : Nat :=
  (store.log.flatMap NotificationSignal.facts).countP fun fact =>
    fact.kind == .read && fact.id == id

/-- The transitions of writes are their `Read` facts. -/
theorem countP_read_facts (writes : List Write) (id : Uuid) :
    (writes.map Write.fact).countP (fun fact => fact.kind == .read && fact.id == id) =
      (transitions writes).count id := by
  induction writes with
  | nil => rfl
  | cons write writes ih =>
    cases write with
    | setRead row readAt =>
      have moved : transitions (.setRead row readAt :: writes) = row.id :: transitions writes := rfl
      rw [List.map_cons, List.countP_cons, moved, List.count_cons, ih]
      rfl
    | insert row => exact ih
    | delete row => exact ih

/-- Every transition is reported at most once. -/
theorem Witnessed.reports (witnessed : store.Witnessed) (sound : Sound initial store) (id : Uuid) :
    store.reports id ≤ 1 := by
  obtain ⟨made, history, log, -⟩ := sound.attributed
  have once := List.nodup_iff_count_le_one.mp witnessed.once id
  rw [history, transitions_append, List.count_append] at once
  rw [Store.reports, log, countP_read_facts]
  omega

/-- A row that leaves the table was deleted by the transaction that committed. -/
theorem deleted_of_absent {action : Action} (sound : Sound initial store)
    (stepped : store.step action = some after) {row : Row} (was : row ∈ store.rows)
    (absent : row.id ∉ after.rows.map Row.id) :
    ∃ sid, action = .commit sid ∧ .delete row ∈ store.heldBy sid := by
  cases moves_of_step stepped with
  | @commit sid session answer found at_ =>
    have unique := sound.consistent.unique
    have lawful := sound.consistent.lawful sid
    refine ⟨sid, rfl, ?_⟩
    have gone : ∀ later ∈ applyWrites store.rows (store.heldBy sid), later.id ≠ row.id := by
      intro later there same
      exact absent (same ▸ List.mem_map_of_mem there)
    have touched : row.id ∈ (store.heldBy sid).map Write.id := by
      by_contra untouched
      exact gone row ((mem_applyWrites unique lawful row).mpr (Or.inr ⟨was, untouched⟩)) rfl
    obtain ⟨write, held, onRow⟩ := List.mem_map.mp touched
    cases left : write.version with
    | some version =>
      have same := (Write.id_of_version left).trans onRow
      exact absurd same
        (gone version ((mem_applyWrites unique lawful version).mpr (Or.inl ⟨write, held, left⟩)))
    | none =>
      cases write with
      | delete old =>
        have same : old = row := unique.eq_of_id (lawful.deletes old held) was onRow
        exact same ▸ held
      | insert new => contradiction
      | setRead old readAt => contradiction
  | _ => exact absurd (List.mem_map_of_mem was) absent

end Store

/-- A table with one unread notification. -/
def sampleUnread : Notifications := ⟨[sampleRow 2 7], ⟨by decide, by decide⟩⟩

end SvcNotifier
