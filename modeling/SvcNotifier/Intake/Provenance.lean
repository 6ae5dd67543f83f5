import SvcNotifier.Intake.Settlement
import SvcNotifier.Changes

/-!
# Where the rows come from, and what may change in them

The table invariant over whole runs: the two unique indexes hold, every row is of an accepted
command, and from one state to any later one a row keeps everything but its `read_at`, which is
set at most once. A removed row does not come back under its id.
-/

namespace SvcNotifier

open Library Program

/-- What a row may become: its `read_at` may be set, once. -/
def Evolves (row later : Row) : Prop :=
  later = { row with readAt := later.readAt } ∧ (row.readAt ≠ none → later.readAt = row.readAt)

/-- A row may stay as it is. -/
theorem Evolves.refl (row : Row) : Evolves row row := ⟨rfl, fun _ => rfl⟩

/-- What a row may become over two spans of time. -/
theorem Evolves.trans {row middle later : Row} (first : Evolves row middle)
    (second : Evolves middle later) : Evolves row later := by
  refine ⟨?_, fun read => ?_⟩
  · rw [second.1, first.1]
  · have kept := first.2 read
    rw [second.2 (by rw [kept]; exact read), kept]

namespace Store

variable {store after later : Store} {initial : List Row}

/-- From one state to a later one: what was written stays written, a removed id does not come
back, and the rows still there have evolved. -/
structure Follows (store later : Store) : Prop where
  /-- What was written stays written. -/
  history : store.history ⊆ later.history
  /-- A removed id does not come back. -/
  gone : ∀ id ∈ store.history.map Write.id, id ∉ store.rows.map Row.id →
    id ∉ later.rows.map Row.id
  /-- A row that is still there has evolved. -/
  evolves : ∀ row ∈ store.rows, ∀ now ∈ later.rows, now.id = row.id → Evolves row now

/-- Nothing has happened. -/
theorem Sound.follows_self (sound : Sound initial store) : store.Follows store where
  history := List.Subset.refl _
  gone _ _ absent := absent
  evolves row was now is same := by
    rw [sound.consistent.unique.eq_of_id is was same]
    exact Evolves.refl row

/-- One step. -/
theorem Sound.follows_step {action : Action} (sound : Sound initial store)
    (stepped : store.step action = some after) : store.Follows after := by
  obtain ⟨writes, queued, applies, -⟩ := applies_of_step sound stepped
  have unique := sound.consistent.unique
  refine ⟨(history_grows stepped).subset, ?_, ?_⟩
  · intro id used absent
    rw [← rowOf_eq_none] at absent ⊢
    rw [applies.rows]
    by_contra back
    have differs : rowOf (applyWrites store.rows writes) id ≠ rowOf store.rows id := by
      rw [absent]
      exact back
    obtain ⟨write, member, was, now⟩ := written_of_differs unique applies.lawful differs
    rw [absent] at was
    cases write with
    | insert row =>
      -- A used id is never inserted again.
      have left : rowOf (applyWrites store.rows writes) id = some row := now
      have onRow := (rowOf_eq_some (unique_applyWrites unique applies.lawful)).mp left
      exact (applies.fresh row member).1 (onRow.2 ▸ used)
    | setRead row readAt => contradiction
    | delete row => contradiction
  · intro row was now is same
    rw [applies.rows] at is
    rcases kept_row unique applies.lawful was is same with rfl | ⟨unread, changed⟩
    · exact Evolves.refl _
    · exact ⟨changed, fun read => absurd unread read⟩

/-- Spans of time compose. -/
theorem Follows.trans {middle : Store} (sound : Sound initial store)
    (first : store.Follows middle) (second : middle.Follows later) : store.Follows later where
  history := List.Subset.trans first.history second.history
  gone id used absent := by
    refine second.gone id ?_ (first.gone id used absent)
    obtain ⟨write, member, rfl⟩ := List.mem_map.mp used
    exact List.mem_map_of_mem (first.history member)
  evolves row was now is same := by
    have used := sound.consistent.known was
    by_cases between : row.id ∈ middle.rows.map Row.id
    · obtain ⟨half, there, same'⟩ := List.mem_map.mp between
      exact (first.evolves row was half there same').trans
        (second.evolves half there now is (same.trans same'.symm))
    · obtain ⟨write, member, onRow⟩ := List.mem_map.mp used
      have used' : row.id ∈ middle.history.map Write.id :=
        onRow ▸ List.mem_map_of_mem (first.history member)
      exact absurd (same ▸ List.mem_map_of_mem is) (second.gone _ used' between)

/-- What was written stays written over any run. -/
theorem Sound.follows (sound : Sound initial store)
    (run : Reaches step anyStep store later) : store.Follows later := by
  obtain ⟨actions, run⟩ := run
  have keeps : ∀ (s : Store) (a : Action) (t : Store), Sound initial s → anyStep s a →
      s.step a = some t → Sound initial t := fun _ _ _ sound _ stepped => sound_step sound stepped
  have grows : ∀ (s : Store) (a : Action) (t u : Store), Sound initial s → s.step a = some t →
      t.Follows u → s.Follows u :=
    fun _ _ _ _ sound stepped rest => (sound.follows_step stepped).trans sound rest
  exact run.relates keeps (fun _ sound => sound.follows_self) grows sound

end Store

namespace Intake

variable {serde : Serde} {errorText : SqlxError → String} {intake after later : Intake}

/-- A step of the intake is a step of the database or leaves it alone. -/
theorem store_of_step {action : Action}
    (stepped : step serde errorText intake action = some after) :
    after.store = intake.store ∨
      ∃ moved, intake.store.step moved = some after.store ∧
        (action = .database moved ∨ ∃ sid operation now, moved = .begin sid operation now) := by
  cases moves_of_step stepped with
  | openFanOut busy at_ alone begun => exact Or.inr ⟨_, begun, Or.inr ⟨_, _, _, rfl⟩⟩
  | database foreign moved => exact Or.inr ⟨_, moved, Or.inl rfl⟩
  | _ => exact Or.inl rfl

/-- A run of the intake is a run of the database. -/
theorem store_reaches (run : Reaches (step serde errorText) anyStep intake later) :
    Reaches Store.step anyStep intake.store later.store := by
  obtain ⟨actions, run⟩ := run
  refine run.project fun before action after stepped => (store_of_step stepped).imp_right ?_
  rintro ⟨moved, step, -⟩
  exact ⟨moved, step⟩

end Intake

/-- The table invariant with provenance, in every state that replicas and callers reach from the
empty table in any interleaving. -/
theorem table_invariant (serde : Serde) (errorText : SqlxError → String) (intake : Intake)
    (reached : Intake.Reachable serde errorText .empty intake) :
    (intake.store.rows.map Row.id).Nodup ∧ (intake.store.rows.map Row.key).Nodup ∧
    (∀ row ∈ intake.store.rows, Intake.Stems serde intake row) ∧
    ∀ later, Reaches (Intake.step serde errorText) anyStep intake later →
      ∀ row ∈ intake.store.rows, ∀ now ∈ later.store.rows, now.id = row.id → Evolves row now := by
  have sound := reached.sound
  refine ⟨sound.store.consistent.unique.ids, sound.store.consistent.unique.keys, ?_, ?_⟩
  · intro row member
    obtain ⟨first, inserted, same⟩ := sound.store.consistent.born row member
    rcases sound.committed_stems inserted with none_ | stems
    · cases none_
    · -- Only `read_at` may differ from the row as inserted.
      rw [same]
      exact stems
  · intro later run
    exact (sound.store.follows (Intake.store_reaches run)).evolves

/-- Both rows of the delivered frame are of its command. -/
theorem table_invariant_sample :
    (∀ row ∈ sampleAcked.store.rows, Intake.Stems sampleSerde sampleAcked row) ∧
      sampleAcked.store.rows.map Row.owned =
        [(sampleId 2, sampleId 10), (sampleId 3, sampleId 11)] :=
  ⟨(table_invariant sampleSerde _ sampleAcked sampleAcked_reached).2.2.1, by decide⟩

end SvcNotifier
