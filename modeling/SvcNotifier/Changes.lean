import SvcNotifier.Commits

/-!
# What changed between two tables

A row is followed by its id. What a commit did to a row is read off the table before and the
table after: it was inserted, its `read_at` was set, or it was removed. Lawful writes change
each row they are on in one of these ways and no other row, so signals that announce the
writes state exactly the change.
-/

namespace SvcNotifier

open Library Program

/-- The row with an id. -/
def rowOf (rows : List Row) (id : Uuid) : Option Row := rows.find? fun row => row.id == id

/-- What is found by an id is a row with the id. -/
theorem rowOf_some {rows : List Row} {id : Uuid} {row : Row} (found : rowOf rows id = some row) :
    row ∈ rows ∧ row.id = id := by
  have same := List.find?_some found
  exact ⟨List.mem_of_find?_eq_some found, beq_iff_eq.mp same⟩

/-- In a table, a row is the row with its id. -/
theorem rowOf_eq_some {rows : List Row} (unique : Unique rows) {id : Uuid} {row : Row} :
    rowOf rows id = some row ↔ row ∈ rows ∧ row.id = id := by
  constructor
  · exact rowOf_some
  · rintro ⟨member, rfl⟩
    cases found : rowOf rows row.id with
    | none =>
      have absent := List.find?_eq_none.mp found row member
      simp at absent
    | some other =>
      obtain ⟨there, same⟩ := rowOf_some found
      rw [unique.eq_of_id there member same]

/-- No row has the id. -/
theorem rowOf_eq_none {rows : List Row} {id : Uuid} :
    rowOf rows id = none ↔ id ∉ rows.map Row.id := by
  simp [rowOf]

/-- The version a write was made on. -/
def Write.previous : Write → Option Row
  | .insert _ => none
  | .setRead row _ => some row
  | .delete row => some row

/-- What a row before and after a commit tells of it. -/
def changeOf : Option Row → Option Row → List FactKind
  | none, some _ => [.added]
  | some old, some new => if old.readAt.isNone && new.readAt.isSome then [.read] else []
  | some _, none => [.deleted]
  | none, none => []

@[simp] theorem changeOf_self (row : Option Row) : changeOf row row = [] := by
  cases row with
  | none => rfl
  | some row => cases found : row.readAt <;> simp [changeOf, found]

section

variable {rows : List Row} {writes : List Write}

/-- Lawful writes keep the constraints of the table. -/
theorem unique_applyWrites (unique : Unique rows) (lawful : Lawful rows writes) :
    Unique (applyWrites rows writes) :=
  (lawful_applyWrites unique
    ((List.append_nil writes).symm ▸ lawful : Lawful rows (writes ++ []))).1

/-- A write that is lawful tells of its row what it is. -/
theorem changeOf_write (lawful : Lawful rows writes) {write : Write} (member : write ∈ writes) :
    changeOf write.previous write.version = [write.kind] := by
  cases write with
  | insert row => rfl
  | setRead row readAt =>
    have unread := (lawful.reads row readAt member).2
    simp [changeOf, Write.previous, Write.version, Write.kind, unread]
  | delete row => rfl

/-- The row a write is on, before it. -/
theorem rowOf_previous (unique : Unique rows) (lawful : Lawful rows writes) {write : Write}
    (member : write ∈ writes) : rowOf rows write.id = write.previous := by
  cases write with
  | insert row => exact rowOf_eq_none.mpr (lawful.inserts row member).1
  | setRead row readAt =>
    exact (rowOf_eq_some unique).mpr ⟨(lawful.reads row readAt member).1, rfl⟩
  | delete row => exact (rowOf_eq_some unique).mpr ⟨lawful.deletes row member, rfl⟩

/-- The row a write is on, after the whole transaction. -/
theorem rowOf_version (unique : Unique rows) (lawful : Lawful rows writes) {write : Write}
    (member : write ∈ writes) : rowOf (applyWrites rows writes) write.id = write.version := by
  have applied := unique_applyWrites unique lawful
  cases left : write.version with
  | some row =>
    have there := (mem_applyWrites unique lawful row).mpr (Or.inl ⟨write, member, left⟩)
    exact (rowOf_eq_some applied).mpr ⟨there, Write.id_of_version left⟩
  | none =>
    rw [rowOf_eq_none]
    intro inside
    obtain ⟨row, there, same⟩ := List.mem_map.mp inside
    rcases (mem_applyWrites unique lawful row).mp there with ⟨other, also, version⟩ | ⟨-, unnamed⟩
    · -- One id, one write: the other write is this one, which leaves nothing.
      have one : other = write := List.inj_on_of_nodup_map lawful.ids also member
        ((Write.id_of_version version).symm.trans same)
      rw [one, left] at version
      contradiction
    · exact unnamed (same ▸ List.mem_map_of_mem member)

/-- A row that no write is on stays as it was. -/
theorem rowOf_unnamed (unique : Unique rows) (lawful : Lawful rows writes) {id : Uuid}
    (unnamed : id ∉ writes.map Write.id) :
    rowOf (applyWrites rows writes) id = rowOf rows id := by
  have applied := unique_applyWrites unique lawful
  refine Option.ext fun row => ?_
  rw [rowOf_eq_some applied, rowOf_eq_some unique, mem_applyWrites unique lawful]
  constructor
  · rintro ⟨⟨write, member, left⟩ | ⟨old, -⟩, rfl⟩
    · exact absurd (Write.id_of_version left ▸ List.mem_map_of_mem member) unnamed
    · exact ⟨old, rfl⟩
  · rintro ⟨old, rfl⟩
    exact ⟨Or.inr ⟨old, unnamed⟩, rfl⟩

end

/-! ## A change as three lists -/

/-- The rows of the later table that the earlier one does not have. -/
def inserted (before after : List Row) : List Row :=
  after.filter fun row => (rowOf before row.id).isNone

/-- The rows of the later table that were unread in the earlier one and are read. -/
def newlyRead (before after : List Row) : List Row :=
  after.filter fun row => (rowOf before row.id).any fun old =>
    old.readAt.isNone && row.readAt.isSome

/-- The rows of the earlier table that the later one does not have. -/
def removed (before after : List Row) : List Row :=
  before.filter fun row => (rowOf after row.id).isNone

/-- Whose row it is, and which. -/
def Row.owned (row : Row) : Uuid × Uuid := (row.recipientId, row.id)

/-- The notifications that signals of one kind name, each with the recipient of the signal. -/
def announced (kind : FactKind) (signals : List NotificationSignal) : List (Uuid × Uuid) :=
  ((signals.flatMap NotificationSignal.facts).filter fun fact => fact.kind = kind).map
    fun fact => (fact.recipientId, fact.id)

/-- The signals state exactly the change from one table to the other. -/
structure Agree (before after : List Row) (signals : List NotificationSignal) : Prop where
  /-- One `Added` for each row inserted, with its recipient and id. -/
  added : (announced .added signals).Perm ((inserted before after).map Row.owned)
  /-- The `Read` signals name the rows whose `read_at` was set, each once, under its recipient. -/
  read : (announced .read signals).Perm ((newlyRead before after).map Row.owned)
  /-- The `Deleted` signals name the rows removed, each once, under its recipient. -/
  deleted : (announced .deleted signals).Perm ((removed before after).map Row.owned)
  /-- Nothing else happened to any row. -/
  rest : ∀ old ∈ before, ∀ new ∈ after, new.id = old.id →
    new = old ∨ old.readAt = none ∧ new = { old with readAt := new.readAt }
  /-- Every signal names between one notification and a chunk of them. -/
  sized : ∀ signal ∈ signals, signal.Sized
  /-- No two signals are equal. -/
  distinct : signals.Nodup
  /-- A transaction that changed nothing announces nothing. -/
  silent : (∀ row, row ∈ after ↔ row ∈ before) → signals = []

/-- The notifications of one kind that announcing signals name are those of the writes of that
kind. -/
theorem Announces.announced_eq {writes : List Write} {signals : List NotificationSignal}
    (announces : Announces writes signals) (kind : FactKind) :
    announced kind signals =
      (writes.filter fun write => write.kind = kind).map fun write => write.row.owned := by
  simp only [announced, announces.facts, List.filter_map, List.map_map]
  rfl

/-- Lists of different rows, and of the writes of one kind, are compared by membership. -/
theorem announced_perm {writes : List Write} {signals : List NotificationSignal} {rows : List Row}
    (announces : Announces writes signals) (ids : (writes.map Write.id).Nodup)
    (distinct : (rows.map Row.id).Nodup) (kind : FactKind)
    (same : ∀ owned, (∃ write ∈ writes, write.kind = kind ∧ write.row.owned = owned) ↔
      ∃ row ∈ rows, row.owned = owned) :
    (announced kind signals).Perm (rows.map Row.owned) := by
  have left : (announced kind signals).Nodup := by
    rw [announces.announced_eq kind]
    refine List.Nodup.of_map Prod.snd ?_
    rw [List.map_map]
    exact (List.filter_sublist.map Write.id).nodup ids
  have right : (rows.map Row.owned).Nodup := by
    refine List.Nodup.of_map Prod.snd ?_
    rw [List.map_map]
    exact distinct
  refine (List.perm_ext_iff_of_nodup left right).mpr fun owned => ?_
  rw [announces.announced_eq kind, List.mem_map, List.mem_map]
  simpa [and_assoc] using same owned

section

variable {rows : List Row} {writes : List Write} (unique : Unique rows)
  (lawful : Lawful rows writes)
include unique lawful

/-- A row that differs afterwards is one that a write is on, and the write tells both its
versions. -/
theorem written_of_differs {id : Uuid}
    (differs : rowOf (applyWrites rows writes) id ≠ rowOf rows id) :
    ∃ write ∈ writes, rowOf rows id = write.previous ∧
      rowOf (applyWrites rows writes) id = write.version := by
  by_cases named : id ∈ writes.map Write.id
  · obtain ⟨write, member, rfl⟩ := List.mem_map.mp named
    exact ⟨write, member, rowOf_previous unique lawful member, rowOf_version unique lawful member⟩
  · exact absurd (rowOf_unnamed unique lawful named) differs

/-- The inserted rows are those of the inserting writes. -/
theorem inserted_iff (owned : Uuid × Uuid) :
    (∃ write ∈ writes, write.kind = .added ∧ write.row.owned = owned) ↔
      ∃ row ∈ inserted rows (applyWrites rows writes), row.owned = owned := by
  have unique' := unique_applyWrites unique lawful
  constructor
  · rintro ⟨write, member, kind, rfl⟩
    cases write with
    | insert row =>
      have there := (rowOf_eq_some unique').mp (rowOf_version unique lawful member)
      refine ⟨row, List.mem_filter.mpr ⟨there.1, ?_⟩, rfl⟩
      rw [Option.isNone_iff_eq_none]
      exact rowOf_previous unique lawful member
    | _ => contradiction
  · rintro ⟨row, member, rfl⟩
    obtain ⟨there, absent⟩ := List.mem_filter.mp member
    rw [Option.isNone_iff_eq_none] at absent
    have found := (rowOf_eq_some unique').mpr ⟨there, rfl⟩
    have differs : rowOf (applyWrites rows writes) row.id ≠ rowOf rows row.id := by
      rw [found, absent]
      simp
    obtain ⟨write, inside, was, now⟩ := written_of_differs unique lawful differs
    rw [absent] at was
    rw [found] at now
    cases write with
    | insert new =>
      obtain rfl := Option.some.inj now
      exact ⟨_, inside, rfl, rfl⟩
    | setRead old readAt => contradiction
    | delete old => contradiction

/-- The newly read rows are those of the writes that set `read_at`. -/
theorem newlyRead_iff (owned : Uuid × Uuid) :
    (∃ write ∈ writes, write.kind = .read ∧ write.row.owned = owned) ↔
      ∃ row ∈ newlyRead rows (applyWrites rows writes), row.owned = owned := by
  have unique' := unique_applyWrites unique lawful
  constructor
  · rintro ⟨write, member, kind, rfl⟩
    cases write with
    | setRead old readAt =>
      have there := (rowOf_eq_some unique').mp (rowOf_version unique lawful member)
      have was : rowOf rows old.id = some old := rowOf_previous unique lawful member
      refine ⟨_, List.mem_filter.mpr ⟨there.1, ?_⟩, rfl⟩
      simp [was, (lawful.reads old readAt member).2]
    | _ => contradiction
  · rintro ⟨row, member, rfl⟩
    obtain ⟨there, changed⟩ := List.mem_filter.mp member
    rw [Option.any_eq_true] at changed
    obtain ⟨old, stood, read⟩ := changed
    simp only [Bool.and_eq_true, Option.isNone_iff_eq_none] at read
    have found := (rowOf_eq_some unique').mpr ⟨there, rfl⟩
    have differs : rowOf (applyWrites rows writes) row.id ≠ rowOf rows row.id := by
      rw [found, stood]
      intro same
      obtain rfl := Option.some.inj same
      simp [read.1] at read
    obtain ⟨write, inside, was, now⟩ := written_of_differs unique lawful differs
    rw [stood] at was
    rw [found] at now
    cases write with
    | insert new => contradiction
    | setRead current readAt =>
      obtain rfl := Option.some.inj was
      obtain rfl := Option.some.inj now
      exact ⟨_, inside, rfl, rfl⟩
    | delete current => contradiction

/-- The removed rows are those of the deleting writes. -/
theorem removed_iff (owned : Uuid × Uuid) :
    (∃ write ∈ writes, write.kind = .deleted ∧ write.row.owned = owned) ↔
      ∃ row ∈ removed rows (applyWrites rows writes), row.owned = owned := by
  constructor
  · rintro ⟨write, member, kind, rfl⟩
    cases write with
    | delete old =>
      refine ⟨old, List.mem_filter.mpr ⟨lawful.deletes old member, ?_⟩, rfl⟩
      rw [Option.isNone_iff_eq_none]
      exact rowOf_version unique lawful member
    | _ => contradiction
  · rintro ⟨row, member, rfl⟩
    obtain ⟨there, absent⟩ := List.mem_filter.mp member
    rw [Option.isNone_iff_eq_none] at absent
    have found := (rowOf_eq_some unique).mpr ⟨there, rfl⟩
    have differs : rowOf (applyWrites rows writes) row.id ≠ rowOf rows row.id := by
      rw [found, absent]
      simp
    obtain ⟨write, inside, was, now⟩ := written_of_differs unique lawful differs
    rw [found] at was
    rw [absent] at now
    cases write with
    | delete old =>
      obtain rfl := Option.some.inj was
      exact ⟨_, inside, rfl, rfl⟩
    | insert new => contradiction
    | setRead old readAt => contradiction

/-- A row that is there before and after is the same, or was unread and differs in its
`read_at`. -/
theorem kept_row {old new : Row} (was : old ∈ rows) (now : new ∈ applyWrites rows writes)
    (same : new.id = old.id) :
    new = old ∨ old.readAt = none ∧ new = { old with readAt := new.readAt } := by
  have before_ := (rowOf_eq_some unique).mpr ⟨was, rfl⟩
  have after_ := (rowOf_eq_some (unique_applyWrites unique lawful)).mpr ⟨now, same⟩
  by_cases differs : rowOf (applyWrites rows writes) old.id = rowOf rows old.id
  · rw [after_, before_] at differs
    exact Or.inl (Option.some.inj differs)
  · obtain ⟨write, inside, onOld, onNew⟩ := written_of_differs unique lawful differs
    rw [before_] at onOld
    rw [after_] at onNew
    cases write with
    | setRead current readAt =>
      obtain rfl := Option.some.inj onOld
      obtain rfl := Option.some.inj onNew
      exact Or.inr ⟨(lawful.reads _ readAt inside).2, rfl⟩
    | insert new => contradiction
    | delete old => contradiction

/-- Writes that leave every row as it was are no writes. -/
theorem no_writes_of_unchanged (unchanged : ∀ row, row ∈ applyWrites rows writes ↔ row ∈ rows) :
    writes = [] := by
  by_contra nonempty
  obtain ⟨write, member⟩ := List.exists_mem_of_ne_nil writes nonempty
  have same : rowOf (applyWrites rows writes) write.id = rowOf rows write.id := by
    refine Option.ext fun row => ?_
    rw [rowOf_eq_some (unique_applyWrites unique lawful), rowOf_eq_some unique, unchanged]
  have told := changeOf_write lawful member
  rw [← rowOf_previous unique lawful member, ← rowOf_version unique lawful member, same,
    changeOf_self] at told
  contradiction

/-- Signals that announce lawful writes state exactly what applying them changes. -/
theorem agree_of_announces {signals : List NotificationSignal}
    (announces : Announces writes signals) : Agree rows (applyWrites rows writes) signals := by
  have distinct := (unique_applyWrites unique lawful).ids
  refine ⟨?_, ?_, ?_, ?_, announces.sized, announces.distinct, ?_⟩
  · exact announced_perm announces lawful.ids ((List.filter_sublist.map Row.id).nodup distinct)
      .added (inserted_iff unique lawful)
  · exact announced_perm announces lawful.ids ((List.filter_sublist.map Row.id).nodup distinct)
      .read (newlyRead_iff unique lawful)
  · exact announced_perm announces lawful.ids ((List.filter_sublist.map Row.id).nodup unique.ids)
      .deleted (removed_iff unique lawful)
  · exact fun old was new now same => kept_row unique lawful was now same
  · intro unchanged
    have none := no_writes_of_unchanged unique lawful unchanged
    exact Announces.silent (none ▸ announces)

end

/-! ## Whose a row is -/

namespace Store

variable {store after : Store} {initial : List Row}

/-- A row of the recipient with this id was inserted at some time. -/
def Owned (store : Store) (recipientId id : Uuid) : Prop :=
  ∃ first, .insert first ∈ store.history ∧ first.owned = (recipientId, id)

/-- What was inserted stays inserted. -/
theorem Owned.mono {recipientId id : Uuid}
    (owned : store.Owned recipientId id) (history : store.history ⊆ after.history) :
    after.Owned recipientId id := by
  obtain ⟨first, inserted, same⟩ := owned
  exact ⟨first, history inserted, same⟩

/-- The id of a row that was inserted is one that has been used. -/
theorem Owned.used {recipientId id : Uuid} (owned : store.Owned recipientId id) :
    id ∈ store.history.map Write.id := by
  obtain ⟨first, inserted, same⟩ := owned
  exact List.mem_map.mpr ⟨.insert first, inserted, congrArg Prod.snd same⟩

/-- A row in the table was inserted under its recipient. -/
theorem Sound.owned (sound : Sound initial store) {row : Row} (member : row ∈ store.rows) :
    store.Owned row.recipientId row.id := by
  obtain ⟨first, inserted, same⟩ := sound.consistent.born row member
  have owned : row.owned = first.owned := by
    rw [same]
    rfl
  exact ⟨first, inserted, owned.symm⟩

/-- Every id is inserted once. -/
def Single (store : Store) : Prop :=
  ∀ first second, .insert first ∈ store.history → .insert second ∈ store.history →
    first.id = second.id → first = second

/-- The rows of a table have ids of their own. -/
theorem start_single (table : Notifications) : (start table.rows).Single := by
  intro first second one other same
  obtain ⟨left, inLeft, isFirst⟩ := List.mem_map.mp one
  obtain ⟨right, inRight, isSecond⟩ := List.mem_map.mp other
  rw [← Write.insert.inj isFirst, ← Write.insert.inj isSecond] at same ⊢
  exact table.unique.eq_of_id inLeft inRight same

/-- A step inserts no id that was inserted before, and none twice. -/
theorem single_step {action : Action} (sound : Sound initial store) (single : store.Single)
    (stepped : store.step action = some after) : after.Single := by
  obtain ⟨writes, queued, applies, -⟩ := applies_of_step sound stepped
  -- A new row does not have the id of a row inserted before.
  have apart : ∀ old new, .insert old ∈ store.history → .insert new ∈ writes → old.id ≠ new.id := by
    intro old new before inserted same
    have used : old.id ∈ store.history.map Write.id :=
      List.mem_map.mpr ⟨.insert old, before, rfl⟩
    exact (applies.fresh new inserted).1 (same ▸ used)
  intro first second one other same
  rw [applies.history, List.mem_append] at one other
  rcases one with one | one
  · rcases other with other | other
    · exact single first second one other same
    · exact absurd same (apart first second one other)
  · rcases other with other | other
    · exact absurd same.symm (apart second first other one)
    · have both : Write.insert first = Write.insert second :=
        List.inj_on_of_nodup_map applies.lawful.ids one other same
      exact Write.insert.inj both

/-- A notification has one recipient. -/
theorem Single.owner {left right id : Uuid} (single : store.Single)
    (one : store.Owned left id) (other : store.Owned right id) : left = right := by
  obtain ⟨first, inFirst, isFirst⟩ := one
  obtain ⟨second, inSecond, isSecond⟩ := other
  have same : first = second := by
    apply single first second inFirst inSecond
    exact (congrArg Prod.snd isFirst).trans (congrArg Prod.snd isSecond).symm
  rw [same] at isFirst
  exact congrArg Prod.fst (isFirst.symm.trans isSecond)

end Store

end SvcNotifier
