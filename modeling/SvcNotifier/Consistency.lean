import SvcNotifier.Store
import Mathlib.Data.List.Perm.Basic

/-!
# The table and its locks

Neither unique index of `notifications` is ever violated by a commit, because uncommitted
writes exclude each other: every lock is held on the version that is still committed, no two
locks are on one row or one dedup key, and no inserted key is already in the table. This is
the invariant every result about runs of the database rests on.
-/

namespace SvcNotifier

open Library Program

/-- The constraints of migration `0001`: the primary key and
`notifications_source_recipient_uniq`. -/
structure Unique (rows : List Row) : Prop where
  /-- The primary key. -/
  ids : (rows.map Row.id).Nodup
  /-- The dedup key. -/
  keys : (rows.map Row.key).Nodup

/-- A table that satisfies its constraints. -/
structure Notifications where
  /-- The rows, in no particular order. -/
  rows : List Row
  /-- The constraints hold. -/
  unique : Unique rows

/-- A table without rows. -/
def Notifications.empty : Notifications := ⟨[], ⟨List.nodup_nil, List.nodup_nil⟩⟩

/-- Writes that may be applied to a table together, in any order. -/
structure Lawful (rows : List Row) (writes : List Write) : Prop where
  /-- No two are on one row. -/
  ids : (writes.map Write.id).Nodup
  /-- No two are on one dedup key. -/
  keys : (writes.map Write.key).Nodup
  /-- An inserted row is new. -/
  inserts : ∀ row, .insert row ∈ writes → row.id ∉ rows.map Row.id ∧ row.key ∉ rows.map Row.key
  /-- A row is marked read on its committed, unread version. -/
  reads : ∀ row readAt, .setRead row readAt ∈ writes → row ∈ rows ∧ row.readAt = none
  /-- A row is removed in its committed version. -/
  deletes : ∀ row, .delete row ∈ writes → row ∈ rows

/-- The rows of a table are told apart by their ids. -/
theorem Unique.eq_of_id {rows : List Row} (unique : Unique rows) {left right : Row}
    (hl : left ∈ rows) (hr : right ∈ rows) (same : left.id = right.id) : left = right :=
  List.inj_on_of_nodup_map unique.ids hl hr same

/-- The rows of a table are told apart by their dedup keys. -/
theorem Unique.eq_of_key {rows : List Row} (unique : Unique rows) {left right : Row}
    (hl : left ∈ rows) (hr : right ∈ rows) (same : left.key = right.key) : left = right :=
  List.inj_on_of_nodup_map unique.keys hl hr same

namespace Lawful

variable {rows : List Row} {writes others : List Write}

/-- The order of the writes does not matter. -/
theorem perm (lawful : Lawful rows writes) (same : writes.Perm others) : Lawful rows others where
  ids := (same.map Write.id).nodup_iff.mp lawful.ids
  keys := (same.map Write.key).nodup_iff.mp lawful.keys
  inserts row member := lawful.inserts row (same.mem_iff.mpr member)
  reads row readAt member := lawful.reads row readAt (same.mem_iff.mpr member)
  deletes row member := lawful.deletes row (same.mem_iff.mpr member)

/-- Fewer writes are lawful too. -/
theorem sublist (lawful : Lawful rows writes) (fewer : others.Sublist writes) :
    Lawful rows others where
  ids := (fewer.map Write.id).nodup lawful.ids
  keys := (fewer.map Write.key).nodup lawful.keys
  inserts row member := lawful.inserts row (fewer.subset member)
  reads row readAt member := lawful.reads row readAt (fewer.subset member)
  deletes row member := lawful.deletes row (fewer.subset member)

/-- One more write is lawful when it is lawful alone and on a row and a key of its own. -/
theorem snoc {write : Write} (lawful : Lawful rows writes) (alone : Lawful rows [write])
    (ownRow : write.id ∉ writes.map Write.id) (ownKey : write.key ∉ writes.map Write.key) :
    Lawful rows (writes ++ [write]) where
  ids := by
    rw [List.map_append, List.nodup_append]
    refine ⟨lawful.ids, alone.ids, fun left member right last same => ?_⟩
    rw [List.map_singleton, List.mem_singleton] at last
    exact ownRow (last ▸ same ▸ member)
  keys := by
    rw [List.map_append, List.nodup_append]
    refine ⟨lawful.keys, alone.keys, fun left member right last same => ?_⟩
    rw [List.map_singleton, List.mem_singleton] at last
    exact ownKey (last ▸ same ▸ member)
  inserts row member := (List.mem_append.mp member).elim (lawful.inserts row) (alone.inserts row)
  reads row readAt member :=
    (List.mem_append.mp member).elim (lawful.reads row readAt) (alone.reads row readAt)
  deletes row member := (List.mem_append.mp member).elim (lawful.deletes row) (alone.deletes row)

end Lawful

/-- The version a write leaves has the row's id. -/
theorem Write.id_of_version {write : Write} {row : Row} (left : write.version = some row) :
    row.id = write.id := by
  cases write with
  | insert new => exact congrArg Row.id (Option.some.inj left).symm
  | setRead old readAt =>
    obtain rfl := Option.some.inj left
    rfl
  | delete old => contradiction

/-- The version a write leaves has the row's dedup key. -/
theorem Write.key_of_version {write : Write} {row : Row} (left : write.version = some row) :
    row.key = write.key := by
  cases write with
  | insert new => exact congrArg Row.key (Option.some.inj left).symm
  | setRead old readAt =>
    obtain rfl := Option.some.inj left
    rfl
  | delete old => contradiction

section

variable {rows : List Row} {write : Write} {writes : List Write}

/-- The rows of the table after one lawful write: the version it leaves, and every row it is
not on. -/
theorem mem_applyWrite (lawful : Lawful rows (write :: writes)) (row : Row) :
    row ∈ applyWrite rows write ↔ write.version = some row ∨ row ∈ rows ∧ row.id ≠ write.id := by
  cases write with
  | insert new =>
    have absent := (lawful.inserts new List.mem_cons_self).1
    simp only [applyWrite, List.mem_append, List.mem_singleton, Write.version, Option.some.injEq,
      Write.id, Write.row]
    constructor
    · rintro (old | rfl)
      · exact Or.inr ⟨old, fun same => absent (same ▸ List.mem_map_of_mem old)⟩
      · exact Or.inl rfl
    · rintro (rfl | ⟨old, -⟩)
      · exact Or.inr rfl
      · exact Or.inl old
  | setRead old readAt =>
    have present := (lawful.reads old readAt List.mem_cons_self).1
    simp only [applyWrite, List.mem_map, Write.version, Option.some.injEq, Write.id, Write.row]
    constructor
    · rintro ⟨current, member, rfl⟩
      by_cases same : current.id = old.id
      · rw [if_pos same]
        exact Or.inl rfl
      · rw [if_neg same]
        exact Or.inr ⟨member, same⟩
    · rintro (rfl | ⟨member, other⟩)
      · exact ⟨old, present, if_pos rfl⟩
      · exact ⟨row, member, if_neg other⟩
  | delete old =>
    simp [applyWrite, Write.version, Write.id, Write.row]

/-- A lawful write keeps the constraints of the table. -/
theorem unique_applyWrite (unique : Unique rows) (lawful : Lawful rows (write :: writes)) :
    Unique (applyWrite rows write) := by
  cases write with
  | insert new =>
    have absent := lawful.inserts new List.mem_cons_self
    constructor
    · rw [applyWrite, List.map_append, List.nodup_append]
      refine ⟨unique.ids, List.nodup_singleton _, fun left member right last same => ?_⟩
      rw [List.map_singleton, List.mem_singleton] at last
      exact absent.1 (last ▸ same ▸ member)
    · rw [applyWrite, List.map_append, List.nodup_append]
      refine ⟨unique.keys, List.nodup_singleton _, fun left member right last same => ?_⟩
      rw [List.map_singleton, List.mem_singleton] at last
      exact absent.2 (last ▸ same ▸ member)
  | setRead old readAt =>
    have present := (lawful.reads old readAt List.mem_cons_self).1
    -- The new version stands where the old one stood, under the same id and key.
    have kept : ∀ current ∈ rows, current.id = old.id → current = old :=
      fun current member same => unique.eq_of_id member present same
    have ids : (applyWrite rows (.setRead old readAt)).map Row.id = rows.map Row.id := by
      rw [applyWrite, List.map_map]
      refine List.map_congr_left fun current member => ?_
      by_cases same : current.id = old.id <;> simp [same]
    have keys : (applyWrite rows (.setRead old readAt)).map Row.key = rows.map Row.key := by
      rw [applyWrite, List.map_map]
      refine List.map_congr_left fun current member => ?_
      by_cases same : current.id = old.id
      · rw [kept current member same]
        simp [Row.key]
      · simp [same]
    exact ⟨ids ▸ unique.ids, keys ▸ unique.keys⟩
  | delete old =>
    have fewer : (applyWrite rows (.delete old)).Sublist rows := List.filter_sublist
    exact ⟨(fewer.map Row.id).nodup unique.ids, (fewer.map Row.key).nodup unique.keys⟩

/-- After a lawful write, the remaining writes are still lawful: none was on its row or key. -/
theorem lawful_applyWrite (lawful : Lawful rows (write :: writes)) :
    Lawful (applyWrite rows write) writes := by
  have rowApart : ∀ other ∈ writes, other.id ≠ write.id := by
    intro other member same
    have distinct := lawful.ids
    rw [List.map_cons, List.nodup_cons] at distinct
    exact distinct.1 (same ▸ List.mem_map_of_mem member)
  have keyApart : ∀ other ∈ writes, other.key ≠ write.key := by
    intro other member same
    have distinct := lawful.keys
    rw [List.map_cons, List.nodup_cons] at distinct
    exact distinct.1 (same ▸ List.mem_map_of_mem member)
  have tail := lawful.sublist (List.sublist_cons_self write writes)
  have stays : ∀ row ∈ rows, row.id ≠ write.id → row ∈ applyWrite rows write :=
    fun row member other => (mem_applyWrite lawful row).mpr (Or.inr ⟨member, other⟩)
  refine ⟨tail.ids, tail.keys, ?_, ?_, ?_⟩
  · intro new member
    have absent := tail.inserts new member
    constructor
    · intro inside
      obtain ⟨row, there, same⟩ := List.mem_map.mp inside
      rcases (mem_applyWrite lawful row).mp there with left | ⟨old, -⟩
      · exact rowApart _ member (same.symm.trans (Write.id_of_version left))
      · exact absent.1 (same ▸ List.mem_map_of_mem old)
    · intro inside
      obtain ⟨row, there, same⟩ := List.mem_map.mp inside
      rcases (mem_applyWrite lawful row).mp there with left | ⟨old, -⟩
      · exact keyApart _ member (same.symm.trans (Write.key_of_version left))
      · exact absent.2 (same ▸ List.mem_map_of_mem old)
  · intro row readAt member
    have present := tail.reads row readAt member
    exact ⟨stays row present.1 (rowApart _ member), present.2⟩
  · intro row member
    exact stays row (tail.deletes row member) (rowApart _ member)

end

/-- A transaction's lawful writes keep the constraints, and leave the writes that others hold
lawful on the new table. -/
theorem lawful_applyWrites {rows : List Row} {writes others : List Write} (unique : Unique rows)
    (lawful : Lawful rows (writes ++ others)) :
    Unique (applyWrites rows writes) ∧ Lawful (applyWrites rows writes) others := by
  induction writes generalizing rows with
  | nil => exact ⟨unique, lawful⟩
  | cons write writes ih =>
    exact ih (unique_applyWrite unique lawful) (lawful_applyWrite lawful)

/-- The rows of the table after lawful writes: the versions they leave, and every row none of
them is on. -/
theorem mem_applyWrites {rows : List Row} {writes : List Write} (unique : Unique rows)
    (lawful : Lawful rows writes) (row : Row) :
    row ∈ applyWrites rows writes ↔
      (∃ write ∈ writes, write.version = some row) ∨
        row ∈ rows ∧ row.id ∉ writes.map Write.id := by
  induction writes generalizing rows with
  | nil => simp [applyWrites]
  | cons write writes ih =>
    have step := ih (unique_applyWrite unique lawful) (lawful_applyWrite lawful)
    have distinct := lawful.ids
    rw [List.map_cons, List.nodup_cons] at distinct
    refine step.trans ?_
    rw [mem_applyWrite lawful]
    constructor
    · rintro (⟨later, member, left⟩ | ⟨left | ⟨old, other⟩, untouched⟩)
      · exact Or.inl ⟨later, List.mem_cons_of_mem _ member, left⟩
      · exact Or.inl ⟨write, List.mem_cons_self, left⟩
      · refine Or.inr ⟨old, ?_⟩
        rw [List.map_cons, List.mem_cons, not_or]
        exact ⟨other, untouched⟩
    · rintro (⟨later, member, left⟩ | ⟨old, untouched⟩)
      · rcases List.mem_cons.mp member with rfl | member
        · exact Or.inr ⟨Or.inl left, Write.id_of_version left ▸ distinct.1⟩
        · exact Or.inl ⟨later, member, left⟩
      · rw [List.map_cons, List.mem_cons, not_or] at untouched
        exact Or.inr ⟨Or.inr ⟨old, untouched.1⟩, untouched.2⟩

namespace Store

/-- The invariant of the database. -/
structure Consistent (store : Store) : Prop where
  /-- The constraints of the table hold. -/
  unique : Unique store.rows
  /-- All uncommitted writes, of all sessions, may be applied together. -/
  locks : Lawful store.rows (store.held.map Prod.snd)
  /-- Every row was inserted, and only its `read_at` may have changed since. -/
  born : ∀ row ∈ store.rows, ∃ first, .insert first ∈ store.history ∧
    row = { first with readAt := row.readAt }
  /-- An uncommitted insert is of an id no committed write has used. -/
  fresh : ∀ row, .insert row ∈ store.held.map Prod.snd →
    row.id ∉ store.history.map Write.id
  /-- Only open sessions hold locks. -/
  owned : ∀ lock ∈ store.held, store.sessions lock.1 ≠ none

variable {store after : Store}

/-- A database whose table satisfies its constraints starts consistent. -/
theorem start_consistent (table : Notifications) : (start table.rows).Consistent where
  unique := table.unique
  locks := ⟨List.nodup_nil, List.nodup_nil, by simp [start], by simp [start], by simp [start]⟩
  born row member := ⟨row, List.mem_map_of_mem member, rfl⟩
  fresh := by simp [start]
  owned := by simp [start]

/-- The id of a row is one that an insert has used. -/
theorem Consistent.known (consistent : store.Consistent) {row : Row} (member : row ∈ store.rows) :
    row.id ∈ store.history.map Write.id := by
  obtain ⟨first, inserted, same⟩ := consistent.born row member
  have onRow : row.id = (Write.insert first).id := by rw [same]; rfl
  exact onRow ▸ List.mem_map_of_mem inserted

/-- A session's own steps between its locks change nothing here. -/
theorem Consistent.put (consistent : store.Consistent) (sid : Nat) (session : Session) :
    (store.put sid session).Consistent where
  unique := consistent.unique
  locks := consistent.locks
  born := consistent.born
  fresh := consistent.fresh
  owned lock member := by
    by_cases same : lock.1 = sid
    · simp [Store.put, same]
    · simpa [Store.put, same] using consistent.owned lock member

/-- The locks of a session and those of the others. -/
theorem held_perm (store : Store) (sid : Nat) :
    (store.held.map Prod.snd).Perm (store.heldBy sid ++
      (store.held.filter fun lock => lock.1 != sid).map Prod.snd) := by
  have split := (List.filter_append_perm (fun lock : Nat × Write => lock.1 == sid) store.held).symm
  have mapped := split.map Prod.snd
  rw [List.map_append] at mapped
  simpa [Store.heldBy, bne] using mapped

/-- A lock is held by its session. -/
theorem mem_heldBy {sid : Nat} {write : Write} :
    write ∈ store.heldBy sid ↔ (sid, write) ∈ store.held := by
  simp [heldBy]

/-- A write that is lawful on a committed row is on no key that is locked elsewhere, when it is
on a row of its own. -/
theorem own_key {rows : List Row} {writes : List Write} (unique : Unique rows)
    (lawful : Lawful rows writes) {current : Row} (present : current ∈ rows)
    (ownRow : current.id ∉ writes.map Write.id) : current.key ∉ writes.map Write.key := by
  intro taken
  obtain ⟨lock, member, same⟩ := List.mem_map.mp taken
  have elsewhere : lock.row ∈ rows → False := fun there =>
    ownRow (unique.eq_of_key there present same ▸ List.mem_map_of_mem member)
  cases lock with
  | insert new =>
    have onKey : new.key = current.key := same
    exact (lawful.inserts new member).2 (onKey ▸ List.mem_map_of_mem present)
  | setRead old readAt => exact elsewhere (lawful.reads old readAt member).1
  | delete old => exact elsewhere (lawful.deletes old member)

/-- A statement that selects a committed row writes lawfully on it. -/
theorem lawful_write {rows : List Row} {statement : Statement} {current : Row} (now : DateTime)
    (present : current ∈ rows) (selected : statement.selects current = true) :
    Lawful rows [statement.write now current] ∧ (statement.write now current).row = current := by
  have single : ∀ write : Write, ([write].map Write.id).Nodup ∧ ([write].map Write.key).Nodup :=
    fun write => ⟨List.nodup_singleton _, List.nodup_singleton _⟩
  have unread : ∀ readAt, current.readAt = none → Lawful rows [.setRead current readAt] :=
    fun readAt unread => ⟨(single _).1, (single _).2, by simp, by
      rintro row at_ member
      simp only [List.mem_singleton, Write.setRead.injEq] at member
      exact member.1 ▸ ⟨present, unread⟩, by simp⟩
  cases statement with
  | markRead id recipientId =>
    simp only [Statement.selects, Bool.and_eq_true, Option.isNone_iff_eq_none] at selected
    exact ⟨unread _ selected.2, rfl⟩
  | markAllRead readAt recipientId =>
    simp only [Statement.selects, Bool.and_eq_true, Option.isNone_iff_eq_none] at selected
    exact ⟨unread _ selected.1, rfl⟩
  | delete ids recipientId =>
    refine ⟨⟨(single _).1, (single _).2, by simp [Statement.write],
      by simp [Statement.write], ?_⟩, rfl⟩
    rintro row member
    simp only [Statement.write, List.mem_singleton, Write.delete.injEq] at member
    exact member ▸ present
  | _ => simp [Statement.selects] at selected

/-- Nobody else stands on the row or the key of a target that is not blocked. -/
theorem not_blocked {sid : Nat} {target : Row} (free : store.blocked sid target = false) :
    ∀ lock ∈ store.held, lock.1 ≠ sid → lock.2.id ≠ target.id ∧ lock.2.key ≠ target.key := by
  intro lock member other
  simp only [blocked, List.any_eq_false, Bool.and_eq_true, bne_iff_ne, ne_eq, Bool.or_eq_true,
    beq_iff_eq, not_and, not_or] at free
  exact free lock member other

/-- Nobody stands on a row that is not blocked, when the session itself does not. -/
theorem not_held {sid : Nat} {target current : Row} (free : store.blocked sid target = false)
    (same : current.id = target.id)
    (untouched : ¬ ((store.heldBy sid).any fun write => write.id == target.id) = true) :
    current.id ∉ store.held.map (Write.id ∘ Prod.snd) := by
  intro taken
  obtain ⟨lock, member, onRow⟩ := List.mem_map.mp taken
  rw [Function.comp_apply, same] at onRow
  by_cases own : lock.1 = sid
  · apply untouched
    rw [List.any_eq_true]
    exact ⟨lock.2, mem_heldBy.mpr (own ▸ member), by simpa using onRow⟩
  · exact (not_blocked free lock member own).1 onRow

/-- What a visit may add to the locks: nothing, a row whose id and key are free, or a write on a
committed row that nobody holds. -/
theorem visited_cases {sid : Nat} {session : Session} {statement : Statement} {target : Row}
    {writes : List Write} (free : store.blocked sid target = false)
    (written : store.writesAt sid session statement target = some writes) :
    writes = [] ∨
      (writes = [.insert target] ∧ store.conflicts sid target = false ∧
        store.used target.id = false ∧ statement.isWrite = true ∧
        ∀ row, statement.selects row = false) ∨
      ∃ current ∈ store.rows, current.id = target.id ∧ statement.selects current = true ∧
        store.sees session current = true ∧ current.id ∉ store.held.map (Write.id ∘ Prod.snd) ∧
        writes = [statement.write session.now current] := by
  cases statement with
  | insert ids sourceEventId recipientIds template payload link =>
    simp only [writesAt] at written
    split at written
    · exact Or.inl (Option.some.inj written).symm
    · rename_i clear
      split at written
      · contradiction
      · rename_i unused
        exact Or.inr (Or.inl ⟨(Option.some.inj written).symm, Bool.eq_false_iff.mpr clear,
          Bool.eq_false_iff.mpr unused, rfl, fun _ => rfl⟩)
  | _ =>
    simp only [writesAt] at written
    split at written
    · exact Or.inl (Option.some.inj written).symm
    · rename_i current found
      have present := List.mem_of_find?_eq_some found
      have same : current.id = target.id := by simpa using List.find?_some found
      split at written
      · exact Or.inl (Option.some.inj written).symm
      · rename_i untouched
        split at written
        · rename_i reached
          rw [Bool.and_eq_true] at reached
          refine Or.inr (Or.inr ⟨current, present, same, reached.2, reached.1, ?_,
            (Option.some.inj written).symm⟩)
          exact not_held free same untouched
        · exact Or.inl (Option.some.inj written).symm

/-- A visit keeps the database consistent. -/
theorem Consistent.visit {sid : Nat} {session : Session} {statement : Statement} {target : Row}
    {writes : List Write} (consistent : store.Consistent)
    (opened : store.sessions sid ≠ none) (free : store.blocked sid target = false)
    (written : store.writesAt sid session statement target = some writes) :
    (store.lock sid writes).Consistent := by
  have owned : ∀ lock ∈ store.held ++ writes.map (fun write => (sid, write)),
      store.sessions lock.1 ≠ none := by
    intro lock member
    rcases List.mem_append.mp member with old | new
    · exact consistent.owned lock old
    · obtain ⟨write, -, rfl⟩ := List.mem_map.mp new
      exact opened
  rcases visited_cases free written with rfl | ⟨rfl, clear, unused, -⟩ |
    ⟨current, present, same, selected, -, ownRow, rfl⟩
  · simpa [lock] using consistent
  · -- An INSERT: the id is unused and the key is free here, in the table and elsewhere.
    simp only [used, Bool.or_eq_false_iff, List.any_eq_false, beq_iff_eq] at unused
    simp only [conflicts, Bool.or_eq_false_iff, List.any_eq_false, beq_iff_eq] at clear
    have newId : target.id ∉ store.history.map Write.id := fun taken => by
      obtain ⟨write, member, onRow⟩ := List.mem_map.mp taken
      exact unused.1 write member onRow
    have alone : Lawful store.rows [.insert target] := by
      refine ⟨List.nodup_singleton _, List.nodup_singleton _, ?_, by simp, by simp⟩
      rintro row member
      simp only [List.mem_singleton, Write.insert.injEq] at member
      subst member
      constructor
      · intro taken
        obtain ⟨old, there, onRow⟩ := List.mem_map.mp taken
        exact newId (onRow ▸ consistent.known there)
      · intro taken
        obtain ⟨old, there, onKey⟩ := List.mem_map.mp taken
        exact clear.1 old there onKey
    have ownRow : (Write.insert target).id ∉ (store.held.map Prod.snd).map Write.id := by
      rw [List.map_map]
      intro taken
      obtain ⟨lock, member, onRow⟩ := List.mem_map.mp taken
      exact unused.2 lock member onRow
    have ownKey : (Write.insert target).key ∉ (store.held.map Prod.snd).map Write.key := by
      rw [List.map_map]
      intro taken
      obtain ⟨lock, member, onKey⟩ := List.mem_map.mp taken
      by_cases own : lock.1 = sid
      · exact clear.2 lock.2 (mem_heldBy.mpr (own ▸ member)) onKey
      · exact (not_blocked free lock member own).2 onKey
    refine ⟨consistent.unique, ?_, consistent.born, ?_, owned⟩
    · simpa [lock] using consistent.locks.snoc alone ownRow ownKey
    · intro row member
      simp only [lock, List.map_append, List.map_cons, List.map_nil, List.mem_append,
        List.mem_singleton, Write.insert.injEq] at member
      rcases member with old | rfl
      · exact consistent.fresh row old
      · exact newId
  · -- An UPDATE or a DELETE: the committed version, on a row nobody holds.
    obtain ⟨alone, onRow⟩ := lawful_write session.now present selected
    have ownRow' : current.id ∉ (store.held.map Prod.snd).map Write.id := by
      rwa [List.map_map]
    have ownKey := own_key consistent.unique consistent.locks present ownRow'
    refine ⟨consistent.unique, ?_, consistent.born, ?_, owned⟩
    · simpa [lock] using consistent.locks.snoc alone (by rwa [Write.id, onRow])
        (by rwa [Write.key, onRow])
    · intro row member
      simp only [lock, List.map_append, List.map_cons, List.map_nil, List.mem_append,
        List.mem_singleton] at member
      rcases member with old | new
      · exact consistent.fresh row old
      · have absent := alone.inserts row (by simp [new])
        have : row = current := by rw [← onRow, ← new]; rfl
        exact absurd (List.mem_map_of_mem (this ▸ present)) absent.1

/-- Closing a session releases its locks and keeps the others'. -/
theorem Consistent.close (consistent : store.Consistent) (sid : Nat) (operation : Operation)
    (outcome : Outcome) : (store.close sid operation outcome).Consistent where
  unique := consistent.unique
  locks := consistent.locks.sublist (List.filter_sublist.map Prod.snd)
  born := consistent.born
  fresh row member :=
    consistent.fresh row ((List.filter_sublist.map Prod.snd).subset member)
  owned lock member := by
    have kept : lock ∈ store.held ∧ lock.1 ≠ sid := by simpa [Store.close] using member
    simpa [Store.close, kept.2] using consistent.owned lock kept.1

/-- What a session holds at its commit is lawful together with what the others hold. -/
theorem Consistent.lawful_split (consistent : store.Consistent) (sid : Nat) :
    Lawful store.rows (store.heldBy sid ++
      (store.held.filter fun lock => lock.1 != sid).map Prod.snd) :=
  consistent.locks.perm (held_perm store sid)

/-- What a session holds is lawful. -/
theorem Consistent.lawful (consistent : store.Consistent) (sid : Nat) :
    Lawful store.rows (store.heldBy sid) :=
  (consistent.lawful_split sid).sublist (List.sublist_append_left _ _)

/-- A commit keeps the database consistent. -/
theorem Consistent.commit (consistent : store.Consistent) (sid : Nat) (operation : Operation)
    (outcome : Outcome) (queued : List NotificationSignal) :
    ((store.publish sid queued).close sid operation outcome).Consistent := by
  have split := consistent.lawful_split sid
  have applied := lawful_applyWrites consistent.unique split
  refine ⟨applied.1, applied.2, ?_, ?_, (consistent.close sid operation outcome).owned⟩
  · intro row member
    have earlier : ∀ old ∈ store.rows, ∃ first,
        .insert first ∈ store.history ++ store.heldBy sid ∧
          old = { first with readAt := old.readAt } := fun old there => by
      obtain ⟨first, inserted, same⟩ := consistent.born old there
      exact ⟨first, List.mem_append_left _ inserted, same⟩
    rcases (mem_applyWrites consistent.unique (consistent.lawful sid) row).mp member with
      ⟨write, held, left⟩ | ⟨old, -⟩
    · cases write with
      | insert new =>
        obtain rfl := Option.some.inj left
        exact ⟨new, List.mem_append_right _ held, rfl⟩
      | setRead old readAt =>
        obtain ⟨first, inserted, same⟩ :=
          earlier old ((consistent.lawful sid).reads old readAt held).1
        obtain rfl := Option.some.inj left
        exact ⟨first, inserted, by rw [same]⟩
      | delete old => contradiction
    · exact earlier row old
  · intro row member taken
    change row.id ∈ (store.history ++ store.heldBy sid).map Write.id at taken
    rw [List.map_append, List.mem_append] at taken
    rcases taken with old | own
    · exact (consistent.close sid operation outcome).fresh row member old
    · -- Two sessions would hold a lock on one id.
      have distinct := split.ids
      rw [List.map_append, List.nodup_append] at distinct
      exact distinct.2.2 _ own _ (List.mem_map_of_mem member) rfl

/-- Every step keeps the database consistent. -/
theorem consistent_step {action : Action} (consistent : store.Consistent)
    (stepped : store.step action = some after) : after.Consistent := by
  cases moves_of_step stepped with
  | begin idle unused => exact consistent.put _ _
  | reply found at_ reads => exact consistent.put _ _
  | scan found at_ writes => exact consistent.put _ _
  | visit found at_ aimed free written =>
    have opened := consistent.visit (by simp [found]) free written
    exact opened.put _ _
  | finish found at_ => exact consistent.put _ _
  | commit found at_ => exact consistent.commit _ _ _ _
  | rollback found => exact consistent.close _ _ _

end Store

end SvcNotifier
