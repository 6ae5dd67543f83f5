import SvcNotifier.Changes
import SvcNotifier.Library.Lifecycle
import Mathlib.Data.List.Induction

/-!
# What the committed signals tell

A transaction that commits announces exactly what it changed, and one that does not commit
changes and announces nothing. Over a whole run, the committed signals that name a
notification tell its life: added, perhaps read, deleted, each once and in that order, however
the transactions overlap.
-/

namespace SvcNotifier

open Library Program

/-- A transaction that can no longer commit: it has been rolled back, a statement has failed, or
its function has returned an error. -/
def Store.Abandoned (store : Store) (sid : Nat) : Prop :=
  (∃ operation, store.outcomes sid = some (operation, .rolledBack)) ∨
    ∃ session, store.sessions sid = some session ∧
      ((∃ error, session.stage = .ready (.fail error)) ∨
        ∃ error, session.stage = .ready (.done (.rollback error)))

/-- Only a session whose function has returned its answer commits. -/
theorem Store.Sound.no_commit {initial : List Row} {store : Store} {sid : Nat}
    (sound : Store.Sound initial store) (abandoned : store.Abandoned sid) :
    store.step (.commit sid) = none := by
  cases stepped : store.step (.commit sid) with
  | none => rfl
  | some after =>
    cases Store.moves_of_step stepped with
    | commit found at_ =>
      rcases abandoned with ⟨operation, ended⟩ | ⟨session, open_, failed⟩
      · have idle := sound.pending sid (by simp [found])
        simp [ended] at idle
      · obtain rfl := Option.some.inj (found.symm.trans open_)
        rw [at_] at failed
        rcases failed with ⟨error, same⟩ | ⟨error, same⟩
        · simp at same
        · simp at same

/-- An abandoned transaction stays abandoned. -/
theorem Store.Sound.abandoned_step {initial : List Row} {store after : Store} {sid : Nat}
    {action : Store.Action} (sound : Store.Sound initial store) (abandoned : store.Abandoned sid)
    (stepped : store.step action = some after) : after.Abandoned sid := by
  rcases abandoned with ⟨operation, ended⟩ | ⟨session, open_, failed⟩
  · exact Or.inl ⟨operation, Store.outcomes_kept sound stepped ended⟩
  obtain ⟨acted, turn, others⟩ := Store.turn_of_step stepped
  by_cases here : sid = acted
  · subst here
    -- A failed program has no next statement and no answer: it can only be rolled back.
    cases turn with
    | opens asked idle => simp [open_] at idle
    | goesOn found unfailed unreturned =>
      obtain rfl := Option.some.inj (open_.symm.trans found)
      rcases failed with ⟨error, at_⟩ | ⟨error, at_⟩
      · exact absurd at_ (unfailed error)
      · exact absurd at_ (unreturned _)
    | commits asked found at_ =>
      obtain rfl := Option.some.inj (open_.symm.trans found)
      simp [at_] at failed
    | @rollsBack other asked found left ended => exact Or.inl ⟨other.operation, ended⟩
  · exact Or.inr ⟨session, (others sid here).1.trans open_, failed⟩

/-- Writes and announcements agree exactly: a commit appends to the log signals that state the
change of the table it makes, no other step changes table or log, and an abandoned transaction
never commits, from whatever table the run started and whatever runs beside it. -/
theorem writes_and_announcements_agree (table : Notifications) (store : Store)
    (reached : Store.Reachable table store) :
    (∀ sid after, store.step (.commit sid) = some after →
      ∃ signals, after.log = store.log ++ signals ∧ Agree store.rows after.rows signals) ∧
    (∀ action after, store.step action = some after → (∀ sid, action ≠ .commit sid) →
      after.rows = store.rows ∧ after.log = store.log) ∧
    ∀ sid, store.Abandoned sid → ∀ later, Reaches Store.step anyStep store later →
      later.Abandoned sid ∧ later.step (.commit sid) = none := by
  have sound := reached.sound
  refine ⟨?_, ?_, ?_⟩
  · intro sid after stepped
    obtain ⟨writes, signals, applies, -⟩ := Store.applies_of_step sound stepped
    refine ⟨signals, applies.log, ?_⟩
    rw [applies.rows]
    exact agree_of_announces sound.consistent.unique applies.lawful applies.announces
  · intro action after stepped other
    obtain ⟨writes, signals, applies, ⟨sid, commits⟩ | ⟨rfl, rfl⟩⟩ :=
      Store.applies_of_step sound stepped
    · exact absurd commits (other sid)
    · exact ⟨applies.rows, applies.log.trans (List.append_nil _)⟩
  · intro sid abandoned later run
    have keeps : ∀ (s : Store) (a : Store.Action) (t : Store),
        Store.Sound table.rows s ∧ s.Abandoned sid → anyStep s a → s.step a = some t →
        Store.Sound table.rows t ∧ t.Abandoned sid := by
      rintro s a t ⟨sound, abandoned⟩ - stepped
      exact ⟨Store.sound_step sound stepped, sound.abandoned_step abandoned stepped⟩
    have kept := run.invariant keeps ⟨sound, abandoned⟩
    exact ⟨kept.2, kept.1.no_commit kept.2⟩

/-- A command that names one of its two recipients twice. -/
def sampleCommand : DeliverNotification :=
  { sourceEventId := sampleId 1, recipientIds := [sampleId 2, sampleId 3, sampleId 2],
    template := "welcome", payload := .null, link := none }

/-- The fan-out of `sampleCommand`, up to its commit. -/
def sampleFanOut : List Store.Action :=
  [.begin 0 (.fanOut (fun i => sampleId (i + 10)) sampleCommand) ⟨0⟩, .advance 0, .visit 0 0,
    .visit 0 0, .visit 0 0, .finish 0, .advance 0]

/-- The database `sampleFanOut` leads to. -/
def sampleFanOutDone : Store :=
  (play Store.step (Store.start []) sampleFanOut).get (by decide)

/-- The fan-out is reached from the empty table. -/
theorem sampleFanOut_reached : Store.Reachable .empty sampleFanOutDone :=
  reaches_of_play (Option.some_get _).symm

/-- The database once it has committed. -/
def sampleFanOutCommitted : Store := (sampleFanOutDone.step (.commit 0)).get (by decide)

/-- The fan-out commits with the two signals of its two rows. -/
theorem writes_and_announcements_agree_sample :
    ∃ signals, sampleFanOutCommitted.log = sampleFanOutDone.log ++ signals ∧
      Agree sampleFanOutDone.rows sampleFanOutCommitted.rows signals ∧
      sampleFanOutCommitted.log =
        [.added (sampleId 2) (sampleId 10), .added (sampleId 3) (sampleId 11)] := by
  have stepped : sampleFanOutDone.step (.commit 0) = some sampleFanOutCommitted :=
    (Option.some_get _).symm
  obtain ⟨signals, log, agree⟩ :=
    (writes_and_announcements_agree .empty sampleFanOutDone sampleFanOut_reached).1 0 _ stepped
  exact ⟨signals, log, agree, by decide⟩

/-! ## The life of a notification -/

/-- Where a notification stands in its life. -/
inductive Status where
  /-- It has never been there. -/
  | absent
  /-- It is there, unread. -/
  | unread
  /-- It is there, read. -/
  | read
  /-- It has been removed. -/
  | gone
  deriving DecidableEq, Repr

/-- The life of a notification: it is added, may be read, and is deleted for good. -/
def notificationLifecycle : Lifecycle Status FactKind where
  start := .absent
  next
    | .absent, .added => some .unread
    | .unread, .read => some .read
    | .unread, .deleted => some .gone
    | .read, .deleted => some .gone
    | _, _ => none

/-- What the committed signals say of a notification, oldest first. -/
def Store.told (store : Store) (id : Uuid) : List FactKind :=
  about id ((store.log.flatMap NotificationSignal.facts).map fun fact => (fact.kind, fact.id))

/-- Where a row stands, if its id was ever used. -/
def Store.status (store : Store) (id : Uuid) : Status :=
  match rowOf store.rows id with
  | some row => if row.readAt.isNone then .unread else .read
  | none => if id ∈ store.history.map Write.id then .gone else .absent

/-- What has happened to a notification of a status. -/
def Status.Told : Status → List FactKind → Prop
  | .absent, kinds => kinds = []
  | .unread, kinds => kinds = [.added]
  | .read, kinds => kinds = [.added, .read]
  | .gone, kinds => kinds = [.added, .read, .deleted] ∨ kinds = [.added, .deleted]

/-- The kinds of fact that lead to a status are its own. -/
theorem told_of_after {kinds : List FactKind} {status : Status}
    (after : notificationLifecycle.after kinds = some status) : status.Told kinds := by
  induction kinds using List.reverseRecOn generalizing status with
  | nil =>
    obtain rfl := Option.some.inj after
    rfl
  | append_singleton kinds kind ih =>
    rw [Lifecycle.after_snoc] at after
    obtain ⟨earlier, before, moved⟩ := Option.bind_eq_some_iff.mp after
    have stood := ih before
    -- One case for each move of the life cycle.
    cases earlier <;> cases kind <;> try contradiction
    all_goals
      obtain rfl := Option.some.inj moved
      simp only [Status.Told] at stood ⊢
      simp [stood]

/-- The committed writes tell where every row stands. -/
def Store.Chronicled (store : Store) : Prop :=
  notificationLifecycle.Tells (store.history.map fun write => (write.kind, write.id)) store.status

namespace Store

variable {store after : Store} {initial : List Row}

/-- From the empty table, the log states every committed write. -/
theorem Sound.log_facts (sound : Sound [] store) :
    store.log.flatMap NotificationSignal.facts = store.history.map Write.fact := by
  obtain ⟨made, history, log, -⟩ := sound.attributed
  rw [log, history, List.map_nil, List.nil_append]

/-- The log of a chronicled database tells the life of every notification. -/
theorem Chronicled.after_told (chronicled : store.Chronicled) (sound : Sound [] store)
    (id : Uuid) : notificationLifecycle.after (store.told id) = some (store.status id) := by
  have same : store.told id = about id (store.history.map fun write => (write.kind, write.id)) := by
    rw [told, sound.log_facts, List.map_map]
    rfl
  rw [same]
  exact chronicled id

/-- A step tells of a notification what its writes do to it. -/
theorem Applies.told_append {writes : List Write} {queued : List NotificationSignal}
    (applies : store.Applies writes queued after) (id : Uuid) :
    after.told id =
      store.told id ++ about id (writes.map fun write => (write.kind, write.id)) := by
  rw [told, told, applies.log, List.flatMap_append, List.map_append, about_append,
    applies.announces.facts, List.map_map]
  rfl

/-- No two writes of a step are on one row, so a step tells one thing of a row it writes. -/
theorem Applies.about_write {writes : List Write} {queued : List NotificationSignal}
    (applies : store.Applies writes queued after) {write : Write} (member : write ∈ writes) :
    about write.id (writes.map fun write => (write.kind, write.id)) = [write.kind] := by
  refine about_eq_singleton ?_ (List.mem_map_of_mem member)
  rw [List.map_map]
  exact applies.lawful.ids

/-- The status a write leaves its row in is the one its kind leads to. -/
theorem status_of_write {writes : List Write} {queued : List NotificationSignal}
    (unique : Unique store.rows) (applies : store.Applies writes queued after) {write : Write}
    (member : write ∈ writes) :
    notificationLifecycle.next (store.status write.id) write.kind =
      some (after.status write.id) := by
  have was := rowOf_previous unique applies.lawful member
  have now := rowOf_version unique applies.lawful member
  rw [← applies.rows] at now
  have used : write.id ∈ after.history.map Write.id := by
    rw [applies.history, List.map_append, List.mem_append]
    exact Or.inr (List.mem_map_of_mem member)
  cases write with
  | insert row =>
    have fresh := applies.fresh row member
    simp only [Write.id, Write.row, Write.previous, Write.version] at was now fresh ⊢
    simp [status, was, now, fresh, notificationLifecycle, Write.kind]
  | setRead row readAt =>
    have unread := (applies.lawful.reads row readAt member).2
    simp only [Write.id, Write.row, Write.previous, Write.version] at was now ⊢
    simp [status, was, now, unread, notificationLifecycle, Write.kind]
  | delete row =>
    simp only [Write.id, Write.row, Write.previous, Write.version] at was now used ⊢
    cases read : row.readAt <;>
      simp [status, was, now, used, read, notificationLifecycle, Write.kind]

/-- A row no write is on keeps its status. -/
theorem status_unnamed {writes : List Write} {queued : List NotificationSignal}
    (unique : Unique store.rows) (applies : store.Applies writes queued after) {id : Uuid}
    (unnamed : id ∉ writes.map Write.id) : after.status id = store.status id := by
  have same := rowOf_unnamed unique applies.lawful unnamed
  simp only [status, applies.rows, applies.history, same, List.map_append, List.mem_append,
    unnamed, or_false]

/-- Every step keeps the database chronicled. -/
theorem chronicled_step {action : Action} (sound : Sound initial store)
    (chronicled : store.Chronicled) (stepped : store.step action = some after) :
    after.Chronicled := by
  obtain ⟨writes, queued, applies, -⟩ := applies_of_step sound stepped
  have unique := sound.consistent.unique
  rw [Chronicled, applies.history, List.map_append]
  refine Lifecycle.Tells.extend chronicled ?_ ?_ ?_
  · rw [List.map_map]
    exact applies.lawful.ids
  · intro kind id member
    obtain ⟨write, inside, same⟩ := List.mem_map.mp member
    obtain ⟨rfl, rfl⟩ := Prod.mk.inj same
    exact status_of_write unique applies inside
  · intro id unnamed
    rw [List.map_map] at unnamed
    exact status_unnamed unique applies unnamed

/-- A database reached from the empty table is chronicled. -/
theorem Reachable.chronicled (reached : Reachable .empty store) : store.Chronicled := by
  have keeps : ∀ (s : Store) (a : Action) (t : Store), Sound [] s ∧ s.Chronicled → anyStep s a →
      s.step a = some t → Sound [] t ∧ t.Chronicled := by
    rintro s a t ⟨sound, chronicled⟩ - stepped
    exact ⟨sound_step sound stepped, chronicled_step sound chronicled stepped⟩
  have begun : (start []).Chronicled := Lifecycle.Tells.start
  exact (Reaches.invariant reached keeps ⟨start_sound .empty, begun⟩).2

end Store

/-- The announcement protocol: at every moment of every interleaving, what the committed
signals say of a notification is a prefix of added, read, deleted or of added, deleted; it
tells where the row stands in the table; and every step adds exactly what it did to the row. -/
theorem announcement_protocol (store : Store) (reached : Store.Reachable .empty store)
    (id : Uuid) :
    (store.told id <+: [.added, .read, .deleted] ∨ store.told id <+: [.added, .deleted]) ∧
    (match rowOf store.rows id with
      | some row => store.told id = if row.readAt.isNone then [.added] else [.added, .read]
      | none => store.told id = [] ∨ .deleted ∈ store.told id) ∧
    ∀ action after, store.step action = some after →
      after.told id = store.told id ++ changeOf (rowOf store.rows id) (rowOf after.rows id) := by
  have sound := reached.sound
  have life := told_of_after (reached.chronicled.after_told sound id)
  refine ⟨?_, ?_, ?_⟩
  · cases stands : store.status id with
    | absent =>
      rw [stands] at life
      exact Or.inl (life ▸ List.nil_prefix)
    | unread =>
      rw [stands] at life
      exact Or.inl (life ▸ by decide)
    | read =>
      rw [stands] at life
      exact Or.inl (life ▸ by decide)
    | gone =>
      rw [stands] at life
      rcases life with told | told
      · exact Or.inl (told ▸ List.prefix_rfl)
      · exact Or.inr (told ▸ List.prefix_rfl)
  · cases stands : rowOf store.rows id with
    | some row =>
      cases readAt : row.readAt <;> simpa [Store.status, Status.Told, stands, readAt] using life
    | none =>
      by_cases used : id ∈ store.history.map Write.id
      · have gone : store.status id = .gone := by
          rw [Store.status, stands]
          exact if_pos used
        rw [gone] at life
        rcases life with told | told
        · exact Or.inr (told ▸ by decide)
        · exact Or.inr (told ▸ by decide)
      · have absent : store.status id = .absent := by
          rw [Store.status, stands]
          exact if_neg used
        rw [absent] at life
        exact Or.inl life
  · intro action after stepped
    obtain ⟨writes, queued, applies, -⟩ := Store.applies_of_step sound stepped
    have unique := sound.consistent.unique
    rw [applies.told_append, List.append_cancel_left_eq]
    by_cases named : id ∈ writes.map Write.id
    · obtain ⟨write, member, rfl⟩ := List.mem_map.mp named
      rw [applies.about_write member, applies.rows, rowOf_previous unique applies.lawful member,
        rowOf_version unique applies.lawful member, changeOf_write applies.lawful member]
    · rw [applies.rows, rowOf_unnamed unique applies.lawful named, changeOf_self]
      refine about_eq_nil ?_
      rwa [List.map_map]

/-- One recipient marks, bulk-marks and deletes the same notification at once: all three take
their snapshot while it is unread, then write in turn. -/
def sampleOverlap : List Store.Action :=
  sampleFanOut ++ [.commit 0,
    .begin 1 (.markAsRead (sampleId 2) (sampleId 10)) ⟨1000⟩,
    .begin 2 (.markAllAsRead ⟨1500⟩ (sampleId 2)) ⟨1000⟩,
    .begin 3 (.deleteNotification (sampleId 2) (sampleId 10)) ⟨1000⟩,
    .advance 1, .advance 2, .advance 3, .advance 1, .advance 2, .advance 3,
    .visit 1 0, .finish 1, .advance 1, .commit 1,
    .visit 2 0, .finish 2, .commit 2,
    .visit 3 0, .finish 3, .advance 3, .commit 3]

/-- The database `sampleOverlap` leads to. -/
def sampleOverlapDone : Store := (play Store.step (Store.start []) sampleOverlap).get (by decide)

/-- The notification is announced once as added, once as read and once as deleted. -/
theorem announcement_protocol_sample :
    (sampleOverlapDone.told (sampleId 10) <+: [.added, .read, .deleted] ∨
      sampleOverlapDone.told (sampleId 10) <+: [.added, .deleted]) ∧
    sampleOverlapDone.told (sampleId 10) = [.added, .read, .deleted] :=
  ⟨(announcement_protocol sampleOverlapDone (reaches_of_play (Option.some_get _).symm)
    (sampleId 10)).1, by decide⟩

end SvcNotifier
