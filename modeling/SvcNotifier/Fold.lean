import SvcNotifier.Walk

/-!
# The client's fold, id by id

What the events of a stream do to a snapshot is told id by id: each fact about an id is one
change to what the client knows of it. A snapshot may be newer than some of the events folded
into it and older than others. It converges because an id's life is short: whatever the client
has seen of it on the way, the facts since its stream was opened end where the row stands.
-/

namespace SvcNotifier

open Library Program

/-- What a fact about an id does to what the client knows of it. -/
inductive Change where
  /-- Added: with whether it was shown as read, or with its row gone by the re-read. -/
  | added (shown : Option Bool)
  /-- Read. -/
  | read
  /-- Deleted. -/
  | deleted

namespace Change

/-- The kind of the fact. -/
def kind : Change → FactKind
  | .added _ => .added
  | .read => .read
  | .deleted => .deleted

/-- What the client knows of the id afterwards. -/
def apply (known : Option Bool) : Change → Option Bool
  | .added shown => known.or shown
  | .read => known.map fun _ => true
  | .deleted => none

end Change

/-- What an `Added` shows of its notification. -/
def Fate.shown : Fate → Option Bool
  | .sent (.added notification) => some notification.readAt.isSome
  | _ => none

/-- The changes a dispatched signal makes to what the client knows of an id. -/
def Dispatched.changes (entry : Dispatched) (id : Uuid) : List Change :=
  match entry.signal with
  | .added _ added => if added = id then [.added entry.fate.shown] else []
  | .read _ ids _ => (ids.filter fun named => named = id).map fun _ => .read
  | .deleted _ ids => (ids.filter fun named => named = id).map fun _ => .deleted

/-- An `Added` changes what is known of its own id. -/
theorem changes_added (recipientId added id : Uuid) (fate : Fate) (rows : List Row) :
    Dispatched.changes ⟨.added recipientId added, fate, rows⟩ id =
      if added = id then [.added fate.shown] else [] := rfl

/-- A `Read` changes what is known of an id each time it names it. -/
theorem changes_read (recipientId id : Uuid) (ids : List Uuid) (readAt : DateTime) (fate : Fate)
    (rows : List Row) :
    Dispatched.changes ⟨.read recipientId ids readAt, fate, rows⟩ id =
      List.replicate (ids.filter fun named => named = id).length .read :=
  List.map_const' ..

/-- A `Deleted` changes what is known of an id each time it names it. -/
theorem changes_deleted (recipientId id : Uuid) (ids : List Uuid) (fate : Fate) (rows : List Row) :
    Dispatched.changes ⟨.deleted recipientId ids, fate, rows⟩ id =
      List.replicate (ids.filter fun named => named = id).length .deleted :=
  List.map_const' ..

/-- A signal changes what is known of an id by the facts it states about it. -/
theorem Dispatched.kinds_of_changes (entry : Dispatched) (id : Uuid) :
    (entry.changes id).map Change.kind =
      about id (entry.signal.facts.map fun fact => (fact.kind, fact.id)) := by
  obtain ⟨signal, fate, rows⟩ := entry
  cases signal with
  | added recipientId added =>
    rw [changes]
    by_cases own : added = id
    · simp [about, NotificationSignal.facts, own, Change.kind]
    · simp [about, NotificationSignal.facts, own]
  | read recipientId ids readAt =>
    simp only [changes, NotificationSignal.facts, about, List.map_map, List.filter_map]
    rfl
  | deleted recipientId ids =>
    simp only [changes, NotificationSignal.facts, about, List.map_map, List.filter_map]
    rfl

/-- Dispatched signals change what is known of an id by all they say of it. -/
theorem kinds_of_all (entries : List Dispatched) (id : Uuid) :
    (entries.flatMap fun entry => entry.changes id).map Change.kind =
      Store.toldBy (entries.map Dispatched.signal) id := by
  induction entries with
  | nil => rfl
  | cons entry entries ih =>
    rw [List.flatMap_cons, List.map_append, ih, entry.kinds_of_changes]
    have one : Store.toldBy [entry.signal] id =
        about id (entry.signal.facts.map fun fact => (fact.kind, fact.id)) := by
      rw [Store.toldBy, List.flatMap_singleton]
    rw [← one]
    exact (Store.toldBy_append [entry.signal] _ id).symm

/-- The changes that add an id are of an `Added` for it, with what it shows. -/
theorem added_of_changes {entry : Dispatched} {id : Uuid} {shown : Option Bool}
    (inside : .added shown ∈ entry.changes id) :
    (∃ recipientId, entry.signal = .added recipientId id) ∧ shown = entry.fate.shown := by
  obtain ⟨signal, fate, rows⟩ := entry
  cases signal with
  | added recipientId added =>
    rw [changes_added] at inside
    by_cases own : added = id
    · rw [if_pos own, List.mem_singleton] at inside
      rw [own]
      exact ⟨⟨recipientId, rfl⟩, Change.added.inj inside⟩
    · rw [if_neg own] at inside
      cases inside
  | read recipientId ids readAt =>
    rw [changes_read] at inside
    have other := List.eq_of_mem_replicate inside
    contradiction
  | deleted recipientId ids =>
    rw [changes_deleted] at inside
    have other := List.eq_of_mem_replicate inside
    contradiction

/-- Marking read once or more is marking read. -/
theorem apply_reads (known : Option Bool) (count : Nat) :
    (List.replicate count Change.read).foldl Change.apply known =
      if 0 < count then known.map fun _ => true else known := by
  induction count generalizing known with
  | zero => rfl
  | succ count ih =>
    rw [List.replicate_succ, List.foldl_cons, ih, if_pos (Nat.succ_pos count)]
    split
    · cases known <;> rfl
    · rfl

/-- Removing once or more is removing. -/
theorem apply_deletes (known : Option Bool) (count : Nat) :
    (List.replicate count Change.deleted).foldl Change.apply known =
      if 0 < count then none else known := by
  induction count generalizing known with
  | zero => rfl
  | succ count ih =>
    rw [List.replicate_succ, List.foldl_cons, ih, if_pos (Nat.succ_pos count)]
    split
    · rfl
    · rfl

/-- Folding in the event of a signal makes the signal's changes. -/
theorem known_sent {entry : Dispatched} {event : ClientEvent} (sent : entry.fate = .sent event)
    (accounted : entry.Accounted) (nodes : List NotificationNode) (id : Uuid) :
    known (foldEvent nodes (intoUnion event)) id =
      (entry.changes id).foldl Change.apply (known nodes id) := by
  obtain ⟨signal, fate, rows⟩ := entry
  obtain rfl : fate = .sent event := sent
  have tells : signal.Tells event := accounted
  cases event with
  | added notification =>
    cases signal with
    | added recipientId added =>
      obtain rfl : notification.id = added := tells
      have same : (NotificationNode.from notification).id = notification.id := rfl
      rw [intoUnion, known_added, same, changes_added]
      by_cases own : notification.id = id
      · rw [if_pos own, if_pos own]
        rfl
      · rw [if_neg own, if_neg own]
        rfl
    | _ => exact False.elim tells
  | read ids readAt =>
    cases signal with
    | read recipientId named at_ =>
      obtain ⟨rfl, rfl⟩ := tells
      rw [intoUnion, known_read, changes_read, apply_reads]
      simp only [List.length_pos_iff_exists_mem, List.mem_filter, decide_eq_true_eq,
        exists_eq_right]
    | _ => exact False.elim tells
  | deleted ids =>
    cases signal with
    | deleted recipientId named =>
      obtain rfl := tells
      rw [intoUnion, known_deleted, changes_deleted, apply_deletes]
      simp only [List.length_pos_iff_exists_mem, List.mem_filter, decide_eq_true_eq,
        exists_eq_right]
    | _ => exact False.elim tells

/-- A signal whose row was gone changes nothing. -/
theorem changes_gone {entry : Dispatched} (gone : entry.fate = .gone) (accounted : entry.Accounted)
    (base : Option Bool) (id : Uuid) : (entry.changes id).foldl Change.apply base = base := by
  obtain ⟨signal, fate, rows⟩ := entry
  obtain rfl : fate = .gone := gone
  obtain ⟨recipientId, added, isAdded, -⟩ := accounted
  obtain rfl : signal = .added recipientId added := isAdded
  rw [changes_added]
  split
  · exact Option.or_none
  · rfl

/-- Folding in what dispatched signals come to makes the changes of them all. -/
theorem known_of_reckoned {entries : List Dispatched}
    (accounted : ∀ entry ∈ entries, entry.Accounted) (whole : broken entries = false)
    (nodes : List NotificationNode) (id : Uuid) :
    known (folded nodes ((reckoned entries).map intoUnion)) id =
      (entries.flatMap fun entry => entry.changes id).foldl Change.apply (known nodes id) := by
  induction entries generalizing nodes with
  | nil => rfl
  | cons entry entries ih =>
    rw [List.forall_mem_cons] at accounted
    rw [List.flatMap_cons, List.foldl_append]
    cases fate : entry.fate with
    | sent event =>
      have rest : broken entries = false := by
        rw [broken, fate] at whole
        exact whole
      rw [reckoned, fate, ← known_sent fate accounted.1, ← ih accounted.2 rest]
      rfl
    | gone =>
      have rest : broken entries = false := by
        rw [broken, fate] at whole
        exact whole
      rw [reckoned, fate, changes_gone fate accounted.1, ← ih accounted.2 rest]
    | _ =>
      rw [broken, fate] at whole
      contradiction

/-- Folding keeps a snapshot without two nodes of one id. -/
theorem folded_distinct {nodes : List NotificationNode}
    (distinct : (nodes.map NotificationNode.id).Nodup)
    (events : List NotifierNotificationEvent) :
    ((folded nodes events).map NotificationNode.id).Nodup := by
  induction events generalizing nodes with
  | nil => exact distinct
  | cons event events ih =>
    apply ih
    cases event with
    | notificationAdded notification =>
      rw [foldEvent]
      by_cases there : (nodes.any fun node => node.id == notification.id) = true
      · rw [if_pos there]
        exact distinct
      · rw [if_neg there, List.map_append]
        apply distinct.append (List.nodup_singleton _)
        intro id held new
        obtain ⟨node, member, same⟩ := List.mem_map.mp held
        have isNew : id = notification.id := List.mem_singleton.mp new
        apply there
        exact List.any_eq_true.mpr ⟨node, member, beq_iff_eq.mpr (same.trans isNew)⟩
    | notificationsRead ids readAt =>
      have same : (foldEvent nodes (.notificationsRead ids readAt)).map NotificationNode.id =
          nodes.map NotificationNode.id := by
        rw [foldEvent, List.map_map]
        apply List.map_congr_left
        intro node member
        show (if node.id ∈ ids then { node with readAt := some readAt } else node).id = node.id
        split <;> rfl
      rw [same]
      exact distinct
    | notificationsDeleted ids => exact (List.filter_sublist.map _).nodup distinct

/-! ## The life of an id since the stream was opened -/

/-- Changes that add nothing are told by their kinds. -/
theorem changes_of_kinds {changes plain : List Change}
    (same : changes.map Change.kind = plain.map Change.kind)
    (adds : .added ∉ plain.map Change.kind) : changes = plain := by
  induction plain generalizing changes with
  | nil => exact List.map_eq_nil_iff.mp same
  | cons change plain ih =>
    rw [List.map_cons, List.mem_cons, not_or] at adds
    obtain ⟨other, rest, rfl, kind, kinds⟩ := List.map_eq_cons_iff.mp same
    have one : other = change := by
      cases other <;> cases change <;> first | rfl | contradiction | exact absurd rfl adds.1
    rw [one, ih kinds adds.2]

/-- The facts since the stream was opened lead from where the row stood to where it stands. What
the snapshot holds of it, and what an `Added` showed of it, is of a time on the way; and unless
it was added on the way, a row that is there is in the snapshot. Then the changes leave what
should be known of it. -/
theorem known_of_changes {base : Option Bool} {changes : List Change} {first last : Status}
    (followed : notificationLifecycle.follow first (changes.map Change.kind) = some last)
    (seen : ∀ read, base = some read →
      ∃ status ∈ notificationLifecycle.trail first (changes.map Change.kind),
        status.known = some read)
    (complete : last.known ≠ none → .added ∉ changes.map Change.kind → base ≠ none)
    (shown : ∀ read, .added (some read) ∈ changes →
      ∃ status ∈ notificationLifecycle.trail first (changes.map Change.kind),
        status.known = some read)
    (unshown : .added none ∈ changes →
      .gone ∈ notificationLifecycle.trail first (changes.map Change.kind)) :
    changes.foldl Change.apply base = last.known := by
  cases first with
  | gone =>
    obtain ⟨kinds, rfl⟩ := follow_gone followed
    obtain rfl : changes = [] := changes_of_kinds kinds (by decide)
    cases base with
    | none => rfl
    | some read => simpa [Lifecycle.trail, Status.known] using seen read rfl
  | read =>
    rcases follow_read followed with ⟨kinds, rfl⟩ | ⟨kinds, rfl⟩
    · obtain rfl : changes = [] := changes_of_kinds kinds (by decide)
      cases base with
      | none => exact absurd rfl (complete (by decide) (by decide))
      | some read => simpa [Lifecycle.trail, Status.known, eq_comm] using seen read rfl
    · obtain rfl : changes = [.deleted] := changes_of_kinds kinds (by decide)
      rfl
  | unread =>
    rcases follow_unread followed with ⟨kinds, rfl⟩ | ⟨kinds, rfl⟩ | ⟨rfl, kinds | kinds⟩
    · obtain rfl : changes = [] := changes_of_kinds kinds (by decide)
      cases base with
      | none => exact absurd rfl (complete (by decide) (by decide))
      | some read => simpa [Lifecycle.trail, Status.known, eq_comm] using seen read rfl
    · obtain rfl : changes = [.read] := changes_of_kinds kinds (by decide)
      cases base with
      | none => exact absurd rfl (complete (by decide) (by decide))
      | some read => rfl
    · obtain rfl : changes = [.deleted] := changes_of_kinds kinds (by decide)
      rfl
    · obtain rfl : changes = [.read, .deleted] := changes_of_kinds kinds (by decide)
      rfl
  | absent =>
    rcases follow_absent followed with ⟨kinds, rfl⟩ | ⟨rest, kinds, later⟩
    · obtain rfl : changes = [] := changes_of_kinds kinds (by decide)
      cases base with
      | none => rfl
      | some read => simpa [Lifecycle.trail, Status.known] using seen read rfl
    · obtain ⟨change, tail, rfl, isAdded, same⟩ := List.map_eq_cons_iff.mp kinds
      obtain ⟨found, rfl⟩ : ∃ found, change = .added found := by
        cases change with
        | added found => exact ⟨found, rfl⟩
        | _ => contradiction
      rw [List.foldl_cons]
      rcases follow_unread later with ⟨rfl, rfl⟩ | ⟨rfl, rfl⟩ | ⟨rfl, rfl | rfl⟩
      · obtain rfl : tail = [] := changes_of_kinds same (by decide)
        cases found with
        | none => simp [Lifecycle.trail, notificationLifecycle, Change.kind] at unshown
        | some read =>
          have shownUnread : read = false := by
            simpa [Lifecycle.trail, notificationLifecycle, Change.kind, Status.known, eq_comm]
              using shown read
          rw [shownUnread]
          cases base with
          | none => rfl
          | some before =>
            have seenUnread : before = false := by
              simpa [Lifecycle.trail, notificationLifecycle, Change.kind, Status.known, eq_comm]
                using seen before
            rw [seenUnread]
            rfl
      · obtain rfl : tail = [.read] := changes_of_kinds same (by decide)
        cases found with
        | none => simp [Lifecycle.trail, notificationLifecycle, Change.kind] at unshown
        | some read => cases base <;> rfl
      · obtain rfl : tail = [.deleted] := changes_of_kinds same (by decide)
        rfl
      · obtain rfl : tail = [.read, .deleted] := changes_of_kinds same (by decide)
        rfl

end SvcNotifier
