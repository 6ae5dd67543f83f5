import SvcNotifier.Notification
import Mathlib.Data.List.Sort

/-!
# What PostgreSQL does with the statements

A statement reads a snapshot and, when it writes, collects row writes. The semantics is cut
where a session can be interleaved with others: which rows a statement aims at in its
snapshot (`targets`), what it writes to one of them (`write`), the WHERE it re-evaluates on a
later version (`selects`), and the reply it computes from its snapshot and its writes
(`reply`). Signals are queued by `pg_notify` and folded when two are equal.
-/

namespace SvcNotifier

open Library

/-- A row-level-security policy: the rows a session reaches under its
`app.current_user_id`. -/
abbrev Policy := Option Uuid → Row → Bool

/-- `notifications_app_scope`. -/
def notificationsAppScope : Policy := fun userId row => userId == some row.recipientId

/-- `notifications_ingest_write`. -/
def notificationsIngestWrite : Policy := fun _ _ => true

/-- One row write, with the version it was made on. -/
inductive Write where
  /-- A new row. -/
  | insert (row : Row)
  /-- `read_at` set on a row. -/
  | setRead (row : Row) (readAt : DateTime)
  /-- A row removed. -/
  | delete (row : Row)

namespace Write

/-- The row inserted, or the version written on. -/
def row : Write → Row
  | .insert row => row
  | .setRead row _ => row
  | .delete row => row

/-- The primary key of the row. -/
def id (write : Write) : Uuid := write.row.id

/-- The dedup key of the row. -/
def key (write : Write) : Uuid × Uuid := write.row.key

/-- The `read_at` a write sets. -/
def readAt : Write → Option DateTime
  | .setRead _ readAt => some readAt
  | _ => none

/-- The row version a write leaves behind. -/
def version : Write → Option Row
  | .insert row => some row
  | .setRead row readAt => some { row with readAt := some readAt }
  | .delete _ => none

end Write

/-- The table after one row write. -/
def applyWrite (rows : List Row) : Write → List Row
  | .insert row => rows ++ [row]
  | .setRead row readAt => rows.map fun current =>
      if current.id = row.id then { row with readAt := some readAt } else current
  | .delete row => rows.filter fun current => current.id ≠ row.id

/-- The table after the writes of a transaction. -/
def applyWrites (rows : List Row) (writes : List Write) : List Row := writes.foldl applyWrite rows

namespace Statement

/-- The statements that write rows. -/
def isWrite : Statement → Bool
  | .insert .. => true
  | .markRead .. => true
  | .markAllRead .. => true
  | .delete .. => true
  | _ => false

/-- The WHERE of an UPDATE or a DELETE. -/
def selects : Statement → Row → Bool
  | .markRead id recipientId, row =>
    row.id == id && row.recipientId == recipientId && row.readAt.isNone
  | .markAllRead _ recipientId, row => row.readAt.isNone && row.recipientId == recipientId
  | .delete ids recipientId, row => ids.contains row.id && row.recipientId == recipientId
  | _, _ => false

/-- The rows an INSERT proposes: `unnest` pairs the minted ids with the recipients. -/
def candidates (now : DateTime) : Statement → List Row
  | .insert ids sourceEventId recipientIds template payload link =>
    (ids.zip recipientIds).map fun pair =>
      { id := pair.1, sourceEventId := sourceEventId, recipientId := pair.2,
        template := template, payload := payload, link := link, readAt := none,
        createdAt := now.timestamptz }
  | _ => []

/-- What a writing statement aims at: the proposed rows of an INSERT, the rows of the snapshot
that an UPDATE or a DELETE selects. -/
def targets (now : DateTime) (statement : Statement) (snapshot : List Row) : List Row :=
  match statement with
  | .insert .. => statement.candidates now
  | _ => snapshot.filter statement.selects

/-- The write on one row; `now()` is the start of the transaction, and a bound instant is kept
in the resolution of the column. -/
def write (now : DateTime) : Statement → Row → Write
  | .markRead .., row => .setRead row now.timestamptz
  | .markAllRead readAt _, row => .setRead row readAt.timestamptz
  | .delete .., row => .delete row
  | _, row => .insert row

/-- The payloads a statement queues. -/
def payloads : Statement → List NotificationSignal
  | .pgNotify signals => signals
  | _ => []

end Statement

/-- The row a cursor names, when it is the recipient's. -/
def anchorRow (rows : List Row) (recipientId cursor : Uuid) : Option Row :=
  rows.find? fun row => row.id == cursor && row.recipientId == recipientId

/-- What a cursor names is a row of the recipient with its id. -/
theorem anchorRow_some {rows : List Row} {recipientId id : Uuid} {row : Row}
    (found : anchorRow rows recipientId id = some row) :
    row ∈ rows ∧ row.id = id ∧ row.recipientId = recipientId := by
  have named := List.find?_some found
  rw [Bool.and_eq_true, beq_iff_eq, beq_iff_eq] at named
  exact ⟨List.mem_of_find?_eq_some found, named.1, named.2⟩

/-- The row a cursor names, among rows told apart by their ids. -/
theorem anchorRow_eq_some {rows : List Row} {recipientId id : Uuid} {row : Row}
    (ids : (rows.map Row.id).Nodup) :
    anchorRow rows recipientId id = some row ↔
      row ∈ rows ∧ row.id = id ∧ row.recipientId = recipientId := by
  constructor
  · exact anchorRow_some
  · rintro ⟨member, sameId, sameRecipient⟩
    have some_ : (anchorRow rows recipientId id).isSome = true := by
      rw [anchorRow, List.find?_isSome]
      exact ⟨row, member, by simp [sameId, sameRecipient]⟩
    obtain ⟨other, found⟩ := Option.isSome_iff_exists.mp some_
    obtain ⟨there, otherId, -⟩ := anchorRow_some found
    have same : other = row :=
      List.inj_on_of_nodup_map ids there member (otherId.trans sameId.symm)
    rw [found, same]

/-- `$2 IS NULL OR (created_at, id) < (SELECT created_at, id …)`: an empty subquery compares
with NULL, which selects nothing. -/
def belowCursor (rows : List Row) (recipientId : Uuid) (after : Option Uuid) (row : Row) : Bool :=
  match after with
  | none => true
  | some cursor => match anchorRow rows recipientId cursor with
    | none => false
    | some anchor => decide (row.position < anchor.position)

/-- `ORDER BY created_at DESC, id DESC`. -/
def newestFirst (rows : List Row) : List Row :=
  rows.insertionSort fun left right => right.position ≤ left.position

/-- The rows of the page query, before its LIMIT. -/
def listed (rows : List Row) (recipientId : Uuid) (after : Option Uuid) : List Row :=
  newestFirst (rows.filter fun row =>
    row.recipientId == recipientId && belowCursor rows recipientId after row)

/-- The reply of a statement to the session that ran it, from the rows it saw and the writes it
made. RETURNING gives the rows as written. -/
def Statement.reply (statement : Statement) (snapshot : List Row) (writes : List Write) :
    statement.Reply :=
  match statement with
  | .setConfig _ => ()
  | .insert .. => writes.map fun write => (write.id, write.row.recipientId)
  | .anchor cursor recipientId => (anchorRow snapshot recipientId cursor).isSome
  | .page recipientId after limit => (listed snapshot recipientId after).take limit.toNat
  | .countUnread recipientId =>
    (snapshot.filter fun row => row.readAt.isNone && row.recipientId == recipientId).length
  | .markRead id recipientId =>
    (anchorRow snapshot recipientId id).map fun before =>
      let transitioned := writes.find? fun write => write.id == before.id
      ((transitioned.bind Write.readAt).or before.readAt, transitioned.isSome)
  | .markAllRead .. => writes.map Write.id
  | .delete .. => writes.map Write.id
  | .select id recipientId => anchorRow snapshot recipientId id
  | .pgNotify _ => ()

/-- `app.current_user_id` after a statement. -/
def Statement.userAfter (statement : Statement) (currentUser : Option Uuid) : Option Uuid :=
  match statement with
  | .setConfig userId => some userId
  | _ => currentUser

/-- Run a program whose statements read, each on the table committed when it starts: `views`
has one table for each. -/
def onViews {α : Type} (policy : Policy) (currentUser : Option Uuid) (views : List (List Row))
    (program : Tx α) : Option (Except SqlxError α) :=
  match program with
  | .done value => some (.ok value)
  | .fail error => some (.error error)
  | .call statement next => match views with
    | [] => none
    | table :: views =>
      onViews policy (statement.userAfter currentUser) views
        (next (statement.reply (table.filter (policy currentUser)) []))
termination_by structural program

/-- Queue signals: PostgreSQL folds a notification equal to one the transaction has queued. -/
def queueSignals (queued signals : List NotificationSignal) : List NotificationSignal :=
  signals.foldl (fun queued signal => if signal ∈ queued then queued else queued ++ [signal])
    queued

/-! ## Facts

A signal states one fact for each notification it names, and a row write is one fact. Writes
and announcements are compared as lists of facts. -/

/-- What happened to a notification. -/
inductive FactKind where
  /-- It was inserted. -/
  | added
  /-- It was marked as read. -/
  | read
  /-- It was removed. -/
  | deleted
  deriving DecidableEq, Repr

/-- One thing that happened to one notification. -/
structure Fact where
  /-- What happened. -/
  kind : FactKind
  /-- Whose notification. -/
  recipientId : Uuid
  /-- Which notification. -/
  id : Uuid
  deriving DecidableEq, Repr

/-- The facts a signal states, in the order of its ids. -/
def NotificationSignal.facts : NotificationSignal → List Fact
  | .added recipientId id => [⟨.added, recipientId, id⟩]
  | .read recipientId ids _ => ids.map (⟨.read, recipientId, ·⟩)
  | .deleted recipientId ids => ids.map (⟨.deleted, recipientId, ·⟩)

/-- The kind of fact a write is. -/
def Write.kind : Write → FactKind
  | .insert _ => .added
  | .setRead _ _ => .read
  | .delete _ => .deleted

/-- The fact a write is. -/
def Write.fact (write : Write) : Fact := ⟨write.kind, write.row.recipientId, write.id⟩

/-- A signal that names at least one notification and at most a chunk of them. -/
def NotificationSignal.Sized (signal : NotificationSignal) : Prop :=
  0 < signal.facts.length ∧ signal.facts.length ≤ signalIdChunk

/-- The queued signals state exactly the writes, in payloads of the right size, none twice. -/
structure Announces (writes : List Write) (queued : List NotificationSignal) : Prop where
  /-- Fact by fact, in order. -/
  facts : queued.flatMap NotificationSignal.facts = writes.map Write.fact
  /-- No payload is empty or over the chunk bound. -/
  sized : ∀ signal ∈ queued, signal.Sized
  /-- No two payloads are equal, so none is folded. -/
  distinct : queued.Nodup

/-- Nothing written, nothing announced. -/
theorem announces_nothing : Announces [] [] := ⟨rfl, by simp, List.nodup_nil⟩

/-- What changed nothing announces nothing. -/
theorem Announces.silent {queued : List NotificationSignal} (announced : Announces [] queued) :
    queued = [] := by
  cases queued with
  | nil => rfl
  | cons signal rest =>
    have none : signal.facts = [] := by
      have facts := announced.facts
      simp only [List.flatMap_cons, List.map_nil, List.append_eq_nil_iff] at facts
      exact facts.1
    have some := (announced.sized signal List.mem_cons_self).1
    simp [none] at some

/-- Signals that are all new to the queue are appended to it. -/
theorem queueSignals_append (queued signals : List NotificationSignal) (fresh : signals.Nodup)
    (apart : ∀ signal ∈ signals, signal ∉ queued) :
    queueSignals queued signals = queued ++ signals := by
  induction signals generalizing queued with
  | nil => simp [queueSignals]
  | cons signal signals ih =>
    rw [List.nodup_cons] at fresh
    have new : signal ∉ queued := apart signal List.mem_cons_self
    have rest : ∀ later ∈ signals, later ∉ queued ++ [signal] := by
      intro later member inside
      rcases List.mem_append.mp inside with old | same
      · exact apart later (List.mem_cons_of_mem _ member) old
      · exact fresh.1 (List.mem_singleton.mp same ▸ member)
    have step := ih (queued ++ [signal]) fresh.2 rest
    simp only [queueSignals] at step ⊢
    rw [List.foldl_cons, if_neg new, step, List.append_assoc, List.singleton_append]

end SvcNotifier
