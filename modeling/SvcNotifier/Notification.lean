import SvcNotifier.Contract
import SvcNotifier.Library.Chunks
import SvcNotifier.Library.Program

/-!
# `notification.rs`

The rows, the signals and the functions that run on an open transaction. Each SQL text of the
source is one constructor of `Statement`, with its bound values; what PostgreSQL does with it
is `Postgres`. A function that runs statements is a program over them, so that the same text
is verified once (`Announcement`) and runs interleaved with other sessions (`Store`).
-/

namespace SvcNotifier

open Library

/-- A row of the `notifications` table. -/
structure Row where
  /-- The minted primary key. -/
  id : Uuid
  /-- Half of the dedup key. -/
  sourceEventId : Uuid
  /-- The owner; the other half of the dedup key. -/
  recipientId : Uuid
  /-- The rendering key. -/
  template : String
  /-- Producer data, as it was bound; what JSONB normalises of it is left out. -/
  payload : Value
  /-- The stored link, as text. -/
  link : Option String
  /-- NULL while unread. -/
  readAt : Option DateTime
  /-- The start of the inserting transaction. -/
  createdAt : DateTime

/-- The columns of `notifications_source_recipient_uniq`. -/
def Row.key (row : Row) : Uuid × Uuid := (row.sourceEventId, row.recipientId)

/-- The columns of `ORDER BY created_at, id`. -/
def Row.position (row : Row) : DateTime ×ₗ Uuid := toLex (row.createdAt, row.id)

/-- A row of a recipient, created at its number, to run the model on. -/
def sampleRow (recipient n : Nat) : Row :=
  { id := sampleId n, sourceEventId := sampleId (100 + n), recipientId := sampleId recipient,
    template := "welcome", payload := .object [], link := none, readAt := none,
    createdAt := ⟨n * 1000⟩ }

/-- `HydrationError`. -/
inductive HydrationError where
  /-- The stored link does not parse. -/
  | linkCorrupt
  deriving DecidableEq, Repr

/-- `sqlx::Error`, as far as the service looks into it: a database error has a SQLSTATE or
none, a decode error is the service's own, and all others are treated alike. -/
inductive SqlxError where
  /-- `Error::Database`, with its code. -/
  | database (code : Option String)
  /-- `Error::Decode`. -/
  | decode (error : HydrationError)
  /-- Any other variant: connection, pool, protocol and so on. -/
  | other (message : String)
  deriving DecidableEq, Repr

/-- `Notification`, a row as it is served. -/
structure Notification where
  /-- The primary key. -/
  id : Uuid
  /-- The rendering key. -/
  template : String
  /-- Producer data. -/
  payload : Value
  /-- The stored link, parsed again. -/
  link : Option RelativeLink
  /-- Null while unread. -/
  readAt : Option DateTime
  /-- When the row was inserted. -/
  createdAt : DateTime

/-- `Notification::from_row`. -/
def Notification.fromRow (row : Row) : Except HydrationError Notification :=
  let hydrated (link : Option RelativeLink) : Notification :=
    { id := row.id, template := row.template, payload := row.payload, link := link,
      readAt := row.readAt, createdAt := row.createdAt }
  match row.link with
  | none => .ok (hydrated none)
  | some raw => match RelativeLink.parse raw with
    | .ok link => .ok (hydrated (some link))
    | .error _ => .error .linkCorrupt

/-- `corrupt`. -/
def corrupt (error : HydrationError) : SqlxError := .decode error

/-- `NotificationSignal`, what a transaction announces. -/
inductive NotificationSignal where
  /-- A row has been inserted. -/
  | added (recipientId id : Uuid)
  /-- Rows have been marked as read. -/
  | read (recipientId : Uuid) (ids : List Uuid) (readAt : DateTime)
  /-- Rows have been removed. -/
  | deleted (recipientId : Uuid) (ids : List Uuid)
  deriving DecidableEq, Repr

/-- `NotificationSignal::recipient_id`. -/
def NotificationSignal.recipientId : NotificationSignal → Uuid
  | .added recipientId _ => recipientId
  | .read recipientId _ _ => recipientId
  | .deleted recipientId _ => recipientId

/-- `SIGNAL_ID_CHUNK`: ids in one payload. -/
def signalIdChunk : Nat := 150

/-- `SIGNALS_PER_STATEMENT`: payloads in one statement. -/
def signalsPerStatement : Nat := 150

/-- The statements the service runs on the `notifications` table, with their bound values. -/
inductive Statement where
  /-- `SELECT set_config('app.current_user_id', $1, true)`. -/
  | setConfig (userId : Uuid)
  /-- `INSERT INTO notifications … SELECT … FROM unnest($1, $3) … ON CONFLICT
  (source_event_id, recipient_id) DO NOTHING RETURNING id, recipient_id`. -/
  | insert (ids : List Uuid) (sourceEventId : Uuid) (recipientIds : List Uuid)
      (template : String) (payload : Value) (link : Option String)
  /-- `SELECT 1 FROM notifications WHERE id = $1 AND recipient_id = $2`. -/
  | anchor (cursor recipientId : Uuid)
  /-- The page: `WHERE recipient_id = $1 AND ($2 IS NULL OR (created_at, id) < (SELECT …))
  ORDER BY created_at DESC, id DESC LIMIT $3`. -/
  | page (recipientId : Uuid) (after : Option Uuid) (limit : Int)
  /-- `SELECT COUNT(*) … WHERE read_at IS NULL AND recipient_id = $1`. -/
  | countUnread (recipientId : Uuid)
  /-- `WITH before AS (SELECT …), transitioned AS (UPDATE … SET read_at = now() … RETURNING
  id, read_at) SELECT … FROM before LEFT JOIN transitioned …`. -/
  | markRead (id recipientId : Uuid)
  /-- `UPDATE notifications SET read_at = $1 WHERE read_at IS NULL AND recipient_id = $2
  RETURNING id`. -/
  | markAllRead (readAt : DateTime) (recipientId : Uuid)
  /-- `DELETE FROM notifications WHERE id = ANY($1) AND recipient_id = $2 RETURNING id`. -/
  | delete (ids : List Uuid) (recipientId : Uuid)
  /-- `SELECT … FROM notifications WHERE id = $1 AND recipient_id = $2`. -/
  | select (id recipientId : Uuid)
  /-- `SELECT pg_notify($1, payload) FROM unnest($2::text[]) AS payload`. -/
  | pgNotify (payloads : List NotificationSignal)

/-- What a statement returns: for `markRead`, the row of the final SELECT as
`(read_at, transitioned)`. -/
@[reducible]
def Statement.Reply : Statement → Type
  | .setConfig _ => Unit
  | .insert .. => List (Uuid × Uuid)
  | .anchor .. => Bool
  | .page .. => List Row
  | .countUnread _ => Nat
  | .markRead .. => Option (Option DateTime × Bool)
  | .markAllRead .. => List Uuid
  | .delete .. => List Uuid
  | .select .. => Option Row
  | .pgNotify _ => Unit

/-- Code that runs on an open transaction. A failing statement ends it with the error, as `?`
does after every statement of the source. -/
abbrev Tx (α : Type) := Program Statement Statement.Reply SqlxError α

/-- Run one statement. -/
def execute (statement : Statement) : Tx statement.Reply := Program.perform statement

/-- `signal`. -/
def signal (signals : List NotificationSignal) : Tx PUnit := do
  let _ ← execute (.pgNotify signals)

/-- `signal_all`. -/
def signalAll (signals : List NotificationSignal) : Tx PUnit :=
  (chunks signalsPerStatement signals).forM signal

/-- The signals `signal_read` hands to `signal_all`. -/
def readSignals (recipientId : Uuid) (ids : List Uuid) (readAt : DateTime) :
    List NotificationSignal :=
  (chunks signalIdChunk ids).map fun chunk => .read recipientId chunk readAt

/-- `signal_read`. -/
def signalRead (recipientId : Uuid) (ids : List Uuid) (readAt : DateTime) : Tx PUnit :=
  signalAll (readSignals recipientId ids readAt)

/-- The signals `signal_deleted` hands to `signal_all`. -/
def deletedSignals (recipientId : Uuid) (ids : List Uuid) : List NotificationSignal :=
  (chunks signalIdChunk ids).map fun chunk => .deleted recipientId chunk

/-- `signal_deleted`. -/
def signalDeleted (recipientId : Uuid) (ids : List Uuid) : Tx PUnit :=
  signalAll (deletedSignals recipientId ids)

/-- The signals of the rows an INSERT returned. -/
def addedSignals (rows : List (Uuid × Uuid)) : List NotificationSignal :=
  rows.map fun row => .added row.2 row.1

/-- `insert_notifications`; `nowV7 i` is the `i`-th identifier minted by the call. -/
def insertNotifications (nowV7 : Nat → Uuid) (sourceEventId : Uuid) (recipientIds : List Uuid)
    (template : String) (payload : Value) (link : Option RelativeLink) : Tx Nat := do
  let ids := (List.range recipientIds.length).map nowV7
  let rows ← execute
    (.insert ids sourceEventId recipientIds template payload (link.map RelativeLink.asStr))
  let signals := addedSignals rows
  signalAll signals
  pure signals.length

/-- `Page`. -/
structure Page where
  /-- The rows, newest first. -/
  nodes : List Notification
  /-- Whether there are more below them. -/
  hasNextPage : Bool

/-- `collect::<Result<Vec<_>, _>>()` over hydrated rows: the first error wins. -/
def hydrateAll : List Row → Except HydrationError (List Notification)
  | [] => .ok []
  | row :: rows => match Notification.fromRow row with
    | .error error => .error error
    | .ok notification => match hydrateAll rows with
      | .error error => .error error
      | .ok notifications => .ok (notification :: notifications)

/-- `first.clamp(1, 100)`. -/
def clampFirst (first : Int) : Int := if first < 1 then 1 else if 100 < first then 100 else first

/-- The second half of `list_notifications`: the page query and its hydration. -/
def listPage (recipientId : Uuid) (first : Int) (after : Option Uuid) : Tx (Option Page) := do
  let limit := clampFirst first
  let rows ← execute (.page recipientId after (limit + 1))
  let hasNextPage := decide (limit < (rows.length : Int))
  match hydrateAll (rows.take limit.toNat) with
  | .ok nodes => pure (some { nodes, hasNextPage })
  | .error error => .fail (corrupt error)

/-- `list_notifications`. -/
def listNotifications (recipientId : Uuid) (first : Int) (after : Option Uuid) :
    Tx (Option Page) :=
  match after with
  | none => listPage recipientId first none
  | some cursor => do
    let anchor ← execute (.anchor cursor recipientId)
    if anchor then listPage recipientId first (some cursor) else pure none

/-- `unread_count`. -/
def unreadCount (recipientId : Uuid) : Tx Int := do
  let n ← execute (.countUnread recipientId)
  pure (Int.ofNat n)

/-- `ReadOutcome`. -/
inductive ReadOutcome where
  /-- It was unread until now. -/
  | transitioned
  /-- It had been read. -/
  | alreadyRead
  deriving DecidableEq, Repr

/-- `mark_as_read`. -/
def markAsRead (recipientId id : Uuid) : Tx (Option ReadOutcome) := do
  let row ← execute (.markRead id recipientId)
  match row with
  | none => pure none
  | some (some readAt, true) => do
    signalRead recipientId [id] readAt
    pure (some .transitioned)
  | some _ => pure (some .alreadyRead)

/-- `mark_all_as_read`; `utcNow` is the reading of `Utc::now()` it takes. -/
def markAllAsRead (utcNow : DateTime) (recipientId : Uuid) : Tx (List Uuid × DateTime) := do
  let ids ← execute (.markAllRead utcNow recipientId)
  if ids.isEmpty then pure (ids, utcNow)
  else do
    signalRead recipientId ids utcNow
    pure (ids, utcNow)

/-- `delete_notifications`. -/
def deleteNotifications (recipientId : Uuid) (ids : List Uuid) : Tx (List Uuid) :=
  if ids.isEmpty then pure []
  else do
    let deleted ← execute (.delete ids recipientId)
    if deleted.isEmpty then pure deleted
    else do
      signalDeleted recipientId deleted
      pure deleted

/-- `read_notification_for`, from the open transaction to its commit. -/
def readNotificationFor (recipientId id : Uuid) : Tx (Option Notification) := do
  let _ ← execute (.setConfig recipientId)
  let row ← execute (.select id recipientId)
  match row with
  | none => pure none
  | some row => match Notification.fromRow row with
    | .ok notification => pure (some notification)
    | .error error => .fail (corrupt error)

end SvcNotifier
