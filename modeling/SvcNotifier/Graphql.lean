import SvcNotifier.Postgres

/-!
# `graphql.rs`

Who the caller is, and the resolvers. A resolver refuses before it opens a transaction, or
runs a program on one and then commits it or drops it. Every transaction the service opens on
the table is an `Operation`; the only one that is not a resolver's is the intake's `fan_out`.
-/

namespace SvcNotifier

open Library

/-- `Passport`, as far as the service reads it. -/
inductive Passport where
  /-- A person, and who impersonates them, if anybody does. -/
  | human (userId : Uuid) (impersonatorId : Option Uuid)
  /-- A service. -/
  | service (serviceId : Uuid)
  deriving DecidableEq, Repr

/-- `EdgeError`, by the constructors the service uses. -/
inductive EdgeError where
  /-- `INTERNAL`, with the text that is logged. -/
  | internal (message : String)
  /-- `FORBIDDEN`. -/
  | forbidden
  /-- `NOT_FOUND`. -/
  | notFound
  /-- `BAD_USER_INPUT`. -/
  | badUserInput
  /-- `INVALID_STATE`, with its reason and its parameters. -/
  | invalidState (reason : String) (params : List (String × String))
  deriving DecidableEq, Repr

/-- The request context, with what the middleware has put in it. -/
structure Context where
  /-- The passport, where the request came with one. -/
  passport : Option Passport

/-- `passport`. -/
def passport (ctx : Context) : Except EdgeError Passport :=
  match ctx.passport with
  | some passport => .ok passport
  | none => .error (.internal "missing passport in context")

/-- `resolve_recipient`: the acting human, never the impersonated one. -/
def resolveRecipient : Passport → Option Uuid
  | .human userId impersonatorId => some (impersonatorId.getD userId)
  | .service _ => none

/-- `recipient`. -/
def recipient (ctx : Context) : Except EdgeError Uuid :=
  match passport ctx with
  | .error error => .error error
  | .ok passport => match resolveRecipient passport with
    | some recipient => .ok recipient
    | none => .error .forbidden

/-- `db_error`. -/
def dbError (_ : SqlxError) : EdgeError := .internal "database error"

/-- `NotificationNode`. Its `id` is the text of the identifier. -/
structure NotificationNode where
  /-- The identifier of the row. -/
  id : Uuid
  /-- The rendering key. -/
  template : String
  /-- Producer data. -/
  payload : Value
  /-- The link, as text. -/
  link : Option String
  /-- Null while unread. -/
  readAt : Option DateTime
  /-- When the row was inserted. -/
  createdAt : DateTime

/-- `NotificationNode::from`. -/
def NotificationNode.from (notification : Notification) : NotificationNode :=
  { id := notification.id, template := notification.template, payload := notification.payload,
    link := notification.link.map RelativeLink.asStr, readAt := notification.readAt,
    createdAt := notification.createdAt }

/-- What a caller is answered: a `NotificationConnection`, a count, `true`, or the number of
rows `fan_out` wrote. -/
inductive Answer where
  /-- A page of the list, and whether more follow. -/
  | connection (nodes : List NotificationNode) (hasNextPage : Bool)
  /-- How many rows are unread. -/
  | count (unread : Int)
  /-- Done. -/
  | ack
  /-- How many rows a fan-out has inserted. -/
  | written (rows : Nat)

/-- How a function leaves its transaction: it commits and then answers, or it returns an error
and drops the transaction, which rolls it back. -/
inductive Ending where
  /-- It commits, and answers. -/
  | commit (answer : Except EdgeError Answer)
  /-- It is refused, and nothing is written. -/
  | rollback (error : EdgeError)

/-- The statement `scoped_tx` runs on the transaction it opens. -/
def scopedTx (caller : Uuid) : Tx PUnit := do
  let _ ← execute (.setConfig caller)

/-- `notifier_notifications`, from the open transaction on. -/
def notifierNotifications (caller : Uuid) (first : Int32) (after : Option Uuid) : Tx Ending := do
  scopedTx caller
  let page ← listNotifications caller first.toInt after
  match page with
  | none => pure (.commit (.error .notFound))
  | some page =>
    pure (.commit (.ok (.connection (page.nodes.map NotificationNode.from) page.hasNextPage)))

/-- `notifier_unread_count`; the count is cast to `i32`. -/
def notifierUnreadCount (caller : Uuid) : Tx Ending := do
  scopedTx caller
  let count ← unreadCount caller
  pure (.commit (.ok (.count (Int32.ofInt count).toInt)))

/-- `notifier_mark_as_read`. -/
def notifierMarkAsRead (caller id : Uuid) : Tx Ending := do
  scopedTx caller
  let outcome ← markAsRead caller id
  match outcome with
  | some _ => pure (.commit (.ok .ack))
  | none => pure (.rollback .notFound)

/-- `notifier_mark_all_as_read`. -/
def notifierMarkAllAsRead (utcNow : DateTime) (caller : Uuid) : Tx Ending := do
  scopedTx caller
  let _ ← markAllAsRead utcNow caller
  pure (.commit (.ok .ack))

/-- `notifier_delete_notification`. -/
def notifierDeleteNotification (caller id : Uuid) : Tx Ending := do
  scopedTx caller
  let deleted ← deleteNotifications caller [id]
  if deleted.isEmpty then pure (.rollback .notFound) else pure (.commit (.ok .ack))

/-- `notifier_delete_notifications`. -/
def notifierDeleteNotifications (caller : Uuid) (ids : List Uuid) : Tx Ending := do
  scopedTx caller
  let _ ← deleteNotifications caller ids
  pure (.commit (.ok .ack))

/-- `fan_out` of the intake, from the open transaction on. -/
def fanOut (nowV7 : Nat → Uuid) (command : DeliverNotification) : Tx Ending := do
  let written ← insertNotifications nowV7 command.sourceEventId command.recipientIds
    command.template command.payload command.link
  pure (.commit (.ok (.written written)))

/-- A transaction of the service, with the clock reading or the minted identifiers that the
function takes itself. -/
inductive Operation where
  /-- `fan_out`, with the identifiers that it mints. -/
  | fanOut (nowV7 : Nat → Uuid) (command : DeliverNotification)
  /-- `notifier_notifications`. -/
  | notifications (caller : Uuid) (first : Int32) (after : Option Uuid)
  /-- `notifier_unread_count`. -/
  | unreadCount (caller : Uuid)
  /-- `notifier_mark_as_read`. -/
  | markAsRead (caller id : Uuid)
  /-- `notifier_mark_all_as_read`, with the clock that it reads. -/
  | markAllAsRead (utcNow : DateTime) (caller : Uuid)
  /-- `notifier_delete_notification`. -/
  | deleteNotification (caller id : Uuid)
  /-- `notifier_delete_notifications`. -/
  | deleteNotifications (caller : Uuid) (ids : List Uuid)

namespace Operation

/-- The program an operation runs on its transaction. -/
def body : Operation → Tx Ending
  | .fanOut nowV7 command => SvcNotifier.fanOut nowV7 command
  | .notifications caller first after => notifierNotifications caller first after
  | .unreadCount caller => notifierUnreadCount caller
  | .markAsRead caller id => notifierMarkAsRead caller id
  | .markAllAsRead utcNow caller => notifierMarkAllAsRead utcNow caller
  | .deleteNotification caller id => notifierDeleteNotification caller id
  | .deleteNotifications caller ids => notifierDeleteNotifications caller ids

/-- The INSERT of a deliver command. -/
def insertion (nowV7 : Nat → Uuid) (command : DeliverNotification) : Statement :=
  .insert ((List.range command.recipientIds.length).map nowV7) command.sourceEventId
    command.recipientIds command.template command.payload (command.link.map RelativeLink.asStr)

/-- The one writing statement of an operation, if it has one. -/
def writing : Operation → Option Statement
  | .fanOut nowV7 command => some (insertion nowV7 command)
  | .notifications .. => none
  | .unreadCount _ => none
  | .markAsRead caller id => some (.markRead id caller)
  | .markAllAsRead utcNow caller => some (.markAllRead utcNow caller)
  | .deleteNotification caller id => some (.delete [id] caller)
  | .deleteNotifications caller ids => some (.delete ids caller)

/-- The human a query or mutation acts for. A fan-out acts for nobody. -/
def caller : Operation → Option Uuid
  | .fanOut .. => none
  | .notifications caller .. => some caller
  | .unreadCount caller => some caller
  | .markAsRead caller _ => some caller
  | .markAllAsRead _ caller => some caller
  | .deleteNotification caller _ => some caller
  | .deleteNotifications caller _ => some caller

/-- The policy of the role an operation's pool connects as. -/
def policy : Operation → Policy
  | .fanOut .. => notificationsIngestWrite
  | _ => notificationsAppScope

end Operation

/-- A root field of the query and mutation types, with its arguments as GraphQL passes them. -/
inductive Request where
  /-- `notifierNotifications`. -/
  | notifications (first : Int32) (after : Option String)
  /-- `notifierUnreadCount`. -/
  | unreadCount
  /-- `notifierMarkAsRead`. -/
  | markAsRead (notificationId : String)
  /-- `notifierMarkAllAsRead`. -/
  | markAllAsRead
  /-- `notifierDeleteNotification`. -/
  | deleteNotification (notificationId : String)
  /-- `notifierDeleteNotifications`. -/
  | deleteNotifications (ids : List String)

section

variable (parseStr : String → Option Uuid)

/-- `require_id`, over `Uuid::parse_str`. -/
def requireId (id : String) : Except EdgeError Uuid :=
  match parseStr id with
  | some id => .ok id
  | none => .error .badUserInput

/-- `ids.iter().map(require_id).collect()`: the first bad identifier refuses the list. -/
def requireIds : List String → Except EdgeError (List Uuid)
  | [] => .ok []
  | id :: ids => match requireId parseStr id with
    | .error error => .error error
    | .ok id => match requireIds ids with
      | .error error => .error error
      | .ok ids => .ok (id :: ids)

/-- `parse_id`. -/
def parseId : Option String → Except EdgeError (Option Uuid)
  | some id => (requireId parseStr id).map some
  | none => .ok none

/-- What a resolver decides before it opens a transaction: a refusal, or the operation. -/
def resolve (utcNow : DateTime) (ctx : Context) (request : Request) :
    Except EdgeError Operation :=
  match recipient ctx with
  | .error error => .error error
  | .ok caller => match request with
    | .notifications first after => (parseId parseStr after).map (.notifications caller first ·)
    | .unreadCount => .ok (.unreadCount caller)
    | .markAsRead id => (requireId parseStr id).map (.markAsRead caller ·)
    | .markAllAsRead => .ok (.markAllAsRead utcNow caller)
    | .deleteNotification id => (requireId parseStr id).map (.deleteNotification caller ·)
    | .deleteNotifications ids => (requireIds parseStr ids).map (.deleteNotifications caller ·)

end

end SvcNotifier
